namespace Routewright

inductive Method
  | get
  | post
  | put
  | delete
  | patch
  | options
  | head
deriving DecidableEq, Repr

namespace Method

def name : Method → String
  | get => "GET"
  | post => "POST"
  | put => "PUT"
  | delete => "DELETE"
  | patch => "PATCH"
  | options => "OPTIONS"
  | head => "HEAD"

def all : List Method :=
  [get, post, put, delete, patch, options, head]

def ofName? (name : String) : Option Method :=
  all.find? (·.name == name)

theorem mem_all (m : Method) : m ∈ all := by
  cases m <;> decide

@[simp] theorem ofName?_name (m : Method) : ofName? m.name = some m := by
  cases m <;> decide

theorem ofName?_eq_some_iff {s : String} {m : Method} : ofName? s = some m ↔ m.name = s := by
  refine ⟨fun h => ?_, fun h => h ▸ ofName?_name m⟩
  simpa using List.find?_some h

end Method

structure Route where
  method : Method
  path : String
deriving DecidableEq, Repr

def Route.text (r : Route) : String :=
  r.method.name ++ " " ++ r.path

end Routewright
