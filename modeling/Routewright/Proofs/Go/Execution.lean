import Mathlib.Logic.Function.Basic
import Routewright.Proofs.Go.Checking

/-! The meaning of the statements of request handlers: blocks have scopes of their own, and a return
leaves all blocks. Only the function of a request that is well-formed has a meaning. -/

namespace Routewright.Go

structure Request where
  pathValue : String → String
  queryValue : String → String
  headerValue : String → String

/-- What the texts of JSON values stand for, by the type they are decoded into. -/
abbrev Decoder (α : Type) := String → String → Option α

variable {α : Type}

inductive Value (α : Type)
  | zero (type : String)
  | text (s : String)
  | decoded (a : α)

def Value.fresh (type : String) : Value α :=
  if type = "string" then .text "" else .zero type

inductive Passed (α : Type)
  | value (v : Value α)
  | pointer (target : Value α)

inductive Event (α : Type)
  | pathValue (key : String)
  | queryValue (key : String)
  | headerValue (key : String)
  | refused (status : Nat) (text : String)
  | called (function : String) (args : List (Passed α))

inductive Local (α : Type)
  | text (s : String)
  | pointer (type : String) (target : Value α)
  /-- A request, a response writer or an error. -/
  | other

abbrev Scope (α : Type) := String → Option (Local α)

def Scope.empty : Scope α := fun _ => none

def Scope.set (s : Scope α) (name : String) (v : Local α) : Scope α :=
  Function.update s name (some v)

structure Frame (α : Type) where
  scopes : List (Scope α)
  trace : List (Event α)

namespace Frame

def find (f : Frame α) (name : String) : Option (Local α) :=
  f.scopes.findSome? (· name)

def declare (f : Frame α) (name : String) (v : Local α) : Option (Frame α) :=
  match f.scopes with
  | [] => none
  | s :: rest =>
    match s name with
    | some _ => none
    | none => some { f with scopes := s.set name v :: rest }

def setIn (name : String) (v : Local α) : List (Scope α) → Option (List (Scope α))
  | [] => none
  | s :: rest =>
    match s name with
    | some _ => some (s.set name v :: rest)
    | none => (setIn name v rest).map (s :: ·)

def set (f : Frame α) (name : String) (v : Local α) : Option (Frame α) :=
  (setIn name v f.scopes).map fun scopes => { f with scopes := scopes }

def note (f : Frame α) (events : List (Event α)) : Frame α :=
  { f with trace := f.trace ++ events }

def text? (f : Frame α) (name : String) : Option String :=
  match f.find name with
  | some (.text s) => some s
  | _ => none

def pointer? (f : Frame α) (name : String) : Option (String × Value α) :=
  match f.find name with
  | some (.pointer type target) => some (type, target)
  | _ => none

end Frame

def TextExpr.eval (req : Request) (f : Frame α) : TextExpr → Option (String × List (Event α))
  | var name => (f.text? name).map (·, [])
  | literal source => (literalText? source).map (·, [])
  | pathValue key => some (req.pathValue key, [.pathValue key])
  | queryValue key => some (req.queryValue key, [.queryValue key])
  | headerValue key => some (req.headerValue key, [.headerValue key])
  | append left right => do
    let x ← left.eval req f
    let y ← right.eval req f
    some (x.1 ++ y.1, x.2 ++ y.2)

def Argument.eval (f : Frame α) (a : Argument) : Option (Passed α) := do
  let x ← f.pointer? a.name
  some (if a.dereferenced then .value x.2 else .pointer x.2)

inductive Flow
  | next
  | left

def block (body : Frame α → Option (Flow × Frame α)) (scopes : List (Scope α)) (f : Frame α) :
    Option (Flow × Frame α) := do
  let x ← body { f with scopes := scopes ++ f.scopes }
  some (x.1, { x.2 with scopes := x.2.scopes.drop scopes.length })

def teapot : Nat := 418

mutual

def Statement.exec (req : Request) (decode : Decoder α) :
    Statement → Frame α → Option (Flow × Frame α)
  | .declare name value, f => do
    let x ← value.eval req f
    let g ← (f.note x.2).declare name (.text x.1)
    some (.next, g)
  | .assign name value, f => do
    let _ ← f.text? name
    let x ← value.eval req f
    let g ← (f.note x.2).set name (.text x.1)
    some (.next, g)
  | .append name value, f => do
    let old ← f.text? name
    let x ← value.eval req f
    let g ← (f.note x.2).set name (.text (old ++ x.1))
    some (.next, g)
  | .allocate name type, f => do
    let g ← f.declare name (.pointer type (.fresh type))
    some (.next, g)
  | .store pointer value, f => do
    let target ← f.pointer? pointer
    let x ← value.eval req f
    if target.1 = "string" then
      let g ← (f.note x.2).set pointer (.pointer target.1 (.text x.1))
      some (.next, g)
    else none
  | .whenEmpty name body, f => do
    let s ← f.text? name
    if s = "" then block (execAll req decode body) [.empty] f else some (.next, f)
  | .whenPresent name body, f => do
    let s ← f.text? name
    if s = "" then some (.next, f) else block (execAll req decode body) [.empty] f
  | .decode raw pointer onFailure, f => do
    let s ← f.text? raw
    let target ← f.pointer? pointer
    match decode target.1 s with
    | some a =>
      let g ← f.set pointer (.pointer target.1 (.decoded a))
      some (.next, g)
    | none => block (execAll req decode onFailure) [.empty, Scope.empty.set "err" .other] f
  | .refuse name, f => do
    let s ← f.text? name
    some (.next, f.note [.refused teapot s])
  | .leave, f => some (.left, f)
  | .call function args, f => do
    let args ← args.mapM (Argument.eval f)
    some (.next, f.note [.called function args])

def execAll (req : Request) (decode : Decoder α) :
    List Statement → Frame α → Option (Flow × Frame α)
  | [], f => some (.next, f)
  | s :: rest, f => do
    let x ← s.exec req decode f
    match x.1 with
    | .next => execAll req decode rest x.2
    | .left => some x

end

/-- What happens when a function with a response writer `w` and a request `r` is called, in a file
that imports packages by the given names. -/
def run (packages : List String) (req : Request) (decode : Decoder α) (body : List Statement) :
    Option (List (Event α)) :=
  if isWellFormed packages body then
    (execAll req decode body ⟨[(Scope.empty.set "w" .other).set "r" .other], []⟩).map (·.2.trace)
  else none

@[simp]
lemma Scope.empty_apply (name : String) : (Scope.empty : Scope α) name = none := by
  rw [Scope.empty]

@[simp]
lemma Scope.set_self (s : Scope α) (name : String) (v : Local α) : s.set name v name = some v :=
  Function.update_self ..

lemma Scope.set_of_ne (s : Scope α) {name other : String} (v : Local α) (h : other ≠ name) :
    s.set name v other = s other :=
  Function.update_of_ne h ..

@[simp]
lemma Scope.set_set (s : Scope α) (name : String) (v w : Local α) :
    (s.set name v).set name w = s.set name w :=
  Function.update_idem ..

namespace Frame

variable {s : Scope α} (scopes : List (Scope α)) (t : List (Event α)) {name : String}

@[simp]
lemma note_mk (events : List (Event α)) : note ⟨scopes, t⟩ events = ⟨scopes, t ++ events⟩ :=
  rfl

@[simp]
lemma text?_cons_of_some {x : String} (h : s name = some (.text x)) :
    text? ⟨s :: scopes, t⟩ name = some x := by
  simp [text?, find, h]

@[simp]
lemma text?_cons_of_none (h : s name = none) :
    text? ⟨s :: scopes, t⟩ name = text? ⟨scopes, t⟩ name := by
  simp [text?, find, h]

lemma pointer?_cons_of_some {type : String} {v : Value α} (h : s name = some (.pointer type v)) :
    pointer? ⟨s :: scopes, t⟩ name = some (type, v) := by
  simp [pointer?, find, h]

@[simp]
lemma pointer?_set_self (type : String) (v : Value α) :
    pointer? ⟨s.set name (.pointer type v) :: scopes, t⟩ name = some (type, v) :=
  pointer?_cons_of_some _ _ (Scope.set_self ..)

@[simp]
lemma pointer?_cons_of_none (h : s name = none) :
    pointer? ⟨s :: scopes, t⟩ name = pointer? ⟨scopes, t⟩ name := by
  simp [pointer?, find, h]

@[simp]
lemma declare_cons_of_none (v : Local α) (h : s name = none) :
    declare ⟨s :: scopes, t⟩ name v = some ⟨s.set name v :: scopes, t⟩ := by
  simp [declare, h]

@[simp]
lemma set_cons_of_some {old : Local α} (v : Local α) (h : s name = some old) :
    set ⟨s :: scopes, t⟩ name v = some ⟨s.set name v :: scopes, t⟩ := by
  simp [set, setIn, h]

@[simp]
lemma set_cons_of_none (v : Local α) (h : s name = none) :
    set ⟨s :: scopes, t⟩ name v =
      (set ⟨scopes, t⟩ name v).map fun f => ⟨s :: f.scopes, f.trace⟩ := by
  simp [set, setIn, h, Function.comp_def]

end Frame

lemma execAll_append (req : Request) (decode : Decoder α) (first second : List Statement)
    (f : Frame α) :
    execAll req decode (first ++ second) f =
      (execAll req decode first f).bind fun x =>
        match x.1 with
        | .next => execAll req decode second x.2
        | .left => some x := by
  induction first generalizing f with
  | nil => simp [execAll]
  | cons s rest ih =>
    rw [List.cons_append, execAll, execAll]
    cases hs : s.exec req decode f with
    | none => rfl
    | some x =>
      obtain ⟨flow, g⟩ := x
      cases flow
      · exact ih g
      · rfl

lemma execAll_append_of_next {req : Request} {decode : Decoder α} {first : List Statement}
    {f g : Frame α} (h : execAll req decode first f = some (.next, g)) (second : List Statement) :
    execAll req decode (first ++ second) f = execAll req decode second g := by
  rw [execAll_append, h]
  rfl

lemma execAll_append_of_left {req : Request} {decode : Decoder α} {first : List Statement}
    {f g : Frame α} (h : execAll req decode first f = some (.left, g)) (second : List Statement) :
    execAll req decode (first ++ second) f = some (.left, g) := by
  rw [execAll_append, h]
  rfl

lemma execAll_append_of_none {req : Request} {decode : Decoder α} {first : List Statement}
    {f : Frame α} (h : execAll req decode first f = none) (second : List Statement) :
    execAll req decode (first ++ second) f = none := by
  rw [execAll_append, h]
  rfl

end Routewright.Go
