import Routewright.Dict
import Routewright.Go.Literal
import Routewright.Handler
import Routewright.Server.Bootstrap
import Routewright.Server.Pattern

namespace Routewright

structure ConfigValue where
  package : Option String
  type : String
  fields : List (String × String)
deriving DecidableEq, Repr

structure MuxTable where
  defaultAddr : String
  addr : Option String := none
  bindings : List Binding := []
  /-- The keys of the bound paths, with the handlers that claimed them. -/
  claimed : Dict String := ∅
  registrations : List String := []
  imports : Dict String := ∅
deriving DecidableEq, Repr

namespace MuxTable

def isConfigured (t : MuxTable) : Bool :=
  t.addr.isSome

def listenAddr (t : MuxTable) : String :=
  t.addr.getD t.defaultAddr

def addrOfFields (type addr : String) : List (String × String) → Except ValueIssue String
  | [] => .ok addr
  | (key, literal) :: rest =>
    if key = "Addr" then
      match Go.unquote? literal.toList with
      | none => .error (.notString type key literal)
      | some s => addrOfFields type (.ofList s) rest
    else .error (.unknownField type key)

def configure (t : MuxTable) (framework configType : String) (value : ConfigValue) :
    Except Failure MuxTable :=
  if value.type ≠ configType then
    .error (.value (.wrongType framework configType value.type))
  else if t.isConfigured then .error (.configuration (.alreadyConfigured framework))
  else
    match addrOfFields configType t.defaultAddr value.fields with
    | .error issue => .error (.value issue)
    | .ok addr => .ok { t with addr := some addr }

def claim (t : MuxTable) (r : Route) (h : Handler) (registration : String) :
    Except Failure MuxTable :=
  match Pattern.key r.path with
  | .error issue => .error (.decorator none (.badPattern r.path issue))
  | .ok key =>
    match t.claimed.get? key with
    | some previous => .error (.duplicateRoute r.path previous h.qualifiedName)
    | none =>
      .ok { t with
        bindings := t.bindings ++ [⟨r, h⟩]
        claimed := t.claimed.insert key h.qualifiedName
        registrations := t.registrations ++ [registration]
        imports := t.imports.insert h.importPath h.package }

def serverImports : List String := ["context", "errors", "net/http"]

def bootstrap (t : MuxTable) (functionName : String) (extra : List String) : Bootstrap where
  imports :=
    (serverImports ++ extra).map GoImport.standard ++
      t.imports.entries.map fun e => ⟨e.1, e.2⟩
  functionName := functionName
  body := bootstrapBody functionName (Go.quote t.listenAddr) t.registrations

end MuxTable

end Routewright
