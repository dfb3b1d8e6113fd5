import Routewright.Server.Framework

/-!
Calls that change a framework in place, write by write.

A step that fails does not undo the writes before it, so a call gives the framework that is left
also when it is refused.
-/

namespace Routewright.Framework

abbrev Update := ExceptT Failure (StateM Framework)

namespace Update

def runOn {α : Type} (f : Framework) (steps : Update α) : Except Failure α × Framework :=
  steps.run.run f

def require {α β : Type} (failure : β → Failure) : Except β α → Update α
  | .error issue => throw (failure issue)
  | .ok a => pure a

def writeTable (write : MuxTable → MuxTable) : Update Unit :=
  modify fun f => { f with mux := write f.mux }

def configure (value : ConfigValue) : Update Unit := do
  let f ← get
  if value.type ≠ f.kind.configType then
    throw (.value (.wrongType f.kind.name f.kind.configType value.type))
  if f.isConfigured then throw (.configuration (.alreadyConfigured f.kind.name))
  let addr ← require Failure.value
    (MuxTable.addrOfFields f.kind.configType f.mux.defaultAddr value.fields)
  writeTable fun t => { t with addr := some addr }

def claim (r : Route) (h : Handler) : Update Unit := do
  let key ← require (fun issue => .decorator none (.badPattern r.path issue)) (Pattern.key r.path)
  if let some previous := (← get).mux.claimed.get? key then
    throw (.duplicateRoute r.path previous h.qualifiedName)
  writeTable fun t => { t with claimed := t.claimed.insert key h.qualifiedName }

def bind (r : Route) (h : Handler) : Update Unit := do
  let statement := registration (← get).kind r h
  claim r h
  writeTable fun t => { t with imports := t.imports.insert h.importPath h.package }
  writeTable fun t => { t with registrations := t.registrations ++ [statement] }
  writeTable fun t => { t with bindings := t.bindings ++ [⟨r, h⟩] }
  modify fun f => { f with needsJson := f.needsJson || (f.kind == .params && h.needsDecoding) }

end Update

def configureInPlace (f : Framework) (value : ConfigValue) : Except Failure Unit × Framework :=
  (Update.configure value).runOn f

def bindInPlace (f : Framework) (r : Route) (h : Handler) : Except Failure Unit × Framework :=
  (Update.bind r h).runOn f

end Routewright.Framework
