import Routewright.Proofs.Except
import Routewright.Server.Update

namespace Routewright.Framework

variable {f : Framework} {r : Route} {h : Handler}

namespace Update

lemma runOn_bind {α β : Type} (steps : Update α) (next : α → Update β) :
    (steps >>= next).runOn f =
      match steps.runOn f with
      | (.ok a, g) => (next a).runOn g
      | (.error failure, g) => (.error failure, g) := by
  rcases hsteps : steps.runOn f with ⟨failure | a, g⟩
  · exact exceptState_bind_of_error hsteps next
  · exact exceptState_bind_of_ok hsteps next

lemma runOn_get : (get : Update Framework).runOn f = (.ok f, f) :=
  rfl

lemma runOn_require {α β : Type} {failure : β → Failure} {x : Except β α} :
    (require failure x).runOn f = (x.mapError failure, f) := by
  cases x <;> rfl

lemma runOn_claim : (claim r h).runOn f =
    match Pattern.key r.path with
    | .error issue => (.error (.decorator none (.badPattern r.path issue)), f)
    | .ok key =>
      match f.mux.claimed.get? key with
      | some previous => (.error (.duplicateRoute r.path previous h.qualifiedName), f)
      | none =>
        (.ok (), { f with mux :=
          { f.mux with claimed := f.mux.claimed.insert key h.qualifiedName } }) := by
  rw [claim, runOn_bind, runOn_require]
  cases Pattern.key r.path with
  | error issue => rfl
  | ok key =>
    simp only [Except.mapError, runOn_bind, runOn_get]
    cases f.mux.claimed.get? key <;> rfl

end Update

def outcome (f : Framework) : Except Failure Framework → Except Failure Unit × Framework
  | .error failure => (.error failure, f)
  | .ok g => (.ok (), g)

lemma configureInPlace_eq (f : Framework) (value : ConfigValue) :
    f.configureInPlace value = f.outcome (f.configure value) := by
  rw [configure, MuxTable.configure, configureInPlace, Update.configure, Update.runOn_bind,
    Update.runOn_get]
  by_cases htype : value.type = f.kind.configType
  · cases hconfigured : f.mux.isConfigured with
    | true =>
      simp only [htype, isConfigured, hconfigured, ne_eq, not_true_eq_false, ↓reduceIte,
        ExceptT.bind_throw]
      rfl
    | false =>
      simp only [htype, isConfigured, hconfigured, ne_eq, not_true_eq_false, Bool.false_eq_true,
        ↓reduceIte, Update.runOn_bind, Update.runOn_require]
      cases MuxTable.addrOfFields f.kind.configType f.mux.defaultAddr value.fields <;> rfl
  · simp only [htype, ne_eq, not_false_eq_true, ↓reduceIte, ExceptT.bind_throw]
    rfl

lemma bindInPlace_eq (f : Framework) (r : Route) (h : Handler) :
    f.bindInPlace r h = f.outcome (f.bind r h) := by
  rw [bind, MuxTable.claim, bindInPlace, Update.bind]
  simp only [Update.runOn_bind, Update.runOn_get, Update.runOn_claim]
  cases Pattern.key r.path with
  | error issue => rfl
  | ok key =>
    -- Behind the claim only writes are left; together they are the table that is claimed.
    simp only
    cases f.mux.claimed.get? key <;> rfl

end Routewright.Framework
