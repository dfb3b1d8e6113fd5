import Mathlib.Data.List.Basic
import Routewright.Proofs.Server.Update

namespace Routewright

namespace MuxTable

def bound (t : MuxTable) (key : String) (b : Binding) (registration : String) : MuxTable :=
  { t with
    bindings := t.bindings ++ [b]
    claimed := t.claimed.insert key b.handler.qualifiedName
    registrations := t.registrations ++ [registration]
    imports := t.imports.insert b.handler.importPath b.handler.package }

variable {t u : MuxTable} {r : Route} {h : Handler} {registration : String}

lemma claim_eq_ok_iff : t.claim r h registration = .ok u ↔
    ∃ key, Pattern.key r.path = .ok key ∧ t.claimed.get? key = none ∧
      u = t.bound key ⟨r, h⟩ registration := by
  rw [claim]
  cases hk : Pattern.key r.path with
  | error issue => simp
  | ok key => cases hc : t.claimed.get? key <;> simp [hc, bound, eq_comm]

lemma claim_eq_duplicate_iff {path previous name : String} :
    t.claim r h registration = .error (.duplicateRoute path previous name) ↔
      path = r.path ∧ name = h.qualifiedName ∧
        ∃ key, Pattern.key r.path = .ok key ∧ t.claimed.get? key = some previous := by
  rw [claim]
  cases hk : Pattern.key r.path with
  | error issue => simp
  | ok key =>
    cases hc : t.claimed.get? key with
    | none => simp [hc]
    | some owner =>
      simp only [Except.error.injEq, Failure.duplicateRoute.injEq, Except.ok.injEq,
        exists_eq_left', hc, Option.some.injEq]
      constructor
      · rintro ⟨rfl, rfl, rfl⟩
        exact ⟨rfl, rfl, rfl⟩
      · rintro ⟨rfl, rfl, rfl⟩
        exact ⟨rfl, rfl, rfl⟩

lemma configure_eq_ok_iff {framework type : String} {value : ConfigValue} :
    t.configure framework type value = .ok u ↔
      value.type = type ∧ t.addr = none ∧
        ∃ addr, addrOfFields type t.defaultAddr value.fields = .ok addr ∧
          u = { t with addr := some addr } := by
  rw [configure, isConfigured]
  by_cases ht : value.type = type
  · cases ha : t.addr with
    | some addr => simp [ht]
    | none =>
      cases addrOfFields type t.defaultAddr value.fields <;> simp [ht, eq_comm]
  · simp [ht]

end MuxTable

namespace Framework

variable {f g : Framework} {r : Route} {h : Handler}

def bound (f : Framework) (key : String) (r : Route) (h : Handler) : Framework :=
  { f with
    mux := f.mux.bound key ⟨r, h⟩ (registration f.kind r h)
    needsJson := f.needsJson || (f.kind == .params && h.needsDecoding) }

lemma bind_eq_ok_iff : f.bind r h = .ok g ↔
    ∃ key, Pattern.key r.path = .ok key ∧ f.mux.claimed.get? key = none ∧
      g = f.bound key r h := by
  rw [bind, except_map_eq_ok_iff]
  constructor
  · rintro ⟨mux, hm, rfl⟩
    obtain ⟨key, hk, hc, rfl⟩ := MuxTable.claim_eq_ok_iff.mp hm
    exact ⟨key, hk, hc, rfl⟩
  · rintro ⟨key, hk, hc, rfl⟩
    exact ⟨_, MuxTable.claim_eq_ok_iff.mpr ⟨key, hk, hc, rfl⟩, rfl⟩

lemma bind_eq_duplicate_iff {path previous name : String} :
    f.bind r h = .error (.duplicateRoute path previous name) ↔
      path = r.path ∧ name = h.qualifiedName ∧
        ∃ key, Pattern.key r.path = .ok key ∧ f.mux.claimed.get? key = some previous := by
  rw [bind, except_map_eq_error_iff, MuxTable.claim_eq_duplicate_iff]

lemma configure_eq_ok_iff {value : ConfigValue} : f.configure value = .ok g ↔
    value.type = f.kind.configType ∧ f.mux.addr = none ∧
      ∃ addr, MuxTable.addrOfFields f.kind.configType f.mux.defaultAddr value.fields = .ok addr ∧
        g = { f with mux := { f.mux with addr := some addr } } := by
  rw [configure, except_map_eq_ok_iff]
  constructor
  · rintro ⟨mux, hm, rfl⟩
    obtain ⟨ht, ha, addr, hf, rfl⟩ := MuxTable.configure_eq_ok_iff.mp hm
    exact ⟨ht, ha, addr, hf, rfl⟩
  · rintro ⟨ht, ha, addr, hf, rfl⟩
    exact ⟨_, MuxTable.configure_eq_ok_iff.mpr ⟨ht, ha, addr, hf, rfl⟩, rfl⟩

inductive Call
  | configure (value : ConfigValue)
  | bind (route : Route) (handler : Handler)

def attempt (f : Framework) : Call → Except Failure Framework
  | .configure value => f.configure value
  | .bind r h => f.bind r h

def call (f : Framework) : Call → Except Failure Unit × Framework
  | .configure value => f.configureInPlace value
  | .bind r h => f.bindInPlace r h

lemma call_eq (f : Framework) (c : Call) : f.call c = f.outcome (f.attempt c) := by
  cases c with
  | configure value => exact configureInPlace_eq f value
  | bind r h => exact bindInPlace_eq f r h

/-- The framework after calls that are made one after the other, whether they succeed or not. -/
def run (f : Framework) (calls : List Call) : Framework :=
  calls.foldl (fun f c => (f.call c).2) f

lemma call_of_error {c : Call} {failure : Failure} (hc : f.attempt c = .error failure) :
    f.call c = (.error failure, f) := by
  rw [call_eq, hc]
  rfl

lemma call_of_ok {c : Call} (hc : f.attempt c = .ok g) : f.call c = (.ok (), g) := by
  rw [call_eq, hc]
  rfl

lemma run_induction {p : Framework → Prop} (hf : p f)
    (hs : ∀ f c g, p f → f.attempt c = .ok g → p g) (calls : List Call) : p (f.run calls) := by
  induction calls generalizing f with
  | nil => exact hf
  | cons c calls ih =>
    refine ih ?_
    cases hc : f.attempt c with
    | error failure => simpa [call_of_error hc] using hf
    | ok g => simpa [call_of_ok hc] using hs f c g hf hc

end Framework

end Routewright
