import Routewright.Proofs.Dict
import Routewright.Proofs.Server.History

namespace Routewright

def Binding.key (b : Binding) : Except PatternIssue String :=
  Pattern.key b.route.path

namespace Framework

structure Consistent (f : Framework) : Prop where
  registrations_eq : f.mux.registrations =
    f.mux.bindings.map fun b => registration f.kind b.route b.handler
  registrations_size : f.mux.registrations.length = f.mux.bindings.length
  claimed_size : f.mux.claimed.entries.length = f.mux.bindings.length
  keyed : ∀ b ∈ f.mux.bindings, ∃ key, b.key = .ok key
  keys_distinct : (f.mux.bindings.map Binding.key).Nodup
  claimed_iff : ∀ key name, f.mux.claimed.get? key = some name ↔
    ∃ b ∈ f.mux.bindings, b.key = .ok key ∧ b.handler.qualifiedName = name
  imports_iff : ∀ path, f.mux.imports.contains path = true ↔
    ∃ b ∈ f.mux.bindings, b.handler.importPath = path
  needsJson_iff : f.needsJson = true ↔
    f.kind = .params ∧ ∃ b ∈ f.mux.bindings, ∃ p ∈ b.handler.params, p.isString = false

lemma new_consistent (kind : FrameworkKind) : (new kind).Consistent where
  registrations_eq := rfl
  registrations_size := rfl
  claimed_size := rfl
  keyed := by simp [new]
  keys_distinct := by simp [new]
  claimed_iff := by simp [new]
  imports_iff := by simp [new, Dict.contains_iff]
  needsJson_iff := by simp [new]

variable {f g : Framework} {r : Route} {h : Handler} {key : String}

lemma key_unbound (hf : f.Consistent) (hc : f.mux.claimed.get? key = none) :
    ∀ b ∈ f.mux.bindings, b.key ≠ .ok key := by
  intro b hb hk
  have hs := (hf.claimed_iff key b.handler.qualifiedName).mpr ⟨b, hb, hk, rfl⟩
  rw [hc] at hs
  cases hs

lemma bound_claimed_iff (hf : f.Consistent) (hk : Pattern.key r.path = .ok key)
    (hc : f.mux.claimed.get? key = none) (other name : String) :
    (f.bound key r h).mux.claimed.get? other = some name ↔
      ∃ b ∈ f.mux.bindings ++ [⟨r, h⟩], b.key = .ok other ∧ b.handler.qualifiedName = name := by
  have hnew : Binding.key ⟨r, h⟩ = .ok key := hk
  simp only [bound, MuxTable.bound, Dict.get?_insert, List.mem_append, List.mem_singleton]
  split
  · rename_i he
    subst he
    constructor
    · intro hn
      exact ⟨⟨r, h⟩, .inr rfl, hk, Option.some.inj hn⟩
    · rintro ⟨b, hb | rfl, hkey, hn⟩
      · exact (key_unbound hf hc b hb hkey).elim
      · exact congrArg some hn
  · rename_i he
    rw [hf.claimed_iff]
    constructor
    · rintro ⟨b, hb, hkey, hn⟩
      exact ⟨b, .inl hb, hkey, hn⟩
    · rintro ⟨b, hb | rfl, hkey, hn⟩
      · exact ⟨b, hb, hkey, hn⟩
      · rw [hnew, Except.ok.injEq] at hkey
        exact (he hkey.symm).elim

lemma bound_consistent (hf : f.Consistent) (hk : Pattern.key r.path = .ok key)
    (hc : f.mux.claimed.get? key = none) : (f.bound key r h).Consistent where
  registrations_eq := by
    simp [bound, MuxTable.bound, hf.registrations_eq]
  registrations_size := by
    simp [bound, MuxTable.bound, hf.registrations_size]
  claimed_size := by
    simp [bound, MuxTable.bound, Dict.size_insert _ _ _ hc, hf.claimed_size]
  keyed := by
    intro b hb
    rcases List.mem_append.mp hb with hb | hb
    · exact hf.keyed b hb
    · obtain rfl := List.mem_singleton.mp hb
      exact ⟨key, hk⟩
  keys_distinct := by
    have hnew : Binding.key ⟨r, h⟩ = .ok key := hk
    simp only [bound, MuxTable.bound, List.map_append, List.map_cons, List.map_nil, hnew]
    refine List.nodup_append.mpr ⟨hf.keys_distinct, by simp, ?_⟩
    intro a ha b hb
    obtain ⟨d, hd, rfl⟩ := List.mem_map.mp ha
    obtain rfl := List.mem_singleton.mp hb
    exact key_unbound hf hc d hd
  claimed_iff := bound_claimed_iff hf hk hc
  imports_iff := by
    intro path
    simp only [bound, MuxTable.bound, Dict.contains_insert, hf.imports_iff, List.mem_append,
      List.mem_singleton]
    constructor
    · rintro (rfl | ⟨b, hb, rfl⟩)
      · exact ⟨⟨r, h⟩, .inr rfl, rfl⟩
      · exact ⟨b, .inl hb, rfl⟩
    · rintro ⟨b, hb | rfl, rfl⟩
      · exact .inr ⟨b, hb, rfl⟩
      · exact .inl rfl
  needsJson_iff := by
    have hd : h.needsDecoding = true ↔ ∃ p ∈ h.params, p.isString = false := by
      simp [Handler.needsDecoding]
    simp only [bound, MuxTable.bound, Bool.or_eq_true, hf.needsJson_iff, Bool.and_eq_true,
      beq_iff_eq, hd, ← and_or_left, List.mem_append, List.mem_singleton, or_and_right,
      exists_or, exists_eq_left]

lemma attempt_consistent (hf : f.Consistent) {c : Call} (hc : f.attempt c = .ok g) :
    g.Consistent := by
  cases c with
  | configure value =>
    obtain ⟨_, _, addr, _, rfl⟩ := configure_eq_ok_iff.mp hc
    exact ⟨hf.registrations_eq, hf.registrations_size, hf.claimed_size, hf.keyed,
      hf.keys_distinct, hf.claimed_iff, hf.imports_iff, hf.needsJson_iff⟩
  | bind r h =>
    obtain ⟨key, hk, hu, rfl⟩ := bind_eq_ok_iff.mp hc
    exact bound_consistent hf hk hu

lemma attempt_kind {c : Call} (hc : f.attempt c = .ok g) : g.kind = f.kind := by
  cases c with
  | configure value =>
    obtain ⟨_, _, addr, _, rfl⟩ := configure_eq_ok_iff.mp hc
    rfl
  | bind r h =>
    obtain ⟨key, _, _, rfl⟩ := bind_eq_ok_iff.mp hc
    rfl

lemma attempt_addr {c : Call} {addr : String} (ha : f.mux.addr = some addr)
    (hc : f.attempt c = .ok g) : g.mux.addr = some addr := by
  cases c with
  | configure value =>
    obtain ⟨_, hn, _⟩ := configure_eq_ok_iff.mp hc
    rw [hn] at ha
    cases ha
  | bind r h =>
    obtain ⟨key, _, _, rfl⟩ := bind_eq_ok_iff.mp hc
    exact ha

lemma attempt_defaultAddr {c : Call} (hc : f.attempt c = .ok g) :
    g.mux.defaultAddr = f.mux.defaultAddr := by
  cases c with
  | configure value =>
    obtain ⟨_, _, addr, _, rfl⟩ := configure_eq_ok_iff.mp hc
    rfl
  | bind r h =>
    obtain ⟨key, _, _, rfl⟩ := bind_eq_ok_iff.mp hc
    rfl

lemma mem_call_bindings {c : Call} {b : Binding} (hb : b ∈ (f.call c).2.mux.bindings) :
    b ∈ f.mux.bindings ∨ c = .bind b.route b.handler := by
  cases hc : f.attempt c with
  | error failure =>
    rw [call_of_error hc] at hb
    exact .inl hb
  | ok g =>
    rw [call_of_ok hc] at hb
    cases c with
    | configure value =>
      obtain ⟨_, _, addr, _, rfl⟩ := configure_eq_ok_iff.mp hc
      exact .inl hb
    | bind r h =>
      obtain ⟨key, _, _, rfl⟩ := bind_eq_ok_iff.mp hc
      rcases List.mem_append.mp hb with hb | hb
      · exact .inl hb
      · obtain rfl := List.mem_singleton.mp hb
        exact .inr rfl

lemma run_kind (calls : List Call) : (f.run calls).kind = f.kind :=
  run_induction (p := fun g => g.kind = f.kind) rfl
    (fun _ _ _ hk hc => (attempt_kind hc).trans hk) calls

lemma run_addr {addr : String} (ha : f.mux.addr = some addr) (calls : List Call) :
    (f.run calls).mux.addr = some addr :=
  run_induction (p := fun g => g.mux.addr = some addr) ha (fun _ _ _ ha hc => attempt_addr ha hc)
    calls

lemma run_defaultAddr (calls : List Call) :
    (f.run calls).mux.defaultAddr = f.mux.defaultAddr :=
  run_induction (p := fun g => g.mux.defaultAddr = f.mux.defaultAddr) rfl
    (fun _ _ _ hd hc => (attempt_defaultAddr hc).trans hd) calls

lemma mem_run_bindings {calls : List Call} {b : Binding} (hb : b ∈ (f.run calls).mux.bindings) :
    b ∈ f.mux.bindings ∨ Call.bind b.route b.handler ∈ calls := by
  induction calls generalizing f with
  | nil => exact .inl hb
  | cons c calls ih =>
    rcases ih hb with hb | hb
    · rcases mem_call_bindings hb with hb | rfl
      · exact .inl hb
      · exact .inr List.mem_cons_self
    · exact .inr (List.mem_cons_of_mem _ hb)

lemma run_consistent (hf : f.Consistent) (calls : List Call) : (f.run calls).Consistent :=
  run_induction hf (fun _ _ _ hf hc => attempt_consistent hf hc) calls

lemma call_ok {c : Call} (hc : (f.call c).1 = .ok ()) : f.attempt c = .ok (f.call c).2 := by
  cases ha : f.attempt c with
  | error failure => simp [call_of_error ha] at hc
  | ok g => simp [call_of_ok ha]

lemma call_error_iff {c : Call} {failure : Failure} :
    (f.call c).1 = .error failure ↔ f.attempt c = .error failure := by
  cases ha : f.attempt c with
  | error cause => simp [call_of_error ha]
  | ok g => simp [call_of_ok ha]

lemma call_unchanged {c : Call} {failure : Failure} (hc : (f.call c).1 = .error failure) :
    (f.call c).2 = f := by
  rw [call_of_error (call_error_iff.mp hc)]

lemma bind_duplicate_iff (hf : f.Consistent) {path previous name : String} :
    f.bind r h = .error (.duplicateRoute path previous name) ↔
      path = r.path ∧ name = h.qualifiedName ∧ ∃ key, Pattern.key r.path = .ok key ∧
        ∃ b ∈ f.mux.bindings, b.key = .ok key ∧ b.handler.qualifiedName = previous := by
  simp only [bind_eq_duplicate_iff, hf.claimed_iff]

theorem history_consistent (kind : FrameworkKind) (calls : List Call) :
    let f := (new kind).run calls
    f.kind = kind ∧ f.Consistent ∧
      (∀ addr, f.mux.addr = some addr → ∀ more, (f.run more).mux.addr = some addr) ∧
      (∀ value, (f.call (.configure value)).1 = .ok () → f.mux.addr = none ∧
        ∃ addr, (f.call (.configure value)).2 =
          { f with mux := { f.mux with addr := some addr } }) ∧
      (∀ c failure, (f.call c).1 = .error failure → (f.call c).2 = f) ∧
      (∀ r h, (f.call (.bind r h)).1 = .ok () →
        let g := (f.call (.bind r h)).2
        g.mux.bindings = f.mux.bindings ++ [⟨r, h⟩] ∧
          g.mux.registrations = f.mux.registrations ++ [registration kind r h] ∧
          g.mux.addr = f.mux.addr ∧ g.mux.defaultAddr = f.mux.defaultAddr) ∧
      (∀ r h path previous name,
        (f.call (.bind r h)).1 = .error (.duplicateRoute path previous name) ↔
          path = r.path ∧ name = h.qualifiedName ∧ ∃ key, Pattern.key r.path = .ok key ∧
            ∃ b ∈ f.mux.bindings, b.key = .ok key ∧ b.handler.qualifiedName = previous) := by
  intro f
  have hkind : f.kind = kind := run_kind calls
  have hf : f.Consistent := run_consistent (new_consistent kind) calls
  refine ⟨hkind, hf, fun addr ha more => run_addr ha more, ?_,
    fun c failure hc => call_unchanged hc, ?_, ?_⟩
  · intro value hc
    obtain ⟨_, hn, addr, _, hg⟩ := configure_eq_ok_iff.mp (call_ok hc)
    exact ⟨hn, addr, hg⟩
  · intro r h hc g
    obtain ⟨key, _, _, hg⟩ := bind_eq_ok_iff.mp (call_ok hc)
    have hg : g = f.bound key r h := hg
    rw [hg, ← hkind]
    exact ⟨rfl, rfl, rfl, rfl⟩
  · intro r h path previous name
    rw [call_error_iff]
    exact bind_duplicate_iff hf

end Framework

end Routewright
