import Routewright.Proofs.Server.Consistency

namespace Routewright

namespace Binding

structure Compatible (bs : List Binding) : Prop where
  keyed : ∀ b ∈ bs, ∃ key, b.key = .ok key
  distinct : (bs.map key).Nodup

variable {bs cs : List Binding}

lemma Compatible.perm (h : Compatible bs) (hp : bs.Perm cs) : Compatible cs where
  keyed b hb := h.keyed b (hp.mem_iff.mpr hb)
  distinct := (hp.map key).nodup_iff.mp h.distinct

lemma Compatible.of_append (h : Compatible (bs ++ cs)) : Compatible bs where
  keyed b hb := h.keyed b (List.mem_append_left cs hb)
  distinct := by
    have hn := h.distinct
    rw [List.map_append] at hn
    exact (List.nodup_append.mp hn).1

end Binding

namespace Framework

/-- A consistent framework that knows its packages by the names they were bound with last. -/
structure Settled (f : Framework) : Prop where
  consistent : f.Consistent
  imports_eq : f.mux.imports =
    .ofList (f.mux.bindings.map fun b => (b.handler.importPath, b.handler.package))

def NamesPackages (f : Framework) : Prop :=
  ∀ b ∈ f.mux.bindings, ∀ c ∈ f.mux.bindings,
    b.handler.importPath = c.handler.importPath → b.handler.package = c.handler.package

variable {f g : Framework} {h : Handler}

lemma Settled.compatible (hf : f.Settled) : Binding.Compatible f.mux.bindings :=
  ⟨hf.consistent.keyed, hf.consistent.keys_distinct⟩

lemma new_settled (kind : FrameworkKind) : (new kind).Settled :=
  ⟨new_consistent kind, rfl⟩

lemma attempt_settled (hf : f.Settled) {c : Call} (hc : f.attempt c = .ok g) : g.Settled := by
  refine ⟨attempt_consistent hf.consistent hc, ?_⟩
  cases c with
  | configure value =>
    obtain ⟨_, _, addr, _, rfl⟩ := configure_eq_ok_iff.mp hc
    exact hf.imports_eq
  | bind r h =>
    obtain ⟨key, _, _, rfl⟩ := bind_eq_ok_iff.mp hc
    simp only [bound, MuxTable.bound, hf.imports_eq, Dict.ofList, List.map_append,
      List.foldl_append]
    rfl

lemma run_settled (hf : f.Settled) (calls : List Call) : (f.run calls).Settled :=
  run_induction hf (fun _ _ _ hf hc => attempt_settled hf hc) calls

lemma claimed_eq_none_iff (hf : f.Consistent) {key : String} :
    f.mux.claimed.get? key = none ↔ ∀ b ∈ f.mux.bindings, b.key ≠ .ok key := by
  constructor
  · exact key_unbound hf
  · intro hfree
    cases hc : f.mux.claimed.get? key with
    | none => rfl
    | some name =>
      obtain ⟨b, hb, hk, -⟩ := (hf.claimed_iff key name).mp hc
      exact absurd hk (hfree b hb)

lemma bindAll_fails_or_compatible (hf : f.Settled) (routes : List Route) :
    ((∃ failure, (f.bindAll h routes).1 = .error failure) ∧
        ¬Binding.Compatible (f.mux.bindings ++ routes.map fun r => ⟨r, h⟩)) ∨
      ((f.bindAll h routes).1 = .ok () ∧ (f.bindAll h routes).2.Settled ∧
        Binding.Compatible (f.mux.bindings ++ routes.map fun r => ⟨r, h⟩)) := by
  induction routes generalizing f with
  | nil => exact .inr ⟨rfl, hf, by simpa using hf.compatible⟩
  | cons r routes ih =>
    rw [bindAll]
    cases hr : f.bind r h with
    | error failure =>
      refine .inl ⟨⟨failure, rfl⟩, fun hall => ?_⟩
      -- A route that cannot be bound has no key, or one that is taken.
      obtain ⟨key, hk⟩ := hall.keyed ⟨r, h⟩ (by simp)
      have hfree : f.mux.claimed.get? key = none := by
        refine (claimed_eq_none_iff hf.consistent).mpr fun b hb hbk => ?_
        have hn := hall.distinct
        rw [List.map_append, List.nodup_append] at hn
        exact hn.2.2 _ (List.mem_map_of_mem hb) _ List.mem_cons_self (hbk.trans hk.symm)
      rw [bind_eq_ok_iff.mpr ⟨key, hk, hfree, rfl⟩] at hr
      cases hr
    | ok g =>
      have hg : g.Settled := attempt_settled hf (c := .bind r h) hr
      obtain ⟨key, _, _, rfl⟩ := bind_eq_ok_iff.mp hr
      simpa [bound, MuxTable.bound] using ih hg

end Framework

end Routewright
