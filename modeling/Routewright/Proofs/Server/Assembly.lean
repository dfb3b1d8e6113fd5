import Routewright.Proofs.Server.Admission

namespace Routewright.Frameworks

inductive Built : List Framework → Prop
  | fresh {names : List String} {frameworks : List Framework} :
      ofNames names = .ok frameworks → Built frameworks
  | call {frameworks : List Framework} (i : ℕ) (c : Framework.Call) : Built frameworks →
      Built (frameworks.modify i fun f => (f.call c).2)

lemma nodup_of_repeated? {seen kinds : List FrameworkKind} (h : repeated? seen kinds = none) :
    kinds.Nodup ∧ ∀ kind ∈ kinds, kind ∉ seen := by
  induction kinds generalizing seen with
  | nil => simp
  | cons kind rest ih =>
    rw [repeated?] at h
    split at h
    · cases h
    · rename_i hs
      obtain ⟨hn, hr⟩ := ih h
      refine ⟨List.nodup_cons.mpr ⟨fun hk => hr kind hk List.mem_cons_self, hn⟩, ?_⟩
      intro other ho
      rcases List.mem_cons.mp ho with rfl | ho
      · simpa using hs
      · exact fun hk => hr other ho (List.mem_cons_of_mem _ hk)

lemma ofNames_eq_ok {names : List String} {frameworks : List Framework}
    (h : ofNames names = .ok frameworks) :
    ∃ kinds : List FrameworkKind, kinds.Nodup ∧ frameworks = kinds.map Framework.new := by
  obtain ⟨kinds, _, h⟩ := except_bind_eq_ok_iff.mp h
  cases hr : repeated? [] kinds with
  | some kind => simp [hr] at h
  | none =>
    simp only [hr, Except.ok.injEq] at h
    exact ⟨kinds, (nodup_of_repeated? hr).1, h.symm⟩

lemma call_kind (f : Framework) (c : Framework.Call) : (f.call c).2.kind = f.kind :=
  Framework.run_kind [c]

lemma Built.kinds_nodup {frameworks : List Framework} (h : Built frameworks) :
    (frameworks.map Framework.kind).Nodup := by
  induction h with
  | fresh h =>
    obtain ⟨kinds, hn, rfl⟩ := ofNames_eq_ok h
    simpa [Framework.new, Function.comp_def] using hn
  | @call frameworks i c _ ih =>
    have hk : (frameworks.modify i fun f => (f.call c).2).map Framework.kind =
        frameworks.map Framework.kind := by
      refine List.ext_getElem (by simp) fun j h₁ h₂ => ?_
      simp only [List.getElem_map, List.getElem_modify]
      split <;> simp [call_kind]
    rwa [hk]

lemma Built.forall_mem {p : Framework → Prop} (hnew : ∀ kind, p (.new kind))
    (hcall : ∀ f c, p f → p (f.call c).2) {frameworks : List Framework} (h : Built frameworks) :
    ∀ f ∈ frameworks, p f := by
  induction h with
  | fresh h =>
    obtain ⟨kinds, _, rfl⟩ := ofNames_eq_ok h
    exact List.forall_mem_map.mpr fun kind _ => hnew kind
  | @call frameworks i c _ ih =>
    intro f hf
    obtain ⟨j, hj, rfl⟩ := List.mem_iff_getElem.mp hf
    rw [List.getElem_modify]
    have hm := ih _ (List.getElem_mem (l := frameworks) (by simpa using hj))
    split
    · exact hcall _ c hm
    · exact hm

lemma Built.consistent {frameworks : List Framework} (h : Built frameworks) :
    ∀ f ∈ frameworks, f.Consistent :=
  h.forall_mem Framework.new_consistent fun _ c hf => Framework.run_consistent hf [c]

lemma Built.settled {frameworks : List Framework} (h : Built frameworks) :
    ∀ f ∈ frameworks, f.Settled :=
  h.forall_mem Framework.new_settled fun _ c hf => Framework.run_settled hf [c]

end Routewright.Frameworks
