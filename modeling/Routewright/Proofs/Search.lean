import Mathlib.Data.List.Basic
import Mathlib.Tactic.Lemma

namespace Routewright

variable {α β : Type} {before : α → α → Prop}

def IsFirst (before : α → α → Prop) (p : α → Prop) (a : α) : Prop :=
  p a ∧ ∀ b, p b → b = a ∨ before a b

lemma IsFirst.unique {p : α → Prop} {a b : α} (hasymm : ∀ x y, before x y → ¬before y x)
    (ha : IsFirst before p a) (hb : IsFirst before p b) : a = b := by
  rcases ha.2 b hb.1 with rfl | hab
  · rfl
  · rcases hb.2 a ha.1 with rfl | hba
    · rfl
    · exact absurd hba (hasymm a b hab)

lemma findSome?_eq_some_iff_isFirst {l : List α} {f : α → Option β} {b : β}
    (hasymm : ∀ x y, before x y → ¬before y x) (hl : l.Pairwise before) :
    l.findSome? f = some b ↔
      ∃ a, IsFirst before (fun a => a ∈ l ∧ ∃ b, f a = some b) a ∧ f a = some b := by
  rw [List.findSome?_eq_some_iff]
  constructor
  · rintro ⟨l₁, a, l₂, rfl, ha, hnone⟩
    refine ⟨a, ⟨⟨by simp, b, ha⟩, ?_⟩, ha⟩
    rintro x ⟨hx, y, hy⟩
    rcases List.mem_append.mp hx with hx | hx
    · rw [hnone x hx] at hy
      cases hy
    · rcases List.mem_cons.mp hx with rfl | hx
      · exact .inl rfl
      · exact .inr ((List.pairwise_cons.mp (List.pairwise_append.mp hl).2.1).1 x hx)
  · rintro ⟨a, ⟨⟨ha, -⟩, hfirst⟩, hb⟩
    obtain ⟨l₁, l₂, rfl⟩ := List.append_of_mem ha
    refine ⟨l₁, a, l₂, rfl, hb, fun x hx => ?_⟩
    have hbefore := (List.pairwise_append.mp hl).2.2 x hx a List.mem_cons_self
    cases hfx : f x with
    | none => rfl
    | some y =>
      rcases hfirst x ⟨List.mem_append_left _ hx, y, hfx⟩ with rfl | hafter
      · exact absurd hbefore (hasymm x x hbefore)
      · exact absurd hafter (hasymm x a hbefore)

lemma findSome?_flatMap (l : List α) {γ : Type} (g : α → List γ) (f : γ → Option β) :
    (l.flatMap g).findSome? f = l.findSome? fun a => (g a).findSome? f := by
  induction l with
  | nil => rfl
  | cons a l ih =>
    rw [List.flatMap_cons, List.findSome?_append, ih, List.findSome?_cons]
    cases (g a).findSome? f <;> rfl

lemma findSome?_congr {l : List α} {f g : α → Option β} (h : ∀ a ∈ l, f a = g a) :
    l.findSome? f = l.findSome? g := by
  induction l with
  | nil => rfl
  | cons a l ih =>
    obtain ⟨ha, hl⟩ := List.forall_mem_cons.mp h
    rw [List.findSome?_cons, List.findSome?_cons, ha, ih hl]

end Routewright
