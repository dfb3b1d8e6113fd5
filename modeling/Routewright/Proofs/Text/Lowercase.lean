import Mathlib.Tactic.SplitIfs
import Routewright.Proofs.Text.Ascii

namespace Routewright.Text

variable {c d : Char} {s : List Char}

def IsLowered (c : Char) : Prop :=
  isBlank c = false ∧ c.isUpper = false

instance (c : Char) : Decidable (IsLowered c) :=
  inferInstanceAs (Decidable (isBlank c = false ∧ c.isUpper = false))

def lowercaseImages : List (ℕ × ℕ) :=
  lowercaseRanges.map fun r => (r.2.2.2, r.2.2.2 + (r.2.1 - r.1))

lemma lowercaseImages_avoid :
    ∀ r ∈ (65, 90) :: blankRanges, avoids lowercaseImages r.1 r.2 = true := by
  decide +kernel

lemma not_isUpper (h : ¬(65 ≤ c.toNat ∧ c.toNat ≤ 90)) : c.isUpper = false := by
  rw [Bool.eq_false_iff]
  intro hupper
  exact h (of_decide_eq_true hupper)

lemma isLowered_of_outside
    (h : ∀ r ∈ (65, 90) :: blankRanges, ¬(r.1 ≤ c.toNat ∧ c.toNat ≤ r.2)) : IsLowered c := by
  obtain ⟨hupper, hblanks⟩ := List.forall_mem_cons.mp h
  refine ⟨?_, not_isUpper hupper⟩
  rw [isBlank_eq, Bool.eq_false_iff, ne_eq, inRanges_iff]
  rintro ⟨r, hr, hin⟩
  exact hblanks r hr hin

lemma isLowered_ofNat {n : ℕ} (h : inRanges lowercaseImages n = true) :
    IsLowered (.ofNat n) := by
  by_cases hvalid : n.isValidChar
  · refine isLowered_of_outside fun r hr hin => ?_
    rw [toNat_ofNat hvalid] at hin
    rw [not_inRanges_of_avoids (lowercaseImages_avoid r hr) hin.1 hin.2] at h
    cases h
  · rw [Char.ofNat, dif_neg hvalid]
    decide

lemma isLowered_toLower (hc : c.toNat < 128) (h : isBlank c = false) : IsLowered c.toLower := by
  revert h
  refine ascii_cases c hc ?_
  decide

lemma isLowered_of_mem_lowercaseChar (hc : isBlank c = false) (hd : d ∈ lowercaseChar c) :
    IsLowered d := by
  by_cases hascii : c.toNat < 128
  · rw [lowercaseChar_of_ascii hascii, List.mem_singleton] at hd
    exact hd ▸ isLowered_toLower hascii hc
  · have hupper : c.isUpper = false := not_isUpper fun h => by omega
    rw [lowercaseChar] at hd
    split_ifs at hd
    · have hdotted : IsLowered (.ofNat 0x69) ∧ IsLowered (.ofNat 0x307) := by
        decide
      rcases List.mem_cons.mp hd with rfl | hd
      · exact hdotted.1
      · exact List.mem_singleton.mp hd ▸ hdotted.2
    · split at hd
      · rename_i r hr
        rw [List.mem_singleton.mp hd]
        have hin := List.find?_some hr
        simp only [Bool.and_eq_true, decide_eq_true_eq] at hin
        exact isLowered_ofNat (inRanges_iff.mpr
          ⟨_, List.mem_map_of_mem (List.mem_of_find?_eq_some hr), Nat.le_add_right _ _,
            Nat.add_le_add_left (Nat.sub_le_sub_right hin.1.2 r.1) r.2.2.2⟩)
      · rw [List.mem_singleton.mp hd]
        exact ⟨hc, hupper⟩

lemma isLowered_of_mem_lowercaseAfter (hs : ∀ c ∈ s, isBlank c = false) (before : List Char) :
    ∀ d ∈ lowercaseAfter before s, IsLowered d := by
  induction s generalizing before with
  | nil => exact List.forall_mem_nil _
  | cons c s ih =>
    obtain ⟨hc, hrest⟩ := List.forall_mem_cons.mp hs
    have hsigma : IsLowered (.ofNat 0x3c2) ∧ IsLowered (.ofNat 0x3c3) := by
      decide
    rw [lowercaseAfter]
    refine List.forall_mem_append.mpr ⟨fun d hd => ?_, ih hrest (c :: before)⟩
    split_ifs at hd
    · exact List.mem_singleton.mp hd ▸ hsigma.1
    · exact List.mem_singleton.mp hd ▸ hsigma.2
    · exact isLowered_of_mem_lowercaseChar hc hd

lemma isLowered_of_mem_lowercase (hs : ∀ c ∈ s, isBlank c = false) (hd : d ∈ lowercase s) :
    IsLowered d :=
  isLowered_of_mem_lowercaseAfter hs [] d hd

end Routewright.Text
