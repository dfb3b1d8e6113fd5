import Mathlib.Data.Nat.Notation
import Mathlib.Tactic.Lemma
import Routewright.Text.Blank
import Routewright.Text.Letters
import Routewright.Text.Lowercase

/-! Word characters and lower case. The tables of characters are long, but only their first ranges
count for ASCII characters, and none of their ranges meets the blanks. -/

namespace Routewright.Text

section Tables

variable {ranges : List (ℕ × ℕ)} {lo hi n : ℕ}

def avoids (ranges : List (ℕ × ℕ)) (lo hi : ℕ) : Bool :=
  ranges.all fun r => Nat.blt r.2 lo || Nat.blt hi r.1

lemma not_inRanges_of_avoids (h : avoids ranges lo hi = true) (hlo : lo ≤ n) (hhi : n ≤ hi) :
    inRanges ranges n = false := by
  rw [Bool.eq_false_iff, ne_eq, inRanges_iff]
  rintro ⟨r, hr, hfirst, hlast⟩
  have hapart := List.all_eq_true.mp h r hr
  simp only [Bool.or_eq_true, Nat.blt_eq] at hapart
  omega

lemma inRanges_append (ranges ranges' : List (ℕ × ℕ)) (n : ℕ) :
    inRanges (ranges ++ ranges') n = (inRanges ranges n || inRanges ranges' n) :=
  List.any_append

def decimalRanges : List (ℕ × ℕ) :=
  decimalZeros.map fun z => (z, z + 9)

lemma isDecimalDigit_eq (c : Char) : isDecimalDigit c = inRanges decimalRanges c.toNat := by
  rw [isDecimalDigit, inRanges, decimalRanges, List.any_map]
  refine congrArg (List.any decimalZeros) (funext fun z => ?_)
  simp only [Function.comp, Nat.lt_succ_iff]

lemma isNumeric_of_isDecimalDigit {c : Char} (h : isDecimalDigit c = true) :
    isNumeric c = true := by
  have hwithin : ∀ d ∈ decimalRanges,
      numericRanges.any (fun r => Nat.ble r.1 d.1 && Nat.ble d.2 r.2) = true := by
    decide +kernel
  rw [isDecimalDigit_eq, inRanges_iff] at h
  obtain ⟨d, hd, hfirst, hlast⟩ := h
  obtain ⟨r, hr, hin⟩ := List.any_eq_true.mp (hwithin d hd)
  rw [Bool.and_eq_true, Nat.ble_eq, Nat.ble_eq] at hin
  exact inRanges_iff.mpr ⟨r, hr, Nat.le_trans hin.1 hfirst, Nat.le_trans hlast hin.2⟩

end Tables

lemma toNat_ofNat {n : ℕ} (h : n.isValidChar) : (Char.ofNat n).toNat = n := by
  rw [Char.ofNat, dif_pos h]
  rfl

section Ascii

variable {ranges : List (ℕ × ℕ)} {c : Char}

@[elab_as_elim]
lemma ascii_cases {P : Char → Prop} (c : Char) (hc : c.toNat < 128)
    (h : ∀ n < 128, P (.ofNat n)) : P c := by
  rw [← Char.ofNat_toNat c]
  exact h c.toNat hc

-- Where each table has its ranges beyond ASCII.
lemma avoids_ascii : avoids (alphabeticRanges.drop 2) 0 127 = true ∧
    avoids (numericRanges.drop 1) 0 127 = true ∧ avoids (decimalRanges.drop 1) 0 127 = true ∧
      avoids (wordMarkRanges.drop 1) 0 127 = true ∧
        avoids alphabeticNonLetterRanges 0 127 = true := by
  decide +kernel

lemma not_inRanges_of_ascii (h : avoids ranges 0 127 = true) (hc : c.toNat < 128) :
    inRanges ranges c.toNat = false :=
  not_inRanges_of_avoids h c.toNat.zero_le (Nat.le_of_lt_succ hc)

lemma isAlphabetic_of_ascii (hc : c.toNat < 128) : isAlphabetic c = c.isAlpha := by
  have hrest := not_inRanges_of_ascii avoids_ascii.1 hc
  rw [isAlphabetic, ← List.take_append_drop 2 alphabeticRanges, inRanges_append, hrest,
    Bool.or_false]
  refine ascii_cases c hc ?_
  decide

lemma isNumeric_of_ascii (hc : c.toNat < 128) : isNumeric c = c.isDigit := by
  have hrest := not_inRanges_of_ascii avoids_ascii.2.1 hc
  rw [isNumeric, ← List.take_append_drop 1 numericRanges, inRanges_append, hrest, Bool.or_false]
  refine ascii_cases c hc ?_
  decide

lemma isDecimalDigit_of_ascii (hc : c.toNat < 128) : isDecimalDigit c = c.isDigit := by
  have hrest := not_inRanges_of_ascii avoids_ascii.2.2.1 hc
  rw [isDecimalDigit_eq, ← List.take_append_drop 1 decimalRanges, inRanges_append, hrest,
    Bool.or_false]
  refine ascii_cases c hc ?_
  decide

lemma isAlphanumeric_of_ascii (hc : c.toNat < 128) : isAlphanumeric c = c.isAlphanum := by
  rw [isAlphanumeric, isAlphabetic_of_ascii hc, isNumeric_of_ascii hc]
  rfl

lemma isLetter_of_ascii (hc : c.toNat < 128) : isLetter c = c.isAlpha := by
  have hmarks := not_inRanges_of_ascii avoids_ascii.2.2.2.2 hc
  rw [isLetter, isAlphabetic_of_ascii hc, hmarks, Bool.not_false, Bool.and_true]

lemma isWord_of_ascii (hc : c.toNat < 128) : isWord c = (c.isAlphanum || c == '_') := by
  have hrest := not_inRanges_of_ascii avoids_ascii.2.2.2.1 hc
  rw [isWord, isAlphabetic_of_ascii hc, isDecimalDigit_of_ascii hc,
    ← List.take_append_drop 1 wordMarkRanges, inRanges_append, hrest, Bool.or_false]
  refine ascii_cases c hc ?_
  decide

lemma lowercaseChar_of_ascii (hc : c.toNat < 128) : lowercaseChar c = [c.toLower] := by
  have hrest : (lowercaseRanges.drop 1).find? (fun r =>
      r.1 ≤ c.toNat && c.toNat ≤ r.2.1 && (c.toNat - r.1) % r.2.2.1 == 0) = none := by
    have hlater : (lowercaseRanges.drop 1).all (fun r => Nat.ble 128 r.1) = true := by
      decide +kernel
    refine List.find?_eq_none.mpr fun r hr => ?_
    have hfirst := Nat.le_of_ble_eq_true (List.all_eq_true.mp hlater r hr)
    simp only [Bool.and_eq_true, decide_eq_true_eq]
    omega
  have hdotted : c.toNat ≠ 0x130 := by omega
  rw [lowercaseChar, if_neg hdotted, ← List.take_append_drop 1 lowercaseRanges,
    List.find?_append, hrest, Option.or_none]
  refine ascii_cases c hc ?_
  decide

lemma lowercase_of_ascii {s : List Char} (hs : ∀ c ∈ s, c.toNat < 128) :
    lowercase s = asciiLowercase s := by
  have hafter : ∀ before, lowercaseAfter before s = asciiLowercase s := by
    induction s with
    | nil => exact fun _ => rfl
    | cons c s ih =>
      intro before
      have hc := hs c List.mem_cons_self
      have hsigma : c.toNat ≠ 0x3a3 := by omega
      rw [lowercaseAfter, if_neg hsigma, lowercaseChar_of_ascii hc,
        ih fun d hd => hs d (List.mem_cons_of_mem c hd)]
      rfl
  exact hafter []

end Ascii

section Blank

variable {c : Char}

def blankRanges : List (ℕ × ℕ) :=
  [(9, 13), (0x20, 0x20), (0x85, 0x85), (0xa0, 0xa0), (0x1680, 0x1680), (0x2000, 0x200a),
    (0x2028, 0x2028), (0x2029, 0x2029), (0x202f, 0x202f), (0x205f, 0x205f), (0x3000, 0x3000)]

lemma isBlank_eq (c : Char) : isBlank c = inRanges blankRanges c.toNat := by
  have hone : ∀ m : ℕ, (c.toNat == m) = (decide (m ≤ c.toNat) && decide (c.toNat ≤ m)) := by
    intro m
    rw [Bool.eq_iff_iff, beq_iff_eq, Bool.and_eq_true, decide_eq_true_iff, decide_eq_true_iff]
    omega
  simp only [isBlank, inRanges, blankRanges, List.any_cons, List.any_nil, hone, Bool.or_false,
    Bool.or_assoc]

lemma avoids_blanks : ∀ r ∈ blankRanges, avoids alphabeticRanges r.1 r.2 = true ∧
    avoids numericRanges r.1 r.2 = true ∧ avoids wordMarkRanges r.1 r.2 = true := by
  decide +kernel

lemma not_isBlank_of_isAlphanumeric (h : isAlphanumeric c = true) : isBlank c = false := by
  rw [Bool.eq_false_iff, isBlank_eq, ne_eq, inRanges_iff]
  rintro ⟨r, hr, hfirst, hlast⟩
  obtain ⟨halphabetic, hnumeric, -⟩ := avoids_blanks r hr
  rw [isAlphanumeric, isAlphabetic, isNumeric, not_inRanges_of_avoids halphabetic hfirst hlast,
    not_inRanges_of_avoids hnumeric hfirst hlast] at h
  cases h

lemma not_isBlank_of_isWord (h : isWord c = true) : isBlank c = false := by
  rw [isWord, Bool.or_eq_true, Bool.or_eq_true] at h
  rcases h with (halphabetic | hdecimal) | hmark
  · exact not_isBlank_of_isAlphanumeric (Bool.or_eq_true_iff.mpr (.inl halphabetic))
  · exact not_isBlank_of_isAlphanumeric
      (Bool.or_eq_true_iff.mpr (.inr (isNumeric_of_isDecimalDigit hdecimal)))
  · rw [Bool.eq_false_iff, isBlank_eq, ne_eq, inRanges_iff]
    rintro ⟨r, hr, hfirst, hlast⟩
    rw [not_inRanges_of_avoids (avoids_blanks r hr).2.2 hfirst hlast] at hmark
    cases hmark

end Blank

end Routewright.Text
