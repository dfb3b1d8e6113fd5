import Routewright.Go.Lexeme
import Routewright.Proofs.Go.Literal

namespace Routewright

open Text

def Go.isIdentifier (s : List Char) : Bool :=
  match s with
  | [] => false
  | c :: r => Lexeme.isNameStart c && r.all Lexeme.isNameChar

def Go.IsName (s : String) : Prop :=
  isIdentifier s.toList = true ∧ s ∉ "_" :: Lexeme.keywords

instance (s : String) : Decidable (Go.IsName s) :=
  inferInstanceAs (Decidable (_ ∧ _))

def isExported (name : String) : Bool :=
  name.toList.head?.any isUppercase

variable {s t : List Char}

lemma isIdentifier_of_go (h : Go.isIdentifier s = true) : Pattern.isIdentifier s = true := by
  cases s with
  | nil => cases h
  | cons c r =>
    obtain ⟨hc, hr⟩ := Bool.and_eq_true_iff.mp h
    have hstart : ∀ d, Go.Lexeme.isNameStart d = true → (isAlphabetic d || d == '_') = true := by
      intro d hd
      rcases Bool.or_eq_true_iff.mp hd with hletter | hline
      · rw [isAlphabetic_of_isLetter hletter, Bool.true_or]
      · rw [hline, Bool.or_true]
    refine Bool.and_eq_true_iff.mpr ⟨hstart c hc, List.all_eq_true.mpr fun d hd => ?_⟩
    rcases Bool.or_eq_true_iff.mp (List.all_eq_true.mp hr d hd) with hname | hdigit
    · rcases Bool.or_eq_true_iff.mp (hstart d hname) with halphabetic | hline
      · rw [isAlphanumeric, halphabetic, Bool.true_or, Bool.true_or]
      · rw [hline, Bool.or_true]
    · rw [isAlphanumeric, isNumeric_of_isDecimalDigit hdigit, Bool.or_true, Bool.true_or]

lemma go_isIdentifier_of_ascii (hs : ∀ c ∈ s, c.toNat < 128) :
    Go.isIdentifier s = Pattern.isIdentifier s := by
  cases s with
  | nil => rfl
  | cons c r =>
    have hc := hs c List.mem_cons_self
    have hstart : ∀ d : Char, d.toNat < 128 →
        Go.Lexeme.isNameStart d = (isAlphabetic d || d == '_') := by
      intro d hd
      rw [Go.Lexeme.isNameStart, isLetter_of_ascii hd, isAlphabetic_of_ascii hd]
    have hrest : r.all Go.Lexeme.isNameChar = r.all fun d => isAlphanumeric d || d == '_' := by
      rw [Bool.eq_iff_iff, List.all_eq_true, List.all_eq_true]
      refine forall₂_congr fun d hd => ?_
      have hd := hs d (List.mem_cons_of_mem c hd)
      rw [Go.Lexeme.isNameChar, hstart d hd, isDecimalDigit_of_ascii hd, isAlphanumeric,
        isNumeric_of_ascii hd, Bool.or_right_comm]
    rw [Go.isIdentifier, Pattern.isIdentifier, hstart c hc, hrest]

namespace Go

open Lexeme

section Ascii

variable {c : Char}

def isAsciiWord (c : Char) : Bool :=
  c.isAlphanum || c == '_'

def isAsciiIdentifier (s : List Char) : Bool :=
  s.all (·.toNat < 128) && s.all isAsciiWord && s.head?.any (!·.isDigit)

lemma isNameChar_of_ascii (hc : c.toNat < 128) : isNameChar c = isAsciiWord c := by
  rw [isNameChar, isNameStart, isLetter_of_ascii hc, isDecimalDigit_of_ascii hc,
    Bool.or_right_comm]
  rfl

lemma isNameStart_of_ascii (hc : c.toNat < 128) (hdigit : c.isDigit = false) :
    isNameStart c = isAsciiWord c := by
  rw [← isNameChar_of_ascii hc, isNameChar, isDecimalDigit_of_ascii hc, hdigit, Bool.or_false]

lemma isIdentifier_of_ascii (h : isAsciiIdentifier s = true) : isIdentifier s = true := by
  rw [isAsciiIdentifier, Bool.and_eq_true, Bool.and_eq_true, List.all_eq_true,
    List.all_eq_true] at h
  obtain ⟨⟨hascii, hword⟩, hhead⟩ := h
  have hchar : ∀ c ∈ s, isNameChar c = true := fun c hc =>
    (isNameChar_of_ascii (of_decide_eq_true (hascii c hc))).trans (hword c hc)
  cases s with
  | nil => cases hhead
  | cons c r =>
    obtain ⟨hc, hr⟩ := List.forall_mem_cons.mp hchar
    have hdigit : c.isDigit = false := by
      simpa using hhead
    have hstart := isNameStart_of_ascii
      (of_decide_eq_true (hascii c List.mem_cons_self)) hdigit
    rw [isIdentifier, hstart, hword c List.mem_cons_self, List.all_eq_true.mpr hr]
    rfl

lemma isName_of_ascii {name : String} (h : isAsciiIdentifier name.toList = true)
    (hname : name ∉ "_" :: keywords) : IsName name :=
  ⟨isIdentifier_of_ascii h, hname⟩

end Ascii

lemma isNameChar_of_mem (h : isIdentifier s = true) : ∀ c ∈ s, isNameChar c = true := by
  cases s with
  | nil => cases h
  | cons c r =>
    obtain ⟨hc, hr⟩ := Bool.and_eq_true_iff.mp h
    refine List.forall_mem_cons.mpr ⟨?_, List.all_eq_true.mp hr⟩
    rw [isNameChar, hc, Bool.true_or]

lemma go_isIdentifier_append (hs : isIdentifier s = true) (ht : ∀ c ∈ t, isNameChar c = true) :
    isIdentifier (s ++ t) = true := by
  cases s with
  | nil => cases hs
  | cons c r =>
    obtain ⟨hc, hr⟩ := Bool.and_eq_true_iff.mp hs
    rw [List.cons_append, isIdentifier, hc, List.all_append, hr, Bool.true_and, Bool.true_and]
    exact List.all_eq_true.mpr ht

end Go

end Routewright
