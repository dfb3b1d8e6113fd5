import Mathlib.Tactic.Lemma
import Routewright.Go.Literal
import Routewright.Proofs.Text.Ascii
import Routewright.Server.Pattern

namespace Routewright.Go

open Text

def isPlainChar (c : Char) : Bool :=
  c != stringQuote && c != '\\' && c != '\n'

def isPlainText (s : String) : Bool :=
  s.toList.all isPlainChar

def literalText? (source : String) : Option String :=
  (unquote? ("\"" ++ source ++ "\"").toList).map String.ofList

lemma isPlainText_append (s t : String) :
    isPlainText (s ++ t) = (isPlainText s && isPlainText t) := by
  simp [isPlainText]

lemma unescape?_of_plain_append {s : List Char} (t : List Char) (hs : s.all isPlainChar = true) :
    unescape? stringQuote (s ++ t) = (unescape? stringQuote t).map (s ++ ·) := by
  induction s with
  | nil => simp
  | cons c r ih =>
    rw [List.all_cons, Bool.and_eq_true] at hs
    obtain ⟨hc, hr⟩ := hs
    simp only [isPlainChar, Bool.and_eq_true, bne_iff_ne, ne_eq] at hc
    obtain ⟨⟨hquote, hslash⟩, hline⟩ := hc
    rw [List.cons_append, unescape?, if_neg (by simp [hquote, hline]), if_neg hslash, ih hr,
      Option.map_map]
    rfl

lemma trim_quoted (s : List Char) :
    trim (stringQuote :: (s ++ [stringQuote])) = stringQuote :: (s ++ [stringQuote]) := by
  have hstart : trimStart (stringQuote :: (s ++ [stringQuote])) =
      stringQuote :: (s ++ [stringQuote]) := by
    rw [trimStart, List.dropWhile_cons_of_neg (by decide)]
  rw [trim, hstart, trimEnd, ← List.cons_append, dropEndWhile_append_singleton,
    if_neg (by decide)]

lemma unquote?_quoted (s : List Char) :
    unquote? (stringQuote :: (s ++ [stringQuote])) = unescape? stringQuote s := by
  have hraw : between? rawQuote (stringQuote :: (s ++ [stringQuote])) = none := by
    rw [between?, if_neg fun h => absurd h.1 (by decide)]
  have hquote : between? stringQuote (stringQuote :: (s ++ [stringQuote])) = some s := by
    rw [between?, if_pos ⟨rfl, List.getLast?_concat⟩, List.dropLast_concat]
  simp only [unquote?, trim_quoted, hraw, hquote, Option.bind_some]

lemma literalText?_eq (source : String) :
    literalText? source = (unescape? stringQuote source.toList).map String.ofList := by
  have hquoted : ("\"" ++ source ++ "\"").toList =
      stringQuote :: (source.toList ++ [stringQuote]) := by
    rw [String.toList_append, String.toList_append]
    rfl
  rw [literalText?, hquoted, unquote?_quoted]

lemma literalText?_of_plain {s : String} (hs : isPlainText s = true) : literalText? s = some s := by
  have h := unescape?_of_plain_append [] hs
  rw [List.append_nil] at h
  rw [literalText?_eq, h]
  simp [unescape?]

lemma literalText?_line {s : String} (hs : isPlainText s = true) :
    literalText? (s ++ "\\n") = some (s ++ "\n") := by
  have hline : unescape? stringQuote "\\n".toList = some ['\n'] := by
    decide +kernel
  rw [literalText?_eq, String.toList_append, unescape?_of_plain_append _ hs, hline]
  simp

lemma isAlphanumeric_of_mem_identifier {s : List Char} (hs : Pattern.isIdentifier s = true) {c : Char}
    (hc : c ∈ s) : isAlphanumeric c = true ∨ c = '_' := by
  cases s with
  | nil => simp [Pattern.isIdentifier] at hs
  | cons d r =>
    simp only [Pattern.isIdentifier, Bool.and_eq_true, Bool.or_eq_true, beq_iff_eq,
      List.all_eq_true] at hs
    rcases List.mem_cons.mp hc with rfl | hc
    · exact hs.1.imp_left fun h => by simp [isAlphanumeric, h]
    · exact hs.2 c hc

lemma ne_of_mem_identifier {s : List Char} (hs : Pattern.isIdentifier s = true) {c d : Char}
    (hc : c ∈ s) (hd : d.toNat < 128 ∧ (d.isAlphanum || d == '_') = false) : c ≠ d := by
  rintro rfl
  obtain ⟨hletter, hline⟩ := Bool.or_eq_false_iff.mp hd.2
  rcases isAlphanumeric_of_mem_identifier hs hc with h | rfl
  · rw [isAlphanumeric_of_ascii hd.1, hletter] at h
    cases h
  · cases hline

-- None of the characters that end or escape a literal is a letter or a digit.
lemma isPlainChar_of_mem_identifier {s : List Char} (hs : Pattern.isIdentifier s = true) {c : Char}
    (hc : c ∈ s) : isPlainChar c = true := by
  have hquote : c ≠ stringQuote := ne_of_mem_identifier hs hc (by decide)
  have hslash : c ≠ '\\' := ne_of_mem_identifier hs hc (by decide)
  have hline : c ≠ '\n' := ne_of_mem_identifier hs hc (by decide)
  simp [isPlainChar, hquote, hslash, hline]

lemma isPlainText_of_isIdentifier {s : String} (hs : Pattern.isIdentifier s.toList = true) :
    isPlainText s = true :=
  List.all_eq_true.mpr fun _ hc => isPlainChar_of_mem_identifier hs hc

end Routewright.Go
