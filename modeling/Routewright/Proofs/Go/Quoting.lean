import Mathlib.Data.List.TakeWhile
import Mathlib.Tactic.SplitIfs
import Routewright.Go.Lexeme
import Routewright.Proofs.Go.Literal
import Routewright.Proofs.Text.Ascii

namespace Routewright.Go

open Text Lexeme

variable {c : Char} {s : List Char}

def escapeLetters : List Char :=
  ['\x22', '\\', 'n', 'r', 't']

lemma quoteChar_cases (c : Char) :
    isPlainChar c = true ∧ quoteChar c = [c] ∨
      (∃ d ∈ escapeLetters, letterEscape? stringQuote d = some c ∧ quoteChar c = ['\\', d]) ∨
        isControl c = true ∧ quoteChar c = '\\' :: 'u' :: fourHexDigits c.toNat := by
  rw [quoteChar]
  split_ifs with hquote hslash hline hreturn htab hcontrol
  · exact .inr (.inl ⟨'\x22', by decide, by rw [hquote]; rfl, rfl⟩)
  · exact .inr (.inl ⟨'\\', by decide, by rw [hslash]; rfl, rfl⟩)
  · exact .inr (.inl ⟨'n', by decide, by rw [hline]; rfl, rfl⟩)
  · exact .inr (.inl ⟨'r', by decide, by rw [hreturn]; rfl, rfl⟩)
  · exact .inr (.inl ⟨'t', by decide, by rw [htab]; rfl, rfl⟩)
  · exact .inr (.inr ⟨hcontrol, rfl⟩)
  · exact .inl ⟨by simp [isPlainChar, hquote, hslash, hline], rfl⟩

section HexDigits

variable {n : ℕ}

lemma hexDigit_digit (h : n < 16) :
    digitValue? 16 (hexDigit n) = some n ∧ isPlainChar (hexDigit n) = true := by
  have hall : ∀ n < 16, digitValue? 16 (hexDigit n) = some n ∧ isPlainChar (hexDigit n) = true := by
    decide
  exact hall n h

lemma mem_fourHexDigits {d : Char} (h : d ∈ fourHexDigits n) :
    isDigitOf 16 d = true ∧ isPlainChar d = true := by
  have hdigit : ∀ m, isDigitOf 16 (hexDigit (m % 16)) = true ∧
      isPlainChar (hexDigit (m % 16)) = true := by
    intro m
    obtain ⟨hvalue, hplain⟩ := hexDigit_digit (Nat.mod_lt m (by decide))
    exact ⟨by rw [isDigitOf, hvalue]; rfl, hplain⟩
  simp only [fourHexDigits, List.mem_cons, List.not_mem_nil, or_false] at h
  rcases h with rfl | rfl | rfl | rfl <;> exact hdigit _

lemma digitsValue?_fourHexDigits (h : n < 65536) : digitsValue? 16 (fourHexDigits n) = some n := by
  have hvalue : ∀ m, digitValue? 16 (hexDigit (m % 16)) = some (m % 16) :=
    fun m => (hexDigit_digit (Nat.mod_lt m (by decide))).1
  have hsum : (((0 * 16 + n / 4096 % 16) * 16 + n / 256 % 16) * 16 + n / 16 % 16) * 16 + n % 16 =
      n := by
    omega
  simp only [digitsValue?, fourHexDigits, List.isEmpty_cons, Bool.false_eq_true, if_false,
    digitsValueFrom, hvalue, Option.bind_some, hsum]

lemma ofCodePoint?_toNat (c : Char) : ofCodePoint? c.toNat = some c := by
  have hvalid : c.toNat.isValidChar := c.valid
  rw [ofCodePoint?, if_pos hvalid, Char.ofNat_toNat]

lemma lt_of_isControl (h : isControl c = true) : c.toNat < 160 := by
  simp only [isControl, Bool.or_eq_true, Bool.and_eq_true, decide_eq_true_eq] at h
  omega

end HexDigits

section Reading

lemma unescape?_backslash {x : Char} {t : List Char} {n : ℕ}
    (h : escape? stringQuote t = some (x, n)) :
    unescape? stringQuote ('\\' :: t) = (unescape? stringQuote (t.drop n)).map (x :: ·) := by
  rw [unescape?, if_neg (by decide), if_pos rfl, h]

lemma escape?_letter {d : Char} (h : letterEscape? stringQuote d = some c) (t : List Char) :
    escape? stringQuote (d :: t) = some (c, 1) := by
  rw [escape?, h]

lemma escape?_number (hcontrol : isControl c = true) (t : List Char) :
    escape? stringQuote ('u' :: (fourHexDigits c.toNat ++ t)) = some (c, 5) := by
  have hletter : letterEscape? stringQuote 'u' = none := rfl
  have hnumeric : numericEscape? 'u' = some (16, 4, 1) := rfl
  have hdigits : (('u' :: (fourHexDigits c.toNat ++ t)).drop 1).take 4 = fourHexDigits c.toNat :=
    List.take_left' rfl
  have hvalue : digitsValue? 16 (fourHexDigits c.toNat) = some c.toNat :=
    digitsValue?_fourHexDigits (Nat.lt_trans (lt_of_isControl hcontrol) (by decide))
  simp only [escape?, hletter, hnumeric, hdigits, hvalue, Option.bind_some, ofCodePoint?_toNat]
  rfl

lemma unescape?_quoteChar (c : Char) (t : List Char) :
    unescape? stringQuote (quoteChar c ++ t) = (unescape? stringQuote t).map (c :: ·) := by
  rcases quoteChar_cases c with ⟨hplain, hc⟩ | ⟨d, -, hletter, hc⟩ | ⟨hcontrol, hc⟩
  · rw [hc, unescape?_of_plain_append t (by simpa using hplain)]
    rfl
  · rw [hc, List.cons_append, List.singleton_append,
      unescape?_backslash (escape?_letter hletter t)]
    rfl
  · rw [hc, List.cons_append, List.cons_append, unescape?_backslash (escape?_number hcontrol t)]
    rfl

lemma unescape?_flatMap_quoteChar (s : List Char) :
    unescape? stringQuote (s.flatMap quoteChar) = some s := by
  induction s with
  | nil => rw [List.flatMap_nil, unescape?]
  | cons c s ih =>
    rw [List.flatMap_cons, unescape?_quoteChar, ih]
    rfl

lemma toList_quote (s : String) : (quote s).toList = quoteChars s.toList :=
  String.toList_ofList

lemma unquote?_quoteChars (s : List Char) : unquote? (quoteChars s) = some s := by
  rw [quoteChars, unquote?_quoted, unescape?_flatMap_quoteChar]

end Reading

section Lexing

variable {r : SourceText}

lemma ne_of_isPlainChar (h : isPlainChar c = true) : c ≠ '\x22' ∧ c ≠ '\\' ∧ c ≠ '\n' := by
  simp only [isPlainChar, Bool.and_eq_true, bne_iff_ne] at h
  exact ⟨h.1.1, h.1.2, h.2⟩

lemma stringLength?_plain (h : isPlainChar c = true) (r : SourceText) :
    stringLength? (some c :: r) = (stringLength? r).map (· + 1) := by
  obtain ⟨hquote, hslash, hline⟩ := ne_of_isPlainChar h
  rw [stringLength?]
  all_goals simp [hquote, hslash, hline]

lemma stringLength?_plain_append (h : ∀ c ∈ s, isPlainChar c = true) (r : SourceText) :
    stringLength? (s.map some ++ r) = (stringLength? r).map (· + s.length) := by
  induction s with
  | nil => simp
  | cons c s ih =>
    obtain ⟨hc, hs⟩ := List.forall_mem_cons.mp h
    rw [List.map_cons, List.cons_append, stringLength?_plain hc, ih hs, Option.map_map]
    exact congrArg (Option.map · _) (funext fun n => by simp; omega)

lemma escapeFits_letter {d : Char} (h : d ∈ escapeLetters) (r : SourceText) :
    escapeFits (some d) r = true := by
  have hall : ∀ d ∈ escapeLetters, escapeDigits d = 0 ∧ d ≠ '\n' := by
    decide
  obtain ⟨hdigits, hline⟩ := hall d h
  simp [escapeFits, hdigits, hline]

lemma escapeFits_number (n : ℕ) (r : SourceText) :
    escapeFits (some 'u') ((fourHexDigits n).map some ++ r) = true := by
  have htake : ((fourHexDigits n).map some ++ r).take 4 = (fourHexDigits n).map some :=
    List.take_left' rfl
  have hcount : SourceText.countWhile (isDigitOf 16) ((fourHexDigits n).map some) = 4 := by
    have hall : ∀ d ∈ (fourHexDigits n).map some, d.any (isDigitOf 16) = true :=
      List.forall_mem_map.mpr fun d hd => (mem_fourHexDigits hd).1
    rw [SourceText.countWhile, List.takeWhile_eq_self_iff.mpr hall]
    rfl
  have hdigits : escapeDigits 'u' = 4 := rfl
  simp [escapeFits, hdigits, htake, hcount]

lemma stringLength?_quoteChar (c : Char) (r : SourceText) :
    stringLength? ((quoteChar c).map some ++ r) =
      (stringLength? r).map (· + (quoteChar c).length) := by
  rcases quoteChar_cases c with ⟨hplain, hc⟩ | ⟨d, hd, -, hc⟩ | ⟨-, hc⟩
  · rw [hc]
    exact stringLength?_plain hplain r
  · rw [hc, List.map_cons, List.map_cons, List.map_nil, List.cons_append, List.cons_append,
      List.nil_append, stringLength?, if_pos (escapeFits_letter hd r)]
    rfl
  · have hfour : stringLength? ((fourHexDigits c.toNat).map some ++ r) =
        (stringLength? r).map (· + 4) :=
      stringLength?_plain_append (fun d hd => (mem_fourHexDigits hd).2) r
    rw [hc, List.map_cons, List.map_cons, List.cons_append, List.cons_append, stringLength?,
      if_pos (escapeFits_number c.toNat r), hfour, Option.map_map]
    rfl

lemma stringLength?_flatMap_quoteChar (s : List Char) (r : SourceText) :
    stringLength? ((s.flatMap quoteChar).map some ++ some '\x22' :: r) =
      some ((s.flatMap quoteChar).length + 1) := by
  induction s with
  | nil => rfl
  | cons c s ih =>
    rw [List.flatMap_cons, List.map_append, List.append_assoc, stringLength?_quoteChar, ih,
      List.length_append, Option.map_some]
    exact congrArg some (by omega)

lemma first?_quote (r : SourceText) :
    first? '\x22' r = (stringLength? r).map fun n => (.string, n + 1) := by
  have hname : isNameStart '\x22' = false := by
    rw [isNameStart, isLetter, isAlphabetic_of_ascii (by decide)]
    rfl
  rw [first?, if_neg (by decide), if_neg (by decide), hname]
  rfl

lemma first?_quoteChars (s t : List Char) :
    first? '\x22' (((s.flatMap quoteChar ++ ['\x22']) ++ t).map some) =
      some (.string, (quoteChars s).length) := by
  have htext : ((s.flatMap quoteChar ++ ['\x22']) ++ t).map some =
      (s.flatMap quoteChar).map some ++ some '\x22' :: t.map some := by
    simp
  rw [first?_quote, htext, stringLength?_flatMap_quoteChar]
  simp [quoteChars]

def cutLiteral? (s : List Char) : Option (List Char × List Char) :=
  match s with
  | [] => none
  | c :: r =>
    match first? c (r.map some) with
    | some (.string, n) => some (s.splitAt n)
    | _ => none

lemma cutLiteral?_quoteChars (s t : List Char) :
    cutLiteral? (quoteChars s ++ t) = some (quoteChars s, t) := by
  have htext : quoteChars s ++ t = '\x22' :: ((s.flatMap quoteChar ++ ['\x22']) ++ t) := rfl
  rw [htext, cutLiteral?, first?_quoteChars, ← htext]
  simp

lemma newline_not_mem_quoteChars (s : List Char) : '\n' ∉ quoteChars s := by
  have hchar : ∀ c, '\n' ∉ quoteChar c := by
    intro c hmem
    rcases quoteChar_cases c with ⟨hplain, hc⟩ | ⟨d, hd, -, hc⟩ | ⟨-, hc⟩ <;> rw [hc] at hmem
    · exact (ne_of_isPlainChar hplain).2.2 (List.mem_singleton.mp hmem).symm
    · have hall : ∀ d ∈ escapeLetters, '\n' ∉ ['\\', d] := by
        decide
      exact hall d hd hmem
    · rcases List.mem_cons.mp hmem with heq | hmem
      · cases heq
      · rcases List.mem_cons.mp hmem with heq | hmem
        · cases heq
        · exact (ne_of_isPlainChar (mem_fourHexDigits hmem).2).2.2 rfl
  simp only [quoteChars, List.mem_cons, List.mem_append, List.mem_flatMap, not_or, not_exists]
  exact ⟨by decide, fun c hc => hchar c hc.2, by decide⟩

end Lexing

end Routewright.Go
