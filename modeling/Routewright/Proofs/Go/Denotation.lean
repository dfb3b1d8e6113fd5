import Routewright.Proofs.Go.Escapes

namespace Routewright.Go

open Text

def Symbol.number : Symbol → ℕ
  | point c => c.toNat
  | byte n => n

inductive StringLiteral : List Char → List UInt8 → Prop
  | raw {s : List Char} (hs : rawQuote ∉ s) :
      StringLiteral (quoted rawQuote s) ((s.filter (· ≠ '\r')).flatMap String.utf8EncodeChar)
  | interpreted {s : List Char} {xs : List Symbol} (hs : Body stringQuote s xs)
      (hxs : ∀ x ∈ xs, x.IsBelow 256) :
      StringLiteral (quoted stringQuote s) (xs.flatMap Symbol.bytes)

inductive RuneLiteral : List Char → ℕ → Prop
  | intro {s : List Char} {x : Symbol} (hs : Body runeQuote s [x]) (hx : x.IsBelow 256) :
      RuneLiteral (quoted runeQuote s) x.number

/-- What is read although it is no string literal, or as another text than it denotes. -/
inductive StringSlip : List Char → Prop
  | raw {s : List Char} (hs : rawQuote ∈ s) : StringSlip (quoted rawQuote s)
  | interpreted {s : List Char} {xs : List Symbol} (hs : Body stringQuote s xs)
      (hxs : ∃ x ∈ xs, ¬x.IsBelow 128) : StringSlip (quoted stringQuote s)

/-- What is read although it is no rune literal: three octal digits above the largest byte. -/
inductive RuneSlip : List Char → Prop
  | intro {s : List Char} {x : Symbol} (hs : Body runeQuote s [x]) (hx : ¬x.IsBelow 256) :
      RuneSlip (quoted runeQuote s)

section Kinds

variable {s text : List Char} {bytes : List UInt8} {n : ℕ}

lemma stringLiteral_raw_iff : StringLiteral (quoted rawQuote s) bytes ↔
    rawQuote ∉ s ∧ bytes = (s.filter (· ≠ '\r')).flatMap String.utf8EncodeChar := by
  constructor
  · intro h
    generalize htext : quoted rawQuote s = text at h
    cases h with
    | raw hs =>
      obtain ⟨-, rfl⟩ := quoted_inj htext
      exact ⟨hs, rfl⟩
    | interpreted _ _ => exact absurd (quoted_inj htext).1 (by decide)
  · rintro ⟨hs, rfl⟩
    exact .raw hs

lemma stringLiteral_interpreted_iff : StringLiteral (quoted stringQuote s) bytes ↔
    ∃ xs, Body stringQuote s xs ∧ (∀ x ∈ xs, x.IsBelow 256) ∧
      bytes = xs.flatMap Symbol.bytes := by
  constructor
  · intro h
    generalize htext : quoted stringQuote s = text at h
    cases h with
    | raw _ => exact absurd (quoted_inj htext).1 (by decide)
    | interpreted hs hxs =>
      obtain ⟨-, rfl⟩ := quoted_inj htext
      exact ⟨_, hs, hxs, rfl⟩
  · rintro ⟨xs, hs, hxs, rfl⟩
    exact .interpreted hs hxs

lemma runeLiteral_iff : RuneLiteral (quoted runeQuote s) n ↔
    ∃ x, Body runeQuote s [x] ∧ x.IsBelow 256 ∧ n = x.number := by
  constructor
  · intro h
    generalize htext : quoted runeQuote s = text at h
    obtain ⟨hs, hx⟩ := h
    obtain ⟨-, rfl⟩ := quoted_inj htext
    exact ⟨_, hs, hx, rfl⟩
  · rintro ⟨x, hs, hx, rfl⟩
    exact .intro hs hx

lemma stringSlip_raw_iff : StringSlip (quoted rawQuote s) ↔ rawQuote ∈ s := by
  refine ⟨fun h => ?_, .raw⟩
  generalize htext : quoted rawQuote s = text at h
  cases h with
  | raw hs =>
    obtain ⟨-, rfl⟩ := quoted_inj htext
    exact hs
  | interpreted _ _ => exact absurd (quoted_inj htext).1 (by decide)

lemma stringSlip_interpreted_iff {xs : List Symbol} (hs : Body stringQuote s xs) :
    StringSlip (quoted stringQuote s) ↔ ∃ x ∈ xs, ¬x.IsBelow 128 := by
  refine ⟨fun h => ?_, .interpreted hs⟩
  generalize htext : quoted stringQuote s = text at h
  cases h with
  | raw _ => exact absurd (quoted_inj htext).1 (by decide)
  | interpreted hs' hxs =>
    obtain ⟨-, rfl⟩ := quoted_inj htext
    obtain rfl := hs.unique (by decide) hs'
    exact hxs

lemma runeSlip_iff {x : Symbol} (hs : Body runeQuote s [x]) :
    RuneSlip (quoted runeQuote s) ↔ ¬x.IsBelow 256 := by
  refine ⟨fun h => ?_, .intro hs⟩
  generalize htext : quoted runeQuote s = text at h
  obtain ⟨hs', hx⟩ := h
  obtain ⟨-, rfl⟩ := quoted_inj htext
  obtain rfl := (List.cons.inj (hs.unique (by decide) hs')).1
  exact hx

end Kinds

section Reading

variable {text v : List Char} {c : Char}

lemma Symbol.number_eq_toNat {x : Symbol} (h : x.IsBelow 512) : x.number = x.char.toNat := by
  cases x with
  | point c => rfl
  | byte n => exact (toNat_ofNat (.inl (Nat.lt_trans h (by decide)))).symm

lemma stringLiteral_iff_of_unquote? (h : unquote? text = some v) :
    StringLiteral (trim text) (v.flatMap String.utf8EncodeChar) ↔ ¬StringSlip (trim text) := by
  rcases unquote?_eq_some_iff.mp h with ⟨s, htext, rfl⟩ | ⟨s, xs, htext, hs, rfl⟩
  · rw [htext, stringLiteral_raw_iff, stringSlip_raw_iff]
    exact and_iff_left rfl
  · rw [htext, stringLiteral_interpreted_iff, hs.encoded_iff (by decide),
      stringSlip_interpreted_iff hs]
    simp only [not_exists, not_and, not_not]

lemma exists_unquote?_of_stringLiteral {bytes : List UInt8}
    (h : StringLiteral (trim text) bytes) : ∃ v, unquote? text = some v := by
  generalize htext : trim text = literal at h
  cases h with
  | raw _ => exact ⟨_, unquote?_eq_some_iff.mpr (.inl ⟨_, htext, rfl⟩)⟩
  | interpreted hs _ => exact ⟨_, unquote?_eq_some_iff.mpr (.inr ⟨_, _, htext, hs, rfl⟩)⟩

lemma runeLiteral_iff_of_unquoteRune? (h : unquoteRune? text = some c) :
    RuneLiteral (trim text) c.toNat ↔ ¬RuneSlip (trim text) := by
  obtain ⟨s, x, htext, hs, rfl⟩ := unquoteRune?_eq_some_iff.mp h
  have hnumber := Symbol.number_eq_toNat (hs.isBelow x List.mem_cons_self)
  rw [htext, runeLiteral_iff, runeSlip_iff hs, not_not]
  constructor
  · rintro ⟨y, hy, hbelow, -⟩
    obtain rfl := (List.cons.inj (hs.unique (by decide) hy)).1
    exact hbelow
  · intro hbelow
    exact ⟨x, hs, hbelow, hnumber.symm⟩

lemma exists_unquoteRune?_of_runeLiteral {n : ℕ} (h : RuneLiteral (trim text) n) :
    ∃ c, unquoteRune? text = some c ∧ c.toNat = n := by
  generalize htext : trim text = literal at h
  obtain ⟨hs, hx⟩ := h
  exact ⟨_, unquoteRune?_eq_some_iff.mpr ⟨_, _, htext, hs, rfl⟩,
    (Symbol.number_eq_toNat (hx.mono (by decide))).symm⟩

end Reading

theorem unquote_denotes (text : List Char) :
    (∀ v, unquote? text = some v →
      (StringLiteral (trim text) (v.flatMap String.utf8EncodeChar) ↔ ¬StringSlip (trim text))) ∧
    (∀ bytes, StringLiteral (trim text) bytes → ∃ v, unquote? text = some v) ∧
    (∀ c, unquoteRune? text = some c →
      (RuneLiteral (trim text) c.toNat ↔ ¬RuneSlip (trim text))) ∧
    ∀ n, RuneLiteral (trim text) n → ∃ c, unquoteRune? text = some c ∧ c.toNat = n :=
  ⟨fun _ => stringLiteral_iff_of_unquote?, fun _ => exists_unquote?_of_stringLiteral,
    fun _ => runeLiteral_iff_of_unquoteRune?, fun _ => exists_unquoteRune?_of_runeLiteral⟩

theorem unquote_unsound :
    (unquote? "\x60a\x60b\x60".toList = some "a\x60b".toList ∧
      ¬∃ bytes, StringLiteral (trim "\x60a\x60b\x60".toList) bytes) ∧
    unquote? "\"\\xff\"".toList = some "\u00ff".toList ∧
      StringLiteral (trim "\"\\xff\"".toList) [0xff] ∧
      "\u00ff".toList.flatMap String.utf8EncodeChar = [0xc3, 0xbf] := by
  have hraws : trim "\x60a\x60b\x60".toList = quoted rawQuote ['a', rawQuote, 'b'] := by
    decide
  have hbyte : trim "\"\\xff\"".toList = quoted stringQuote ['\\', 'x', 'f', 'f'] := by
    decide
  have hescape : Escape stringQuote ('x' :: ['f', 'f']) (.byte 0xff) :=
    .hex rfl (by decide)
  have hbody : Body stringQuote ['\\', 'x', 'f', 'f'] [.byte 0xff] :=
    .escape hescape .nil
  refine ⟨⟨unquote?_eq_some_iff.mpr (.inl ⟨_, hraws, by decide⟩), ?_⟩,
    unquote?_eq_some_iff.mpr (.inr ⟨_, _, hbyte, hbody, by decide⟩), ?_, by decide +kernel⟩
  · rintro ⟨bytes, h⟩
    rw [hraws, stringLiteral_raw_iff] at h
    exact h.1 (by decide)
  · rw [hbyte, stringLiteral_interpreted_iff]
    exact ⟨_, hbody, by simp [Symbol.IsBelow], rfl⟩

end Routewright.Go
