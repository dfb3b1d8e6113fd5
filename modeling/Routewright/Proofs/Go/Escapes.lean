import Mathlib.Tactic.Ring
import Routewright.Proofs.Go.Quoting

namespace Routewright.Go

open Text

inductive Symbol
  | point (c : Char)
  | byte (n : ℕ)

namespace Symbol

def bytes : Symbol → List UInt8
  | point c => String.utf8EncodeChar c
  | byte n => [UInt8.ofNat n]

def char : Symbol → Char
  | point c => c
  | byte n => Char.ofNat n

def IsBelow (bound : ℕ) : Symbol → Prop
  | point _ => True
  | byte n => n < bound

lemma IsBelow.mono {bound bound' : ℕ} (hle : bound ≤ bound') {x : Symbol} (h : x.IsBelow bound) :
    x.IsBelow bound' := by
  cases x with
  | point c => trivial
  | byte n => exact Nat.lt_of_lt_of_le h hle

end Symbol

def letterEscapes : List (Char × Char) :=
  [('a', '\x07'), ('b', '\x08'), ('f', '\x0c'), ('n', '\n'), ('r', '\r'), ('t', '\t'),
    ('v', '\x0b'), ('\\', '\\')]

/-- The escapes, without their backslash. Digits after `u` and `U` give a code point, other digits
give a byte. -/
inductive Escape (quote : Char) : List Char → Symbol → Prop
  | letter {c x : Char} (h : (c, x) ∈ (quote, quote) :: letterEscapes) :
      Escape quote [c] (.point x)
  | octal {digits : List Char} {n : ℕ} (hlength : digits.length = 3)
      (hvalue : digitsValue? 8 digits = some n) : Escape quote digits (.byte n)
  | hex {digits : List Char} {n : ℕ} (hlength : digits.length = 2)
      (hvalue : digitsValue? 16 digits = some n) : Escape quote ('x' :: digits) (.byte n)
  | short {digits : List Char} {c : Char} (hlength : digits.length = 4)
      (hvalue : digitsValue? 16 digits = some c.toNat) : Escape quote ('u' :: digits) (.point c)
  | long {digits : List Char} {c : Char} (hlength : digits.length = 8)
      (hvalue : digitsValue? 16 digits = some c.toNat) : Escape quote ('U' :: digits) (.point c)

inductive Body (quote : Char) : List Char → List Symbol → Prop
  | nil : Body quote [] []
  | plain {c : Char} {s : List Char} {xs : List Symbol} (hquote : c ≠ quote) (hslash : c ≠ '\\')
      (hline : c ≠ '\n') (hs : Body quote s xs) : Body quote (c :: s) (.point c :: xs)
  | escape {e s : List Char} {x : Symbol} {xs : List Symbol} (he : Escape quote e x)
      (hs : Body quote s xs) : Body quote ('\\' :: (e ++ s)) (x :: xs)

section Digits

variable {base n acc : ℕ} {s : List Char}

lemma digitValue?_lt {c : Char} (h : digitValue? base c = some n) : n < base := by
  rw [digitValue?] at h
  obtain ⟨hlt, heq⟩ := Option.ite_none_right_eq_some.mp h
  rwa [← Option.some.inj heq]

lemma digitsValueFrom_lt (h : digitsValueFrom base acc s = some n) :
    n < (acc + 1) * base ^ s.length := by
  induction s generalizing acc with
  | nil =>
    obtain rfl := Option.some.inj h
    simp
  | cons c s ih =>
    obtain ⟨v, hv, hrest⟩ := Option.bind_eq_some_iff.mp h
    have hv := digitValue?_lt hv
    calc n < (acc * base + v + 1) * base ^ s.length := ih hrest
      _ ≤ (acc * base + base) * base ^ s.length := Nat.mul_le_mul_right _ (by omega)
      _ = (acc + 1) * base ^ (c :: s).length := by
        rw [List.length_cons, Nat.pow_succ]
        ring

lemma digitsValue?_lt (h : digitsValue? base s = some n) : n < base ^ s.length := by
  rw [digitsValue?] at h
  split at h
  · cases h
  · have hlt := digitsValueFrom_lt h
    rwa [Nat.zero_add, Nat.one_mul] at hlt

lemma exists_cons_of_digitsValue? (h : digitsValue? base s = some n) :
    ∃ c r, s = c :: r ∧ isDigitOf base c = true := by
  cases s with
  | nil => cases h
  | cons c r =>
    obtain ⟨v, hv, -⟩ := Option.bind_eq_some_iff.mp h
    exact ⟨c, r, rfl, by rw [isDigitOf, hv]; rfl⟩

lemma toNat_ofNat (h : n.isValidChar) : (Char.ofNat n).toNat = n := by
  rw [Char.ofNat, dif_pos h]
  rfl

lemma ofCodePoint?_eq_some_iff {c : Char} : ofCodePoint? n = some c ↔ n = c.toNat := by
  constructor
  · intro h
    obtain ⟨hvalid, hc⟩ := Option.ite_none_right_eq_some.mp h
    rw [← Option.some.inj hc, toNat_ofNat hvalid]
  · rintro rfl
    exact ofCodePoint?_toNat c

lemma ofCodePoint?_of_lt (h : n < 512) : ofCodePoint? n = some (Char.ofNat n) :=
  if_pos (.inl (by omega))

end Digits

section Escapes

variable {quote c : Char} {e s : List Char} {x : Symbol}

lemma Escape.isBelow (h : Escape quote e x) : x.IsBelow 512 := by
  cases h with
  | octal hlength hvalue =>
    have hlt := digitsValue?_lt hvalue
    rwa [hlength] at hlt
  | hex hlength hvalue =>
    have hlt := digitsValue?_lt hvalue
    rw [hlength] at hlt
    exact Nat.lt_trans hlt (by decide)
  | _ => trivial

lemma letterEscape?_eq_some_iff (hq : quote ∈ [stringQuote, runeQuote]) {x : Char} :
    letterEscape? quote c = some x ↔ (c, x) ∈ (quote, quote) :: letterEscapes := by
  constructor
  · intro h
    rw [letterEscape?.eq_def] at h
    split at h
    case h_9 =>
      split at h
      · rename_i heq
        rw [← Option.some.inj h, heq]
        exact List.mem_cons_self
      · cases h
    all_goals
      rw [← Option.some.inj h]
      exact List.mem_cons_of_mem _ (by decide)
  · intro h
    simp only [letterEscapes, List.mem_cons, Prod.mk.injEq, List.not_mem_nil, or_false] at h hq
    rcases h with ⟨rfl, rfl⟩ | h
    · rcases hq with rfl | rfl <;> rfl
    · rcases h with ⟨rfl, rfl⟩ | ⟨rfl, rfl⟩ | ⟨rfl, rfl⟩ | ⟨rfl, rfl⟩ | ⟨rfl, rfl⟩ | ⟨rfl, rfl⟩ |
        ⟨rfl, rfl⟩ | ⟨rfl, rfl⟩ <;> rfl

lemma letterEscape?_of_octal (hq : quote ∈ [stringQuote, runeQuote]) (hc : isDigitOf 8 c = true) :
    letterEscape? quote c = none := by
  rw [Option.eq_none_iff_forall_ne_some]
  intro x hx
  have hnot : ∀ q ∈ [stringQuote, runeQuote], ∀ y ∈ (q, q) :: letterEscapes,
      isDigitOf 8 y.1 = false := by
    decide
  rw [hnot quote hq _ ((letterEscape?_eq_some_iff hq).mp hx)] at hc
  cases hc

lemma escape?_of_numeric {base count skip n : ℕ} {digits : List Char}
    (hletter : letterEscape? quote c = none) (hnumeric : numericEscape? c = some (base, count, skip))
    (hskip : skip ≤ 1) (hdigits : (c :: e).drop skip = digits) (hlength : digits.length = count)
    (hvalue : digitsValue? base digits = some n) {x : Char} (hx : ofCodePoint? n = some x)
    (t : List Char) : escape? quote (c :: (e ++ t)) = some (x, skip + count) := by
  have htake : ((c :: (e ++ t)).drop skip).take count = digits := by
    have hle : skip ≤ (c :: e).length := by
      rw [List.length_cons]
      omega
    rw [← List.cons_append, List.drop_append_of_le_length hle, hdigits, List.take_left' hlength]
  rw [escape?, hletter]
  dsimp only
  rw [hnumeric]
  dsimp only
  rw [htake, if_pos hlength, hvalue, Option.bind_some, hx, Option.map_some]

lemma Escape.escape?_append (hq : quote ∈ [stringQuote, runeQuote]) (h : Escape quote e x)
    (t : List Char) : escape? quote (e ++ t) = some (x.char, e.length) := by
  have hbelow := h.isBelow
  have hletters : ∀ q ∈ [stringQuote, runeQuote], ∀ c ∈ ['x', 'u', 'U'],
      letterEscape? q c = none := by
    decide
  cases h with
  | letter h =>
    rw [List.singleton_append, escape?, (letterEscape?_eq_some_iff hq).mpr h]
    rfl
  | octal hlength hvalue =>
    obtain ⟨c, r, rfl, hc⟩ := exists_cons_of_digitsValue? hvalue
    rw [List.cons_append, hlength]
    have hnumeric : numericEscape? c = some (8, 3, 0) := by
      rw [numericEscape?, if_neg, if_neg, if_neg, if_pos hc]
      all_goals
        rintro rfl
        exact absurd hc (by decide)
    exact escape?_of_numeric (letterEscape?_of_octal hq hc) hnumeric (by decide) rfl hlength hvalue
      (ofCodePoint?_of_lt hbelow) t
  | hex hlength hvalue =>
    rw [List.cons_append, List.length_cons, hlength]
    exact escape?_of_numeric (hletters quote hq 'x' (by decide)) rfl (by decide) rfl hlength hvalue
      (ofCodePoint?_of_lt hbelow) t
  | short hlength hvalue =>
    rw [List.cons_append, List.length_cons, hlength]
    exact escape?_of_numeric (hletters quote hq 'u' (by decide)) rfl (by decide) rfl hlength hvalue
      (ofCodePoint?_eq_some_iff.mpr rfl) t
  | long hlength hvalue =>
    rw [List.cons_append, List.length_cons, hlength]
    exact escape?_of_numeric (hletters quote hq 'U' (by decide)) rfl (by decide) rfl hlength hvalue
      (ofCodePoint?_eq_some_iff.mpr rfl) t

lemma exists_escape_of_escape? (hq : quote ∈ [stringQuote, runeQuote]) {n : ℕ}
    (h : escape? quote s = some (c, n)) :
    ∃ e t x, s = e ++ t ∧ e.length = n ∧ Escape quote e x ∧ x.char = c := by
  cases s with
  | nil => cases h
  | cons d r =>
    rw [escape?] at h
    split at h
    · rename_i x hx
      obtain ⟨rfl, rfl⟩ := Prod.mk.inj (Option.some.inj h)
      exact ⟨[d], r, _, rfl, rfl, .letter ((letterEscape?_eq_some_iff hq).mp hx), rfl⟩
    · split at h
      · cases h
      · rename_i base count skip hnumeric
        dsimp only at h
        obtain ⟨hlength, h⟩ := Option.ite_none_right_eq_some.mp h
        obtain ⟨y, hvalue, heq⟩ := Option.map_eq_some_iff.mp h
        obtain ⟨rfl, rfl⟩ := Prod.mk.inj heq
        obtain ⟨n, hn, hcode⟩ := Option.bind_eq_some_iff.mp hvalue
        have hy := ofCodePoint?_eq_some_iff.mp hcode
        have hchar : Char.ofNat n = y := by
          rw [hy, Char.ofNat_toNat]
        rw [numericEscape?] at hnumeric
        split_ifs at hnumeric with hx hu hU hoctal <;>
          obtain ⟨rfl, hcount⟩ := Prod.mk.inj (Option.some.inj hnumeric) <;>
          obtain ⟨rfl, rfl⟩ := Prod.mk.inj hcount
        · exact ⟨d :: r.take 2, r.drop 2, .byte n, by rw [List.cons_append, List.take_append_drop],
            congrArg (· + 1) hlength, hx ▸ .hex hlength hn, hchar⟩
        · exact ⟨d :: r.take 4, r.drop 4, .point y, by rw [List.cons_append, List.take_append_drop],
            congrArg (· + 1) hlength, hu ▸ .short hlength (hy ▸ hn), rfl⟩
        · exact ⟨d :: r.take 8, r.drop 8, .point y, by rw [List.cons_append, List.take_append_drop],
            congrArg (· + 1) hlength, hU ▸ .long hlength (hy ▸ hn), rfl⟩
        · exact ⟨(d :: r).take 3, (d :: r).drop 3, .byte n, (List.take_append_drop 3 _).symm,
            hlength, .octal hlength hn, hchar⟩

end Escapes

section Bodies

variable {quote : Char} {e e' s s' t : List Char} {x x' : Symbol} {xs ys : List Symbol}

lemma Escape.length_byte {n : ℕ} (h : Escape quote e (.byte n)) : e.length = 3 := by
  cases h with
  | octal hlength _ => exact hlength
  | hex hlength _ => rw [List.length_cons, hlength]

lemma Escape.length_point {c : Char} (h : Escape quote e (.point c)) : e.length ≠ 3 := by
  cases h with
  | letter _ => simp
  | short hlength _ | long hlength _ =>
    rw [List.length_cons, hlength]
    decide

lemma Symbol.eq_of_char {n m : ℕ} (hn : n < 512) (hm : m < 512) (h : Char.ofNat n = Char.ofNat m) :
    n = m := by
  have hvalid : ∀ k < 512, (Char.ofNat k).toNat = k := fun k hk => by
    exact toNat_ofNat (.inl (by omega))
  rw [← hvalid n hn, h, hvalid m hm]

lemma Escape.unique (hq : quote ∈ [stringQuote, runeQuote]) (h : Escape quote e x)
    (h' : Escape quote e' x') (heq : e ++ s = e' ++ s') : e = e' ∧ x = x' ∧ s = s' := by
  have hread := h.escape?_append hq s
  rw [heq, h'.escape?_append hq s'] at hread
  obtain ⟨hchar, hlength⟩ := Prod.mk.inj (Option.some.inj hread)
  obtain ⟨rfl, rfl⟩ := List.append_inj heq hlength.symm
  refine ⟨rfl, ?_, rfl⟩
  -- The same characters cannot be a byte and a code point: only the escapes of bytes have three.
  cases x with
  | point c =>
    cases x' with
    | point c' => exact congrArg Symbol.point hchar.symm
    | byte n => exact absurd h'.length_byte h.length_point
  | byte n =>
    cases x' with
    | point c => exact absurd h.length_byte h'.length_point
    | byte m => rw [Symbol.eq_of_char h'.isBelow h.isBelow hchar]

lemma Body.isBelow (h : Body quote s xs) : ∀ x ∈ xs, x.IsBelow 512 := by
  induction h with
  | nil => simp
  | plain _ _ _ _ ih => exact List.forall_mem_cons.mpr ⟨trivial, ih⟩
  | escape he _ ih => exact List.forall_mem_cons.mpr ⟨he.isBelow, ih⟩

lemma Body.unescape?_eq (hq : quote ∈ [stringQuote, runeQuote]) (h : Body quote s xs) :
    unescape? quote s = some (xs.map Symbol.char) := by
  have hslash : '\\' ∉ [stringQuote, runeQuote] := by
    decide
  induction h with
  | nil => rw [unescape?]; rfl
  | plain hquote hslash hline _ ih =>
    rw [unescape?, if_neg (not_or.mpr ⟨hquote, hline⟩), if_neg hslash, ih]
    rfl
  | @escape e s x xs he _ ih =>
    have hopen : ¬('\\' = quote ∨ '\\' = '\n') := by
      rintro (rfl | heq)
      · exact hslash hq
      · exact absurd heq (by decide)
    rw [unescape?, if_neg hopen, if_pos rfl, he.escape?_append hq]
    dsimp only
    rw [List.drop_left, ih]
    rfl

lemma exists_body_of_unescape? (hq : quote ∈ [stringQuote, runeQuote])
    (h : unescape? quote s = some t) : ∃ xs, Body quote s xs ∧ t = xs.map Symbol.char := by
  induction hn : s.length using Nat.strongRecOn generalizing s t with
  | ind n ih =>
    subst hn
    cases s with
    | nil =>
      rw [unescape?] at h
      exact ⟨[], .nil, (Option.some.inj h).symm⟩
    | cons c r =>
      rw [unescape?] at h
      split_ifs at h with hopen hslash
      · split at h
        · cases h
        · rename_i x n hx
          obtain ⟨e, u, y, rfl, rfl, he, rfl⟩ := exists_escape_of_escape? hq hx
          obtain ⟨t, ht, rfl⟩ := Option.map_eq_some_iff.mp h
          rw [List.drop_left] at ht
          have hlt : u.length < (c :: (e ++ u)).length := by
            rw [List.length_cons, List.length_append]
            omega
          obtain ⟨xs, hxs, rfl⟩ := ih u.length hlt ht rfl
          rw [hslash]
          exact ⟨y :: xs, .escape he hxs, rfl⟩
      · obtain ⟨t, ht, rfl⟩ := Option.map_eq_some_iff.mp h
        obtain ⟨xs, hxs, rfl⟩ := ih r.length (by simp) ht rfl
        obtain ⟨hquote, hline⟩ := not_or.mp hopen
        exact ⟨.point c :: xs, .plain hquote hslash hline hxs, rfl⟩

lemma Body.unique (hq : quote ∈ [stringQuote, runeQuote]) (h : Body quote s xs)
    (h' : Body quote s ys) : xs = ys := by
  induction h generalizing ys with
  | nil =>
    cases h'
    rfl
  | plain hquote hslash hline _ ih =>
    cases h' with
    | plain _ _ _ hs' => rw [ih hs']
    | escape _ _ => exact absurd rfl hslash
  | @escape e s x xs he _ ih =>
    generalize htext : '\\' :: (e ++ s) = text at h'
    cases h' with
    | nil => cases htext
    | plain _ hslash _ _ => exact absurd (List.cons.inj htext).1.symm hslash
    | escape he' hs' =>
      obtain ⟨-, rfl, rfl⟩ := he.unique hq he' (List.cons.inj htext).2
      rw [ih hs']

end Bodies

section Bytes

variable {x : Symbol} {xs : List Symbol}

lemma Symbol.length_bytes_le (x : Symbol) :
    x.bytes.length ≤ (String.utf8EncodeChar x.char).length := by
  cases x with
  | point c => exact Nat.le_refl _
  | byte n =>
    rw [String.length_utf8EncodeChar]
    exact (Char.ofNat n).utf8Size_pos

lemma Symbol.bytes_eq_iff (h : x.IsBelow 512) :
    String.utf8EncodeChar x.char = x.bytes ↔ x.IsBelow 128 := by
  cases x with
  | point c => exact ⟨fun _ => trivial, fun _ => rfl⟩
  | byte n =>
    have hvalue : (Char.ofNat n).val.toNat = n := toNat_ofNat (.inl (Nat.lt_trans h (by decide)))
    constructor
    · intro heq
      have hsize := congrArg List.length heq
      rw [String.length_utf8EncodeChar] at hsize
      have hle := UInt32.le_iff_toNat_le.mp (Char.utf8Size_eq_one_iff.mp hsize)
      rw [Symbol.char, hvalue] at hle
      exact Nat.lt_succ_of_le hle
    · intro hn
      have hle : n ≤ 127 := Nat.le_of_lt_succ hn
      simp only [Symbol.char, String.utf8EncodeChar, hvalue, if_pos hle, Symbol.bytes]

lemma length_flatMap_bytes_le (xs : List Symbol) :
    (xs.flatMap Symbol.bytes).length ≤
      ((xs.map Symbol.char).flatMap String.utf8EncodeChar).length := by
  induction xs with
  | nil => exact Nat.le_refl _
  | cons x xs ih =>
    simp only [List.map_cons, List.flatMap_cons, List.length_append]
    exact Nat.add_le_add x.length_bytes_le ih

lemma flatMap_bytes_eq_iff (h : ∀ x ∈ xs, x.IsBelow 512) :
    (xs.map Symbol.char).flatMap String.utf8EncodeChar = xs.flatMap Symbol.bytes ↔
      ∀ x ∈ xs, x.IsBelow 128 := by
  induction xs with
  | nil => simp
  | cons x xs ih =>
    obtain ⟨hx, hxs⟩ := List.forall_mem_cons.mp h
    rw [List.forall_mem_cons, ← ih hxs, ← Symbol.bytes_eq_iff hx, List.map_cons, List.flatMap_cons,
      List.flatMap_cons]
    constructor
    · intro heq
      -- No byte is longer than the encoding of its character, so neither part can be the shorter.
      have hlength := congrArg List.length heq
      rw [List.length_append, List.length_append] at hlength
      have hhead := x.length_bytes_le
      have htail := length_flatMap_bytes_le xs
      exact List.append_inj heq (by omega)
    · rintro ⟨hhead, htail⟩
      rw [hhead, htail]

lemma Body.encoded_iff {quote : Char} {s : List Char} (hq : quote ∈ [stringQuote, runeQuote])
    (hs : Body quote s xs) :
    (∃ ys, Body quote s ys ∧ (∀ y ∈ ys, y.IsBelow 256) ∧
      (xs.map Symbol.char).flatMap String.utf8EncodeChar = ys.flatMap Symbol.bytes) ↔
        ∀ x ∈ xs, x.IsBelow 128 := by
  have hbytes := flatMap_bytes_eq_iff hs.isBelow
  constructor
  · rintro ⟨ys, hys, -, heq⟩
    obtain rfl := hs.unique hq hys
    exact hbytes.mp heq
  · intro hbelow
    exact ⟨xs, hs, fun x hx => (hbelow x hx).mono (by decide), hbytes.mpr hbelow⟩

end Bytes

section Quotes

variable {q : Char} {s text : List Char}

def quoted (quote : Char) (s : List Char) : List Char :=
  quote :: (s ++ [quote])

lemma quoted_inj {q' : Char} {s' : List Char} (h : quoted q s = quoted q' s') :
    q = q' ∧ s = s' := by
  obtain ⟨rfl, hrest⟩ := List.cons.inj h
  exact ⟨rfl, List.append_cancel_right hrest⟩

lemma between?_eq_some_iff {body : List Char} : between? q s = some body ↔ s = quoted q body := by
  cases s with
  | nil => simp [between?, quoted]
  | cons c r =>
    rw [between?, Option.ite_none_right_eq_some]
    constructor
    · rintro ⟨⟨rfl, hlast⟩, heq⟩
      obtain ⟨body, rfl⟩ := List.getLast?_eq_some_iff.mp hlast
      rw [List.dropLast_concat] at heq
      rw [← Option.some.inj heq, quoted]
    · intro heq
      obtain ⟨rfl, rfl⟩ := List.cons.inj heq
      exact ⟨⟨rfl, List.getLast?_concat⟩, congrArg some List.dropLast_concat⟩

lemma unquote?_eq_some_iff {v : List Char} : unquote? text = some v ↔
    (∃ s, trim text = quoted rawQuote s ∧ v = s.filter (· ≠ '\r')) ∨
      ∃ s xs, trim text = quoted stringQuote s ∧ Body stringQuote s xs ∧
        v = xs.map Symbol.char := by
  have hq : stringQuote ∈ [stringQuote, runeQuote] := by
    decide
  rw [unquote?]
  constructor
  · intro h
    split at h
    · rename_i s hs
      exact .inl ⟨s, between?_eq_some_iff.mp hs, (Option.some.inj h).symm⟩
    · obtain ⟨s, hs, hv⟩ := Option.bind_eq_some_iff.mp h
      obtain ⟨xs, hxs, heq⟩ := exists_body_of_unescape? hq hv
      exact .inr ⟨s, xs, between?_eq_some_iff.mp hs, hxs, heq⟩
  · rintro (⟨s, hs, rfl⟩ | ⟨s, xs, hs, hxs, rfl⟩)
    · simp only [between?_eq_some_iff.mpr hs]
    · have hraw : between? rawQuote (trim text) = none := by
        rw [Option.eq_none_iff_forall_ne_some]
        intro body hbody
        have heq := (quoted_inj (hs.symm.trans (between?_eq_some_iff.mp hbody))).1
        exact absurd heq (by decide)
      simp only [hraw, between?_eq_some_iff.mpr hs, Option.bind_some, hxs.unescape?_eq hq]

lemma unquoteRune?_eq_some_iff {c : Char} : unquoteRune? text = some c ↔
    ∃ s x, trim text = quoted runeQuote s ∧ Body runeQuote s [x] ∧ c = x.char := by
  have hq : runeQuote ∈ [stringQuote, runeQuote] := by
    decide
  rw [unquoteRune?]
  constructor
  · intro h
    split at h
    · rename_i d hd
      obtain ⟨s, hs, hv⟩ := Option.bind_eq_some_iff.mp hd
      obtain ⟨xs, hxs, heq⟩ := exists_body_of_unescape? hq hv
      obtain ⟨x, rfl, hx⟩ := List.map_eq_singleton_iff.mp heq.symm
      exact ⟨s, x, between?_eq_some_iff.mp hs, hxs, (Option.some.inj h).symm.trans hx.symm⟩
    · cases h
  · rintro ⟨s, x, hs, hx, rfl⟩
    simp only [between?_eq_some_iff.mpr hs, Option.bind_some, hx.unescape?_eq hq, List.map_cons,
      List.map_nil]

end Quotes

end Routewright.Go
