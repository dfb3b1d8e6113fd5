import Mathlib.Algebra.Group.Nat.Defs
import Mathlib.Tactic.MkIffOfInductiveProp
import Routewright.Proofs.Text.Ascii
import Routewright.Proofs.Text.ByteOrder
import Routewright.Text.Utf8

namespace Routewright.Text.Utf8

def lastBytes : ℕ → ℕ → List UInt8
  | 0, _ => []
  | k + 1, n => .ofNat (n / 64 ^ k % 64 + 0x80) :: lastBytes k n

namespace Partial

@[mk_iff]
structure Begins (p : Partial) (n : ℕ) : Prop where
  bits : n / 64 ^ (p.more + 1) = p.bits
  lower : p.lower ≤ n / 64 ^ p.more % 64 + 0x80
  upper : n / 64 ^ p.more % 64 + 0x80 ≤ p.upper

structure IsSound (p : Partial) : Prop where
  lower : 0x80 ≤ p.lower
  upper : p.upper ≤ 0xbf
  valid : ∀ n, p.Begins n → n.isValidChar

end Partial

/-- What is known of a character behind its first byte, if it has more of them. The bounds keep out
what has a shorter encoding, the surrogates, and what is too large. -/
inductive Opens (b : ℕ) : Partial → Prop
  | pair (hl : 0xc2 ≤ b) (hu : b < 0xe0) : Opens b ⟨b - 0xc0, 0x80, 0xbf, 0⟩
  | triple {lower upper : ℕ} (hl : 0xe0 ≤ b) (hu : b < 0xf0)
      (hlower : b = 0xe0 ∧ lower = 0xa0 ∨ b ≠ 0xe0 ∧ lower = 0x80)
      (hupper : b = 0xed ∧ upper = 0x9f ∨ b ≠ 0xed ∧ upper = 0xbf) :
      Opens b ⟨b - 0xe0, lower, upper, 1⟩
  | quadruple {lower upper : ℕ} (hl : 0xf0 ≤ b) (hu : b ≤ 0xf4)
      (hlower : b = 0xf0 ∧ lower = 0x90 ∨ b ≠ 0xf0 ∧ lower = 0x80)
      (hupper : b = 0xf4 ∧ upper = 0x8f ∨ b ≠ 0xf4 ∧ upper = 0xbf) :
      Opens b ⟨b - 0xf0, lower, upper, 2⟩

variable {b : UInt8} {m n k : ℕ} {p : Partial} {c : Char} {l r : List UInt8}
  {t : List (Option Char)}

section First

lemma first_of_opens (h : Opens m p) : first m = .more p := by
  cases h with
  | pair hl hu => rw [first, if_neg (by omega), if_neg (by omega), if_pos hu]
  | @triple lower upper hl hu hlower hupper =>
    rw [first, if_neg (by omega), if_neg (by omega), if_neg (by omega)]
    rcases hlower with ⟨rfl, rfl⟩ | ⟨hfirst, rfl⟩
    · obtain rfl : upper = 0xbf := by omega
      rfl
    · rw [if_neg hfirst]
      rcases hupper with ⟨rfl, rfl⟩ | ⟨hlast, rfl⟩
      · rfl
      · rw [if_neg hlast, if_pos hu]
  | @quadruple lower upper hl hu hlower hupper =>
    rw [first, if_neg (by omega), if_neg (by omega), if_neg (by omega), if_neg (by omega),
      if_neg (by omega), if_neg (by omega)]
    rcases hlower with ⟨rfl, rfl⟩ | ⟨hfirst, rfl⟩
    · obtain rfl : upper = 0xbf := by omega
      rfl
    · rw [if_neg hfirst]
      rcases hupper with ⟨rfl, rfl⟩ | ⟨hlast, rfl⟩
      · rfl
      · rw [if_pos (by omega)]

lemma exists_bound (m a x y : ℕ) : ∃ z, m = a ∧ z = x ∨ m ≠ a ∧ z = y := by
  by_cases h : m = a
  · exact ⟨x, .inl ⟨h, rfl⟩⟩
  · exact ⟨y, .inr ⟨h, rfl⟩⟩

lemma first_cases (m : ℕ) : (m < 0x80 ∧ first m = .done (.ofNat m)) ∨
    (∃ p, Opens m p ∧ first m = .more p) ∨ first m = .bad := by
  have hrange : m < 0x80 ∨ (0xc2 ≤ m ∧ m < 0xe0) ∨ (0xe0 ≤ m ∧ m < 0xf0) ∨ (0xf0 ≤ m ∧ m ≤ 0xf4) ∨
      (0x80 ≤ m ∧ m < 0xc2) ∨ 0xf4 < m := by
    omega
  rcases hrange with h | ⟨hl, hu⟩ | ⟨hl, hu⟩ | ⟨hl, hu⟩ | ⟨hl, hu⟩ | h
  · exact .inl ⟨h, if_pos h⟩
  · have hopens : Opens m _ := .pair hl hu
    exact .inr (.inl ⟨_, hopens, first_of_opens hopens⟩)
  · obtain ⟨lower, hlower⟩ := exists_bound m 0xe0 0xa0 0x80
    obtain ⟨upper, hupper⟩ := exists_bound m 0xed 0x9f 0xbf
    have hopens : Opens m _ := .triple hl hu hlower hupper
    exact .inr (.inl ⟨_, hopens, first_of_opens hopens⟩)
  · obtain ⟨lower, hlower⟩ := exists_bound m 0xf0 0x90 0x80
    obtain ⟨upper, hupper⟩ := exists_bound m 0xf4 0x8f 0xbf
    have hopens : Opens m _ := .quadruple hl hu hlower hupper
    exact .inr (.inl ⟨_, hopens, first_of_opens hopens⟩)
  · exact .inr (.inr (by rw [first, if_neg (by omega), if_pos hu]))
  · refine .inr (.inr ?_)
    rw [first]
    iterate 9 rw [if_neg (by omega)]

lemma isSound_of_opens (h : Opens m p) : p.IsSound := by
  cases h with
  | pair hl hu =>
    refine ⟨Nat.le_refl _, Nat.le_refl _, fun n hn => ?_⟩
    have hbits := hn.bits
    simp only [Nat.reducePow, Nat.reduceAdd] at hbits
    rw [Nat.isValidChar]
    omega
  | triple hl hu hlower hupper =>
    refine ⟨by dsimp only; omega, by dsimp only; omega, fun n ⟨hbits, hleft, hright⟩ => ?_⟩
    simp only [Nat.reducePow, Nat.reduceAdd] at hbits hleft hright
    rw [Nat.isValidChar]
    omega
  | quadruple hl hu hlower hupper =>
    refine ⟨by dsimp only; omega, by dsimp only; omega, fun n ⟨hbits, hleft, hright⟩ => ?_⟩
    simp only [Nat.reducePow, Nat.reduceAdd] at hbits hleft hright
    rw [Nat.isValidChar]
    omega

lemma encode_of_lt (h : c.toNat < 0x80) : String.utf8EncodeChar c = [.ofNat c.toNat] :=
  if_pos (Nat.le_of_lt_succ h)

lemma encode_of_opens (h : Opens b.toNat p) (hc : p.Begins c.toNat) :
    String.utf8EncodeChar c = b :: lastBytes (p.more + 1) c.toNat := by
  have hvalue : c.val.toNat = c.toNat := rfl
  obtain ⟨hbits, hleft, hright⟩ := hc
  rw [String.utf8EncodeChar, hvalue]
  cases h with
  | pair hl hu =>
    simp only [Nat.reducePow, Nat.reduceAdd, Nat.div_one] at hbits hleft hright
    rw [if_neg (by omega), if_pos (by omega)]
    simp only [lastBytes, List.cons.injEq, ← UInt8.toNat_inj, UInt8.toNat_ofNat', Nat.reducePow,
      Nat.div_one, and_true]
    omega
  | triple hl hu hlower hupper =>
    simp only [Nat.reducePow, Nat.reduceAdd] at hbits hleft hright
    rw [if_neg (by omega), if_neg (by omega), if_pos (by omega)]
    simp only [lastBytes, List.cons.injEq, ← UInt8.toNat_inj, UInt8.toNat_ofNat', Nat.reducePow,
      Nat.div_one, and_true]
    omega
  | quadruple hl hu hlower hupper =>
    simp only [Nat.reducePow, Nat.reduceAdd] at hbits hleft hright
    rw [if_neg (by omega), if_neg (by omega), if_neg (by omega)]
    simp only [lastBytes, List.cons.injEq, ← UInt8.toNat_inj, UInt8.toNat_ofNat', Nat.reducePow,
      Nat.div_one, and_true]
    omega

lemma exists_opens (hvalid : n.isValidChar) (h : 0x80 ≤ n) :
    ∃ m < 0x100, ∃ p, Opens m p ∧ p.Begins n := by
  rw [Nat.isValidChar] at hvalid
  have hrange : n < 0x800 ∨ (0x800 ≤ n ∧ n < 0x10000) ∨ 0x10000 ≤ n := by
    omega
  rcases hrange with hu | ⟨hl, hu⟩ | hl
  · refine ⟨n / 64 + 0xc0, by omega, _, .pair (by omega) (by omega), ?_, ?_, ?_⟩
    all_goals
      simp only [Nat.reducePow, Nat.reduceAdd, Nat.div_one]
      omega
  · obtain ⟨lower, hlower⟩ := exists_bound (n / 4096 + 0xe0) 0xe0 0xa0 0x80
    obtain ⟨upper, hupper⟩ := exists_bound (n / 4096 + 0xe0) 0xed 0x9f 0xbf
    refine ⟨_, by omega, _, .triple (by omega) (by omega) hlower hupper, ?_, ?_, ?_⟩
    all_goals
      simp only [Nat.reducePow, Nat.reduceAdd]
      omega
  · obtain ⟨lower, hlower⟩ := exists_bound (n / 262144 + 0xf0) 0xf0 0x90 0x80
    obtain ⟨upper, hupper⟩ := exists_bound (n / 262144 + 0xf0) 0xf4 0x8f 0xbf
    refine ⟨_, by omega, _, .quadruple (by omega) (by omega) hlower hupper, ?_, ?_, ?_⟩
    all_goals
      simp only [Nat.reducePow, Nat.reduceAdd]
      omega

end First

section Units

lemma begins_and_byte_iff (hp : p.IsSound) (hb : p.lower ≤ b.toNat ∧ b.toNat ≤ p.upper) (n : ℕ) :
    p.Begins n ∧ b = .ofNat (n / 64 ^ p.more % 64 + 0x80) ↔
      n / 64 ^ p.more = p.bits * 64 + (b.toNat - 0x80) := by
  have hlower := hp.lower
  have hupper := hp.upper
  rw [Partial.begins_iff, Nat.pow_succ, ← Nat.div_div_eq_div_mul, ← UInt8.toNat_inj,
    UInt8.toNat_ofNat']
  generalize n / 64 ^ p.more = value
  omega

lemma in_bounds (hc : p.Begins n) (hb : b = .ofNat (n / 64 ^ p.more % 64 + 0x80)) :
    p.lower ≤ b.toNat ∧ b.toNat ≤ p.upper := by
  have hbyte : b.toNat = n / 64 ^ p.more % 64 + 0x80 := by
    rw [hb, UInt8.toNat_ofNat']
    omega
  rw [hbyte]
  exact ⟨hc.lower, hc.upper⟩

lemma unitsAfter_eq_cons_iff (hp : p.IsSound) : unitsAfter p l = some c :: t ↔
    p.Begins c.toNat ∧ ∃ r, l = lastBytes (p.more + 1) c.toNat ++ r ∧ unitsFrom r = t := by
  -- By the bytes: one within the bounds narrows the code points down, any other ends the character.
  induction l generalizing p with
  | nil => simp [unitsAfter, lastBytes]
  | cons b l ih =>
    by_cases hb : p.lower ≤ b.toNat ∧ b.toNat ≤ p.upper
    · have hbyte := begins_and_byte_iff hp hb
      obtain ⟨bits, lower, upper, k⟩ := p
      cases k with
      | zero =>
        have hnext : Partial.next ⟨bits, lower, upper, 0⟩ b.toNat =
            .done (.ofNat (bits * 64 + (b.toNat - 0x80))) := if_pos hb
        have hread : Char.ofNat (bits * 64 + (b.toNat - 0x80)) = c ↔
            c.toNat / 64 ^ 0 = bits * 64 + (b.toNat - 0x80) := by
          rw [Nat.pow_zero, Nat.div_one]
          constructor
          · rintro rfl
            exact toNat_ofNat (hp.valid _ ((hbyte _).mpr (Nat.div_one _)).1)
          · intro h
            rw [← h, Char.ofNat_toNat]
        rw [unitsAfter, hnext]
        dsimp only
        rw [List.cons.injEq, Option.some.injEq, hread, ← hbyte]
        simp [lastBytes, and_assoc]
      | succ k =>
        have hnext : Partial.next ⟨bits, lower, upper, k + 1⟩ b.toNat =
            .more ⟨bits * 64 + (b.toNat - 0x80), 0x80, 0xbf, k⟩ := if_pos hb
        have hbegins : ∀ n, Partial.Begins ⟨bits * 64 + (b.toNat - 0x80), 0x80, 0xbf, k⟩ n ↔
            n / 64 ^ (k + 1) = bits * 64 + (b.toNat - 0x80) := by
          intro n
          rw [Partial.begins_iff]
          dsimp only
          omega
        have hsound : Partial.IsSound ⟨bits * 64 + (b.toNat - 0x80), 0x80, 0xbf, k⟩ :=
          ⟨Nat.le_refl _, Nat.le_refl _, fun n hn =>
            hp.valid n ((hbyte n).mpr ((hbegins n).mp hn)).1⟩
        rw [unitsAfter, hnext]
        dsimp only
        rw [ih hsound, hbegins, ← hbyte]
        simp [lastBytes, and_assoc]
    · have hnext : p.next b.toNat = .bad := if_neg hb
      refine iff_of_false (fun h => ?_) ?_
      · rw [unitsAfter, hnext] at h
        dsimp only at h
        split at h <;> cases h
      · rintro ⟨hc, r, heq, -⟩
        exact hb (in_bounds hc (List.cons.inj heq).1)

lemma unitsAfter_ne_nil (p : Partial) (l : List UInt8) : unitsAfter p l ≠ [] := by
  induction l generalizing p with
  | nil => exact List.cons_ne_nil _ _
  | cons b l ih =>
    rw [unitsAfter]
    split
    · exact List.cons_ne_nil _ _
    · exact ih _
    · split <;> exact List.cons_ne_nil _ _

lemma unitsFrom_eq_nil_iff : unitsFrom l = [] ↔ l = [] := by
  cases l with
  | nil => exact iff_of_true (by rw [unitsFrom]) rfl
  | cons b l =>
    refine iff_of_false ?_ (List.cons_ne_nil _ _)
    rw [unitsFrom]
    split
    · exact List.cons_ne_nil _ _
    · exact unitsAfter_ne_nil _ _
    · exact List.cons_ne_nil _ _

lemma unitsFrom_encode_append (c : Char) (r : List UInt8) :
    unitsFrom (String.utf8EncodeChar c ++ r) = some c :: unitsFrom r := by
  by_cases hc : c.toNat < 0x80
  · have hb : (UInt8.ofNat c.toNat).toNat = c.toNat := UInt8.toNat_ofNat_of_lt' (by
      rw [UInt8.size]
      omega)
    rw [encode_of_lt hc, List.singleton_append, unitsFrom, hb, first, if_pos hc, Char.ofNat_toNat]
  · obtain ⟨m, hm, p, hopens, hbegins⟩ := exists_opens c.valid (Nat.le_of_not_lt hc)
    have hb : (UInt8.ofNat m).toNat = m := UInt8.toNat_ofNat_of_lt' hm
    rw [← hb] at hopens
    rw [encode_of_opens hopens hbegins, List.cons_append, unitsFrom, first_of_opens hopens]
    exact (unitsAfter_eq_cons_iff (isSound_of_opens hopens)).mpr ⟨hbegins, r, rfl, rfl⟩

lemma exists_of_unitsFrom (h : unitsFrom l = some c :: t) :
    ∃ r, l = String.utf8EncodeChar c ++ r ∧ unitsFrom r = t := by
  cases l with
  | nil => simp [unitsFrom] at h
  | cons b l =>
    rw [unitsFrom] at h
    rcases first_cases b.toNat with ⟨hb, hfirst⟩ | ⟨p, hopens, hfirst⟩ | hfirst
    · rw [hfirst] at h
      obtain ⟨hc, ht⟩ := List.cons.inj h
      obtain rfl := Option.some.inj hc
      refine ⟨l, ?_, ht⟩
      have hvalue : (Char.ofNat b.toNat).toNat = b.toNat := toNat_ofNat (.inl (by omega))
      rw [encode_of_lt (by rwa [hvalue]), hvalue, UInt8.ofNat_toNat, List.singleton_append]
    · rw [hfirst] at h
      obtain ⟨hbegins, r, hl, ht⟩ := (unitsAfter_eq_cons_iff (isSound_of_opens hopens)).mp h
      exact ⟨r, by rw [encode_of_opens hopens hbegins, hl, List.cons_append], ht⟩
    · rw [hfirst] at h
      cases h

lemma unitsFrom_eq_iff {s : List Char} :
    unitsFrom l = s.map some ↔ l = s.flatMap String.utf8EncodeChar := by
  induction s generalizing l with
  | nil => exact unitsFrom_eq_nil_iff
  | cons c s ih =>
    rw [List.map_cons, List.flatMap_cons]
    constructor
    · intro h
      obtain ⟨r, rfl, hr⟩ := exists_of_unitsFrom h
      rw [ih.mp hr]
    · rintro rfl
      rw [unitsFrom_encode_append, ih.mpr rfl]

theorem decode?_eq_some_iff {content : ByteArray} {s : String} :
    decode? content = some s ↔ content = s.toUTF8 := by
  have htext : sequence (units content) = some s.toList ↔ content.data.toList = bytes s := by
    rw [sequence_eq_some_iff, units, unitsFrom_eq_iff, bytes_eq]
  rw [decode?, Option.map_eq_some_iff]
  constructor
  · rintro ⟨characters, hread, rfl⟩
    have hbytes := htext.mp (by rwa [String.toList_ofList])
    exact ByteArray.ext (Array.toList_inj.mp hbytes)
  · rintro rfl
    exact ⟨s.toList, htext.mpr rfl, String.ofList_toList⟩

lemma decodeLossy_toUTF8 (s : String) : decodeLossy s.toUTF8 = s.toList := by
  have hunits : units s.toUTF8 = s.toList.map some := unitsFrom_eq_iff.mpr (bytes_eq s)
  rw [decodeLossy, hunits, List.map_map]
  exact List.map_id s.toList

end Units

end Routewright.Text.Utf8
