import Mathlib.Data.List.Induction
import Mathlib.Data.Nat.Notation
import Mathlib.Tactic.IntervalCases
import Mathlib.Tactic.SplitIfs
import Routewright.Text.Digits

namespace Routewright.Text

variable {c : Char} {d n : ℕ} {s t : List Char}

lemma digitValue?_digitChar (h : d < 10) : digitValue? 10 (Nat.digitChar d) = some d := by
  interval_cases d <;> decide

lemma eq_digitChar_of_digitValue? (h : digitValue? 10 c = some d) :
    d < 10 ∧ c = Nat.digitChar d := by
  by_cases hdigit : '0' ≤ c ∧ c ≤ '9'
  · have hlow : 48 ≤ c.toNat := hdigit.1
    simp only [digitValue?, if_pos hdigit] at h
    split_ifs at h with hlt
    obtain rfl := Option.some.inj h
    refine ⟨hlt, Char.toNat_inj.mp ?_⟩
    rw [Nat.toNat_digitChar_of_lt_ten hlt]
    exact (Nat.add_sub_of_le hlow).symm
  · simp only [digitValue?, if_neg hdigit] at h
    split_ifs at h <;> omega

lemma digitsValueFrom_append (base acc : ℕ) (s t : List Char) :
    digitsValueFrom base acc (s ++ t) =
      (digitsValueFrom base acc s).bind fun v => digitsValueFrom base v t := by
  induction s generalizing acc with
  | nil => rfl
  | cons c s ih =>
    rw [List.cons_append, digitsValueFrom, digitsValueFrom, Option.bind_assoc]
    exact congrArg _ (funext fun v => ih (acc * base + v))

lemma digitsValueFrom_zeros (hs : ∀ c ∈ s, c = '0') : digitsValueFrom 10 0 s = some 0 := by
  induction s with
  | nil => rfl
  | cons c s ih =>
    obtain ⟨rfl, hrest⟩ := List.forall_mem_cons.mp hs
    exact ih hrest

lemma digitsValueFrom_toDigits (n : ℕ) : digitsValueFrom 10 0 (Nat.toDigits 10 n) = some n := by
  induction n using Nat.strongRecOn with
  | ind n ih =>
    have hlast : digitsValueFrom 10 (n / 10) [Nat.digitChar (n % 10)] = some n := by
      rw [digitsValueFrom, digitValue?_digitChar (Nat.mod_lt n (by decide)), Option.bind_some,
        digitsValueFrom, Nat.mul_comm, Nat.div_add_mod]
    by_cases hlt : n < 10
    · rwa [Nat.div_eq_of_lt hlt, Nat.mod_eq_of_lt hlt, ← Nat.toDigits_of_lt_base hlt] at hlast
    · rw [Nat.toDigits_of_base_le (by decide) (Nat.le_of_not_lt hlt), digitsValueFrom_append,
        ih _ (by omega), Option.bind_some, hlast]

lemma exists_zeros_of_digits (hs : s ≠ []) (h : digitsValueFrom 10 0 s = some n) :
    ∃ zeros, (∀ c ∈ zeros, c = '0') ∧ s = zeros ++ Nat.toDigits 10 n := by
  induction s using List.reverseRecOn generalizing n with
  | nil => exact absurd rfl hs
  | append_singleton s c ih =>
    rw [digitsValueFrom_append] at h
    obtain ⟨v, hv, hlast⟩ := Option.bind_eq_some_iff.mp h
    obtain ⟨d, hd, hn⟩ := Option.bind_eq_some_iff.mp hlast
    obtain ⟨hlt, rfl⟩ := eq_digitChar_of_digitValue? hd
    obtain rfl : v * 10 + d = n := Option.some.inj hn
    have hone : [Nat.digitChar d] = Nat.toDigits 10 d := (Nat.toDigits_of_lt_base hlt).symm
    by_cases hempty : s = []
    · subst hempty
      obtain rfl : 0 = v := Option.some.inj hv
      exact ⟨[], by simp, by rw [hone, Nat.zero_mul, Nat.zero_add]⟩
    · obtain ⟨zeros, hzeros, rfl⟩ := ih hempty hv
      -- A number above zero keeps its digits in front of the next one; zero becomes a leading zero.
      rcases Nat.eq_zero_or_pos v with rfl | hpos
      · refine ⟨zeros ++ ['0'], List.forall_mem_append.mpr ⟨hzeros, by simp⟩, ?_⟩
        rw [hone, Nat.zero_mul, Nat.zero_add]
        rfl
      · refine ⟨zeros, hzeros, ?_⟩
        rw [hone, List.append_assoc, Nat.toDigits_append_toDigits (by decide) hpos hlt,
          Nat.mul_comm]

/-- Whether a text is a number in decimal digits, with zeros and a plus sign in front of them
or not. -/
def Spells (s : List Char) (n : ℕ) : Prop :=
  ∃ sign zeros, (sign = [] ∨ sign = ['+']) ∧ (∀ c ∈ zeros, c = '0') ∧
    s = sign ++ zeros ++ Nat.toDigits 10 n

lemma digitsValue?_eq_some_iff : digitsValue? 10 s = some n ↔
    ∃ zeros, (∀ c ∈ zeros, c = '0') ∧ s = zeros ++ Nat.toDigits 10 n := by
  constructor
  · intro h
    rw [digitsValue?] at h
    split_ifs at h with hempty
    exact exists_zeros_of_digits (by simpa using hempty) h
  · rintro ⟨zeros, hzeros, rfl⟩
    rw [digitsValue?, if_neg (by simp), digitsValueFrom_append,
      digitsValueFrom_zeros hzeros, Option.bind_some, digitsValueFrom_toDigits]

lemma plus_not_mem (hs : ∀ c ∈ s, c = '0') (n : ℕ) : '+' ∉ s ++ Nat.toDigits 10 n := by
  intro hmem
  rcases List.mem_append.mp hmem with hzero | hdigit
  · exact absurd (hs _ hzero) (by decide)
  · exact absurd (Nat.isDigit_of_mem_toDigits (by decide) (by decide) hdigit) (by decide)

lemma boundedDecimal?_eq_some_iff {bound : ℕ} :
    boundedDecimal? bound s = some n ↔ n < bound ∧ Spells s n := by
  unfold boundedDecimal?
  dsimp only
  rw [Option.filter_eq_some_iff, decide_eq_true_iff, and_comm]
  refine and_congr_right fun _ => ?_
  split
  · rename_i r
    rw [digitsValue?_eq_some_iff]
    constructor
    · rintro ⟨zeros, hzeros, rfl⟩
      exact ⟨['+'], zeros, .inr rfl, hzeros, rfl⟩
    · rintro ⟨sign, zeros, rfl | rfl, hzeros, htext⟩
      · rw [List.nil_append] at htext
        exact absurd (htext ▸ List.mem_cons_self) (plus_not_mem hzeros n)
      · exact ⟨zeros, hzeros, (List.cons.inj htext).2⟩
  · rename_i hplus
    rw [digitsValue?_eq_some_iff]
    constructor
    · rintro ⟨zeros, hzeros, rfl⟩
      exact ⟨[], zeros, .inl rfl, hzeros, rfl⟩
    · rintro ⟨sign, zeros, rfl | rfl, hzeros, rfl⟩
      · exact ⟨zeros, hzeros, rfl⟩
      · exact absurd rfl (hplus _)

end Routewright.Text
