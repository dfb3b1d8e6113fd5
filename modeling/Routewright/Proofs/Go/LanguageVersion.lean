import Routewright.Proofs.Go.ManifestLines
import Routewright.Proofs.Text.Ascii
import Routewright.Proofs.Text.Digits
import Routewright.Proofs.Text.Utf8

namespace Routewright.Go.Manifest

open Text

variable {major minor n : ℕ} {l s t w behind : List Char} {p : Char → Bool}

def goKeyword : List Char :=
  ['g', 'o']

def versionText (major minor : ℕ) : List Char :=
  Nat.toDigits 10 major ++ '.' :: Nat.toDigits 10 minor

/-- The lines that ask for a language version. Behind its numbers may stand a suffix, blanks, more
words and a comment: anything on the line that does not go on with digits. -/
inductive Asks (major minor : ℕ) : List Char → Prop
  | line {indent gap behind : List Char} (hindent : IsGap indent) (hgap : IsGap gap) (hne : gap ≠ [])
      (hline : '\n' ∉ behind) (hdigit : ∀ c, behind.head? = some c → c.isDigit = false) :
      Asks major minor (indent ++ (goKeyword ++ (gap ++ (versionText major minor ++ behind))))

def IsForeign (l : List Char) : Prop :=
  (words (code l)).head? ≠ some goKeyword

instance (l : List Char) : Decidable (IsForeign l) :=
  inferInstanceAs (Decidable (_ ≠ _))

section Numbers

lemma takeWhile_append_of_head (hs : ∀ c ∈ s, p c = true)
    (ht : ∀ c, t.head? = some c → p c = false) : (s ++ t).takeWhile p = s := by
  cases t with
  | nil => rw [List.append_nil, List.takeWhile_eq_self_iff.mpr hs]
  | cons c t => exact takeWhile_append_cons c hs (ht c rfl) t

lemma isDigit_of_mem_toDigits {c : Char} (h : c ∈ Nat.toDigits 10 n) : c.isDigit = true :=
  Nat.isDigit_of_mem_toDigits (by decide) (by decide) h

lemma boundedDecimal?_toDigits {bound : ℕ} (h : n < bound) :
    boundedDecimal? bound (Nat.toDigits 10 n) = some n :=
  boundedDecimal?_eq_some_iff.mpr ⟨h, [], [], .inl rfl, by simp, rfl⟩

lemma versionOfWord?_append (hmajor : major < numberBound) (hminor : minor < numberBound)
    (h : ∀ c, behind.head? = some c → c.isDigit = false) :
    versionOfWord? (versionText major minor ++ behind) = some ⟨major, minor⟩ := by
  have htext : versionText major minor ++ behind =
      Nat.toDigits 10 major ++ '.' :: (Nat.toDigits 10 minor ++ behind) := by
    simp [versionText]
  have hpoint : ∀ c ∈ Nat.toDigits 10 major, decide (c ≠ '.') = true := fun c hc => by
    refine decide_eq_true ?_
    rintro rfl
    exact absurd (isDigit_of_mem_toDigits hc) (by decide)
  have hdigits : (Nat.toDigits 10 minor ++ behind).takeWhile Char.isDigit = Nat.toDigits 10 minor :=
    takeWhile_append_of_head (fun c hc => isDigit_of_mem_toDigits hc) h
  rw [versionOfWord?, htext, dropWhile_append_cons '.' hpoint (by decide),
    takeWhile_append_cons '.' hpoint (by decide)]
  simp only [hdigits, boundedDecimal?_toDigits hmajor, boundedDecimal?_toDigits hminor]

end Numbers

section Lines

lemma not_isBlank_of_isDigit {c : Char} (h : c.isDigit = true) : isBlank c = false := by
  have hrange : 48 ≤ c.toNat ∧ c.toNat ≤ 57 := by
    simpa [Char.isDigit, UInt32.le_iff_toNat_le] using h
  have hascii : c.toNat < 128 := by
    omega
  exact ascii_cases (P := fun d => d.isDigit = true → isBlank d = false) c hascii (by decide) h

lemma isField_versionText (major minor : ℕ) : IsField (versionText major minor) := by
  refine ⟨by simp [versionText], List.forall_mem_append.mpr ⟨fun c hc => ?_, ?_⟩⟩
  · exact not_isBlank_of_isDigit (isDigit_of_mem_toDigits hc)
  · exact List.forall_mem_cons.mpr
      ⟨by decide, fun c hc => not_isBlank_of_isDigit (isDigit_of_mem_toDigits hc)⟩

lemma head?_beforeSlashes {c : Char} (h : (beforeSlashes s).head? = some c) : s.head? = some c := by
  cases s with
  | nil => exact h
  | cons d s =>
    rw [beforeSlashes_cons] at h
    split_ifs at h
    · cases h
    · exact h

lemma head?_takeWhile {c : Char} (h : (s.takeWhile p).head? = some c) : s.head? = some c := by
  cases s with
  | nil => exact h
  | cons d s =>
    rw [List.takeWhile_cons] at h
    split_ifs at h
    · exact h
    · cases h

lemma slash_not_mem_versionText (major minor : ℕ) : '/' ∉ versionText major minor := by
  intro hmem
  rcases List.mem_append.mp hmem with hmem | hmem
  · exact absurd (isDigit_of_mem_toDigits hmem) (by decide)
  · rcases List.mem_cons.mp hmem with heq | hmem
    · exact absurd heq (by decide)
    · exact absurd (isDigit_of_mem_toDigits hmem) (by decide)

lemma Asks.no_newline (h : Asks major minor l) : '\n' ∉ l := by
  cases h with
  | line hindent hgap _ hline _ =>
    have hversion : '\n' ∉ versionText major minor := fun hmem =>
      absurd ((isField_versionText major minor).not_blank _ hmem) (by decide)
    simp [goKeyword, hindent.no_newline, hgap.no_newline, hversion, hline]

lemma Asks.versionOfLine?_eq (h : Asks major minor l) (hmajor : major < numberBound)
    (hminor : minor < numberBound) : versionOfLine? l = some ⟨major, minor⟩ := by
  cases h with
  | @line indent gap behind hindent hgap hne hline hdigit =>
    obtain ⟨c, gap, rfl⟩ := List.exists_cons_of_ne_nil hne
    have hc := hgap.blank c List.mem_cons_self
    have hkeyword : IsField goKeyword := by
      decide
    have hbefore : beforeSlashes (goKeyword ++ (c :: gap ++ (versionText major minor ++ behind))) =
        goKeyword ++ c :: (gap ++ (versionText major minor ++ beforeSlashes behind)) := by
      rw [beforeSlashes_append_left (by decide), beforeSlashes_append_left hgap.no_slash,
        beforeSlashes_append_left (slash_not_mem_versionText major minor)]
      rfl
    have hwords : words (code (indent ++
        (goKeyword ++ (c :: gap ++ (versionText major minor ++ behind))))) =
        goKeyword :: (versionText major minor ++ (beforeSlashes behind).takeWhile (!isBlank ·)) ::
          words ((beforeSlashes behind).dropWhile (!isBlank ·)) := by
      rw [code_gap_append hindent, code, words_trim, hbefore, words_append_cons hc,
        hkeyword.words_self, words_blanks_append fun d hd => hgap.blank d (List.mem_cons_of_mem c hd),
        (isField_versionText major minor).words_append_text]
      rfl
    simp only [versionOfLine?, hwords]
    exact versionOfWord?_append hmajor hminor fun d hd =>
      hdigit d (head?_beforeSlashes (head?_takeWhile hd))

lemma IsForeign.versionOfLine?_eq (h : IsForeign l) : versionOfLine? l = none := by
  rw [versionOfLine?]
  split
  · rename_i keyword version rest hwords
    have hkeyword : keyword ≠ "go".toList := by
      rintro rfl
      exact h (by rw [hwords]; rfl)
    rw [if_neg hkeyword]
  · rfl

end Lines

section Reading

variable {earlier : List (List Char)} {later : List Char}

lemma findSome?_entries (h : '\n' ∉ l) : (entries l).findSome? versionOfLine? = versionOfLine? l := by
  rw [entries_of_line h]
  by_cases hempty : code l = []
  · simp only [versionOfLine?, hempty]
    rfl
  · simp [hempty, versionOfLine?_congr (code_code l)]

lemma versionOfText_of_asks (hearlier : ∀ l ∈ earlier, '\n' ∉ l ∧ IsForeign l)
    (hl : Asks major minor l) (hmajor : major < numberBound) (hminor : minor < numberBound)
    (hlater : AtLineEnd later) :
    versionOfText (['\n'].intercalate (earlier ++ [l]) ++ later) = some ⟨major, minor⟩ := by
  have hnone : (earlier.flatMap entries).findSome? versionOfLine? = none := by
    refine List.findSome?_eq_none_iff.mpr fun e he => ?_
    obtain ⟨l, hl, he⟩ := List.mem_flatMap.mp he
    rw [entries_of_line (hearlier l hl).1] at he
    obtain rfl := List.mem_singleton.mp (List.mem_filter.mp he).1
    rw [versionOfLine?_congr (code_code l), (hearlier l hl).2.versionOfLine?_eq]
  rw [versionOfText_eq, hlater.entries_append, entries_intercalate, List.flatMap_append,
    List.flatMap_singleton, List.findSome?_append, List.findSome?_append, hnone,
    findSome?_entries hl.no_newline, hl.versionOfLine?_eq hmajor hminor]
  rfl

end Reading

end Routewright.Go.Manifest
