import Mathlib.Logic.Relation
import Routewright.Go.Manifest
import Routewright.Proofs.Text.Pieces

namespace Routewright.Text

section Slashes

variable {c : Char} {s t l : List Char}

lemma beforeSlashes_cons (c : Char) (s : List Char) : beforeSlashes (c :: s) =
    if c = '/' ∧ s.head? = some '/' then [] else c :: beforeSlashes s := by
  cases s with
  | nil => simp [beforeSlashes]
  | cons d r => simp [beforeSlashes]

lemma beforeSlashes_of_not_contains (h : contains ['/', '/'] s = false) : beforeSlashes s = s := by
  induction s with
  | nil => rfl
  | cons c s ih =>
    rw [contains_pair_cons, Bool.or_eq_false_iff] at h
    rw [beforeSlashes_cons, if_neg (by simpa using h.1), ih h.2]

lemma contains_beforeSlashes (s : List Char) : contains ['/', '/'] (beforeSlashes s) = false := by
  induction s with
  | nil => rfl
  | cons c s ih =>
    rw [beforeSlashes_cons]
    split_ifs with hpair
    · rfl
    · rw [contains_pair_cons, ih, Bool.or_false]
      cases s with
      | nil => simp [beforeSlashes]
      | cons d r =>
        rw [beforeSlashes_cons]
        split_ifs with hnext
        · simp
        · simpa using hpair

lemma beforeSlashes_append_left (h : '/' ∉ l) (s : List Char) :
    beforeSlashes (l ++ s) = l ++ beforeSlashes s := by
  induction l with
  | nil => rfl
  | cons c l ih =>
    obtain ⟨hc, hl⟩ := not_or.mp (mt List.mem_cons.mpr h)
    rw [List.cons_append, beforeSlashes_cons, if_neg fun hpair => hc hpair.1.symm, ih hl]
    rfl

lemma beforeSlashes_append_cons (hc : c ≠ '/') (s t : List Char) :
    beforeSlashes (s ++ c :: t) =
      if contains ['/', '/'] s then beforeSlashes s else s ++ c :: beforeSlashes t := by
  induction s with
  | nil => simp [contains, beforeSlashes_cons, hc]
  | cons d s ih =>
    have hhead : (s ++ c :: t).head? = some '/' ↔ s.head? = some '/' := by
      cases s <;> simp [hc]
    rw [List.cons_append, beforeSlashes_cons, ih, beforeSlashes_cons, contains_pair_cons]
    by_cases hpair : d = '/' ∧ s.head? = some '/'
    · simp [hpair]
    · have hnone : (d == '/' && s.head? == some '/') = false := by
        simpa using hpair
      rw [if_neg (mt (And.imp_right hhead.mp) hpair), if_neg hpair, hnone, Bool.false_or]
      split_ifs <;> rfl

end Slashes

end Routewright.Text

namespace Routewright.Go.Manifest

open Text

section Code

variable {c : Char} {s t l gap : List Char}

@[mk_iff]
structure IsGap (gap : List Char) : Prop where
  blank : ∀ c ∈ gap, isBlank c = true
  no_newline : '\n' ∉ gap

instance (gap : List Char) : Decidable (IsGap gap) :=
  decidable_of_iff' _ (isGap_iff gap)

lemma IsGap.no_slash (h : IsGap gap) : '/' ∉ gap := fun hmem =>
  absurd (h.blank '/' hmem) (by decide)

lemma code_of_not_contains (h : contains ['/', '/'] s = false) (htrim : trim s = s) :
    code s = s := by
  rw [code, beforeSlashes_of_not_contains h, htrim]

lemma code_code (s : List Char) : code (code s) = code s := by
  refine code_of_not_contains ?_ (trim_trim _)
  obtain ⟨l, r, -, -, heq⟩ := exists_eq_append_trim (beforeSlashes s)
  have hall := contains_beforeSlashes s
  rw [← Bool.not_eq_true, contains_iff_infix] at hall ⊢
  exact fun hpair => hall (hpair.trans ⟨l, r, heq.symm⟩)

lemma code_gap_append (h : IsGap gap) (s : List Char) : code (gap ++ s) = code s := by
  rw [code, beforeSlashes_append_left h.no_slash, trim_blanks_append h.blank, code]

lemma code_append_blank (hc : isBlank c = true) (s : List Char) : code (s ++ [c]) = code s := by
  have hslash : c ≠ '/' := by
    rintro rfl
    exact absurd hc (by decide)
  rw [code, beforeSlashes_append_cons hslash]
  split_ifs with hpair
  · rfl
  · rw [beforeSlashes, trim_append_blank hc, code,
      beforeSlashes_of_not_contains (Bool.not_eq_true _ ▸ hpair)]

lemma code_append_gap (h : ∀ c ∈ gap, isBlank c = true) (s : List Char) :
    code (s ++ gap) = code s := by
  induction gap using List.reverseRecOn with
  | nil => rw [List.append_nil]
  | append_singleton gap c ih =>
    rw [← List.append_assoc, code_append_blank (h c (by simp)),
      ih fun d hd => h d (List.mem_append_left [c] hd)]

lemma code_append_comment (h : IsGap gap) (hne : gap ≠ []) (s t : List Char) :
    code (s ++ (gap ++ '/' :: '/' :: t)) = code s := by
  obtain ⟨gap, c, rfl⟩ := (List.eq_nil_or_concat' gap).resolve_left hne
  have hc : isBlank c = true := h.blank c (by simp)
  have hslash : c ≠ '/' := by
    rintro rfl
    exact absurd hc (by decide)
  have htext : s ++ (gap ++ [c] ++ '/' :: '/' :: t) = (s ++ gap) ++ c :: '/' :: '/' :: t := by
    simp
  have hcomment : beforeSlashes ('/' :: '/' :: t) = beforeSlashes [] := rfl
  rw [htext, code, beforeSlashes_append_cons hslash, hcomment, ← beforeSlashes_append_cons hslash,
    ← code, code_append_blank hc]
  exact code_append_gap (fun d hd => h.blank d (List.mem_append_left [c] hd)) s

end Code

section Entries

variable {s t l gap before after : List Char}

def entries (text : List Char) : List (List Char) :=
  ((splitOnChar '\n' text).map code).filter (· ≠ [])

@[simp] lemma entries_nil : entries [] = [] :=
  rfl

lemma entries_append (s t : List Char) : entries (s ++ '\n' :: t) = entries s ++ entries t := by
  rw [entries, splitOnChar_append_cons, List.map_append, List.filter_append]
  rfl

lemma entries_intercalate (ls : List (List Char)) :
    entries (['\n'].intercalate ls) = ls.flatMap entries := by
  induction ls with
  | nil => rfl
  | cons l ls ih =>
    cases ls with
    | nil => rw [List.intercalate_singleton, List.flatMap_singleton]
    | cons next ls =>
      rw [List.intercalate_cons_cons, List.append_assoc, List.singleton_append, entries_append, ih]
      rfl

lemma entries_of_line (h : '\n' ∉ l) : entries l = [code l].filter (· ≠ []) := by
  rw [entries, splitOnChar_of_not_mem h]
  rfl

lemma entries_congr (hs : '\n' ∉ s) (ht : '\n' ∉ t) (h : code s = code t) :
    entries s = entries t := by
  rw [entries_of_line hs, entries_of_line ht, h]

lemma code_dropFinalReturn (s : List Char) : code (dropFinalReturn s) = code s := by
  rw [dropFinalReturn]
  split_ifs with hlast
  · obtain ⟨t, rfl⟩ := List.getLast?_eq_some_iff.mp hlast
    rw [List.dropLast_concat, code_append_blank (by decide)]
  · rfl

lemma map_code_linesOfPieces (pieces : List (List Char)) :
    ((linesOfPieces pieces).map code).filter (· ≠ []) = (pieces.map code).filter (· ≠ []) := by
  induction pieces with
  | nil => rfl
  | cons piece rest ih =>
    cases rest with
    | nil =>
      rw [linesOfPieces]
      split_ifs with hempty
      · rw [List.isEmpty_iff.mp hempty]
        rfl
      · rfl
    | cons next rest =>
      rw [linesOfPieces, List.map_cons, List.map_cons, List.filter_cons, List.filter_cons, ih,
        code_dropFinalReturn]
      intro heq
      cases heq

lemma map_code_lines (text : List Char) :
    ((lines text).map code).filter (· ≠ []) = entries text :=
  map_code_linesOfPieces _

lemma code_of_mem_entries (h : s ∈ entries t) : code s = s ∧ s ≠ [] := by
  obtain ⟨hmem, hne⟩ := List.mem_filter.mp h
  obtain ⟨l, -, rfl⟩ := List.mem_map.mp hmem
  exact ⟨code_code l, by simpa using hne⟩

lemma findPath_map_code (inBlock : Bool) (ls : List (List Char)) :
    findPath inBlock ((ls.map code).filter (· ≠ [])) = findPath inBlock ls := by
  induction ls generalizing inBlock with
  | nil => rfl
  | cons l ls ih =>
    rw [List.map_cons, List.filter_cons]
    by_cases hempty : code l = []
    · simp only [hempty, ne_eq, not_true_eq_false, decide_false, Bool.false_eq_true, if_false,
        findPath, List.isEmpty_nil, if_true]
      exact ih inBlock
    · simp only [hempty, ne_eq, not_false_eq_true, decide_true, if_true, findPath, code_code, ih]

lemma modulePathOfText_eq (text : List Char) :
    modulePathOfText text = findPath false (entries text) := by
  rw [modulePathOfText, ← map_code_lines, findPath_map_code]

lemma versionOfLine?_congr (h : code s = code t) : versionOfLine? s = versionOfLine? t := by
  rw [versionOfLine?, versionOfLine?, h]

lemma versionOfText_eq (text : List Char) :
    versionOfText text = (entries text).findSome? versionOfLine? := by
  rw [versionOfText, ← map_code_lines]
  induction lines text with
  | nil => rfl
  | cons l ls ih =>
    rw [List.findSome?_cons, List.map_cons, List.filter_cons]
    by_cases hempty : code l = []
    · have hnone : versionOfLine? l = none := by
        rw [versionOfLine?, hempty]
        rfl
      rw [hnone, ih]
      simp [hempty]
    · simp only [hempty, ne_eq, not_false_eq_true, decide_true, if_true, List.findSome?_cons,
        versionOfLine?_congr (code_code l), ih]

end Entries

section Layout

inductive IsVoid : List Char → Prop
  | blank {gap : List Char} (h : IsGap gap) : IsVoid gap
  | comment {gap t : List Char} (h : IsGap gap) (ht : '\n' ∉ t) : IsVoid (gap ++ '/' :: '/' :: t)

/-- What may be added to the end of a line: blanks, with or without a comment behind them. Right
behind a line that ends in a slash a comment would begin with that slash. -/
inductive IsTail : List Char → Prop
  | blank {gap : List Char} (h : IsGap gap) : IsTail gap
  | comment {gap t : List Char} (h : IsGap gap) (hne : gap ≠ []) (ht : '\n' ∉ t) :
      IsTail (gap ++ '/' :: '/' :: t)

def AtLineStart (before : List Char) : Prop :=
  before = [] ∨ before.getLast? = some '\n'

def AtLineEnd (after : List Char) : Prop :=
  after = [] ∨ after.head? = some '\n' ∨ ['\r', '\n'] <+: after

inductive Relaid : List Char → List Char → Prop
  | lineAbove {before l after : List Char} (h : AtLineStart before) (hl : IsVoid l) :
      Relaid (before ++ after) (before ++ (l ++ '\n' :: after))
  | lineBelow {before l after : List Char} (h : AtLineEnd after) (hl : IsVoid l) :
      Relaid (before ++ after) (before ++ ('\n' :: l ++ after))
  | indent {before gap after : List Char} (h : AtLineStart before) (hgap : IsGap gap) :
      Relaid (before ++ after) (before ++ (gap ++ after))
  | tail {before tail after : List Char} (h : AtLineEnd after) (htail : IsTail tail) :
      Relaid (before ++ after) (before ++ (tail ++ after))
  | lineEnd {before after : List Char} :
      Relaid (before ++ '\n' :: after) (before ++ '\r' :: '\n' :: after)

variable {s t l gap tail before after : List Char}

lemma IsVoid.no_newline (h : IsVoid l) : '\n' ∉ l := by
  cases h with
  | blank h => exact h.no_newline
  | comment h ht => simp [h.no_newline, ht]

lemma IsVoid.entries_eq (h : IsVoid l) : entries l = [] := by
  have hcode : code l = [] := by
    cases h with
    | blank h => rw [← List.append_nil l, code_gap_append h]; rfl
    | comment h ht => rw [code_gap_append h]; rfl
  rw [entries_of_line h.no_newline, hcode]
  rfl

lemma IsTail.no_newline (h : IsTail tail) : '\n' ∉ tail := by
  cases h with
  | blank h => exact h.no_newline
  | comment h hne ht => simp [h.no_newline, ht]

lemma IsTail.code_append (h : IsTail tail) (s : List Char) : code (s ++ tail) = code s := by
  cases h with
  | blank h => exact code_append_gap h.blank s
  | comment h hne ht => exact code_append_comment h hne s _

lemma exists_first_line (s : List Char) :
    '\n' ∉ s ∨ ∃ l r, s = l ++ '\n' :: r ∧ '\n' ∉ l := by
  by_cases h : '\n' ∈ s
  · exact .inr (List.eq_append_cons_of_mem h)
  · exact .inl h

lemma exists_last_line (s : List Char) :
    '\n' ∉ s ∨ ∃ b l, s = b ++ '\n' :: l ∧ '\n' ∉ l := by
  induction s using List.reverseRecOn with
  | nil => exact .inl List.not_mem_nil
  | append_singleton s c ih =>
    by_cases hc : '\n' = c
    · exact .inr ⟨s, [], by rw [hc], List.not_mem_nil⟩
    · rcases ih with h | ⟨b, l, rfl, hl⟩
      · exact .inl (by simp [h, hc])
      · exact .inr ⟨b, l ++ [c], by simp, by simp [hl, hc]⟩

lemma entries_gap_append (h : IsGap gap) (s : List Char) : entries (gap ++ s) = entries s := by
  have hline : ∀ l, '\n' ∉ l → entries (gap ++ l) = entries l := fun l hl =>
    entries_congr (by simp [h.no_newline, hl]) hl (code_gap_append h l)
  rcases exists_first_line s with hs | ⟨l, r, rfl, hl⟩
  · exact hline s hs
  · rw [← List.append_assoc, entries_append, entries_append, hline l hl]

lemma entries_append_tail (h : IsTail tail) (s : List Char) : entries (s ++ tail) = entries s := by
  have hline : ∀ l, '\n' ∉ l → entries (l ++ tail) = entries l := fun l hl =>
    entries_congr (by simp [h.no_newline, hl]) hl (h.code_append l)
  rcases exists_last_line s with hs | ⟨b, l, rfl, hl⟩
  · exact hline s hs
  · rw [List.append_assoc, List.cons_append, entries_append, entries_append, hline l hl]

lemma AtLineStart.entries_append (h : AtLineStart before) (s : List Char) :
    entries (before ++ s) = entries before ++ entries s := by
  rcases h with rfl | h
  · rfl
  · obtain ⟨b, rfl⟩ := List.getLast?_eq_some_iff.mp h
    rw [List.append_assoc, List.singleton_append, Manifest.entries_append, Manifest.entries_append,
      entries_nil, List.append_nil]

lemma isGap_return : IsGap ['\r'] := by
  decide

lemma AtLineEnd.entries_append (h : AtLineEnd after) (s : List Char) :
    entries (s ++ after) = entries s ++ entries after := by
  have hcut : ∀ s r, entries (s ++ '\n' :: r) = entries s ++ entries ('\n' :: r) := fun s r => by
    rw [Manifest.entries_append]
    exact congrArg (entries s ++ ·) (Manifest.entries_append [] r).symm
  rcases h with rfl | h | ⟨r, rfl⟩
  · rw [List.append_nil, entries_nil, List.append_nil]
  · obtain ⟨r, rfl⟩ := List.head?_eq_some_iff.mp h
    exact hcut s r
  · have htext : s ++ (['\r', '\n'] ++ r) = (s ++ ['\r']) ++ '\n' :: r := by
      simp
    rw [htext, hcut, entries_append_tail (.blank isGap_return)]
    exact congrArg (entries s ++ ·) (entries_gap_append isGap_return ('\n' :: r)).symm

lemma entries_eq_of_relaid (h : Relaid s t) : entries t = entries s := by
  cases h with
  | lineAbove h hl =>
    rw [h.entries_append, h.entries_append, entries_append, hl.entries_eq, List.nil_append]
  | lineBelow h hl =>
    rw [h.entries_append, List.cons_append, entries_append, h.entries_append, hl.entries_eq,
      List.nil_append]
  | indent h hgap => rw [h.entries_append, h.entries_append, entries_gap_append hgap]
  | tail h htail =>
    rw [← List.append_assoc, h.entries_append, h.entries_append, entries_append_tail htail]
  | @lineEnd before after =>
    have hend : AtLineEnd ('\r' :: '\n' :: after) := .inr (.inr ⟨after, rfl⟩)
    rw [hend.entries_append, entries_append]
    exact congrArg (entries before ++ ·) (entries_gap_append isGap_return ('\n' :: after))

lemma entries_eq_of_layout (h : Relation.ReflTransGen Relaid s t) : entries t = entries s := by
  induction h with
  | refl => rfl
  | tail _ hstep ih => rw [entries_eq_of_relaid hstep, ih]

end Layout

end Routewright.Go.Manifest
