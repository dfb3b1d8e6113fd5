import Mathlib.Data.List.DropRight
import Mathlib.Data.List.Induction
import Mathlib.Data.List.TakeWhile
import Mathlib.Tactic.MkIffOfInductiveProp
import Routewright.Proofs.Files.Path
import Routewright.Text.Letters

namespace Routewright.Text

-- Among the instances of a whole library, the one for all characters would be found instead.
instance decidableForallMem (p : Char → Prop) [DecidablePred p] (s : List Char) : Decidable (∀ c ∈ s, p c) :=
  List.decidableBAll p s

section Ends

variable {p : Char → Bool} {s : List Char}

lemma length_dropEndWhile_le (p : Char → Bool) (s : List Char) :
    (dropEndWhile p s).length ≤ s.length := by
  induction s using List.reverseRecOn with
  | nil => rfl
  | append_singleton s c ih =>
    rw [dropEndWhile_append_singleton]
    split_ifs
    · rw [List.length_append]
      omega
    · rfl

lemma dropEndWhile_eq_self_iff :
    dropEndWhile p s = s ↔ ∀ c, s.getLast? = some c → p c = false := by
  induction s using List.reverseRecOn with
  | nil => simp [dropEndWhile]
  | append_singleton s c _ =>
    rw [dropEndWhile_append_singleton]
    by_cases hc : p c = true
    · have hle := length_dropEndWhile_le p s
      have hne : dropEndWhile p s ≠ s ++ [c] := fun h => by
        rw [h, List.length_append, List.length_singleton] at hle
        omega
      simp [hc, hne]
    · simp [hc]

lemma dropWhile_eq_self_iff_head :
    s.dropWhile p = s ↔ ∀ c, s.head? = some c → p c = false := by
  cases s with
  | nil => simp
  | cons c r =>
    by_cases hc : p c = true
    · have hle := (List.dropWhile_sublist p (l := r)).length_le
      have hne : r.dropWhile p ≠ c :: r := fun h => by
        rw [h, List.length_cons] at hle
        omega
      simp [hc, hne]
    · simp [hc]

lemma trim_eq_self_iff :
    trim s = s ↔ (∀ c, s.head? = some c → isBlank c = false) ∧
      ∀ c, s.getLast? = some c → isBlank c = false := by
  constructor
  · intro h
    have hstart : trimStart s = s := by
      have hle := length_dropEndWhile_le isBlank (trimStart s)
      have hsuffix : trimStart s <:+ s := List.dropWhile_suffix isBlank
      refine hsuffix.eq_of_length (Nat.le_antisymm hsuffix.length_le ?_)
      rw [← congrArg List.length h]
      exact hle
    refine ⟨dropWhile_eq_self_iff_head.mp hstart, dropEndWhile_eq_self_iff.mp ?_⟩
    rwa [trim, hstart] at h
  · rintro ⟨hhead, hlast⟩
    rw [trim, trimStart, dropWhile_eq_self_iff_head.mpr hhead]
    exact dropEndWhile_eq_self_iff.mpr hlast

lemma trimStart_of_trim_eq (h : trim s = s) : trimStart s = s :=
  dropWhile_eq_self_iff_head.mpr (trim_eq_self_iff.mp h).1

lemma trim_eq_self_of_not_blank (h : ∀ c ∈ s, isBlank c = false) : trim s = s :=
  trim_eq_self_iff.mpr
    ⟨fun c hc => h c (List.mem_of_head? hc), fun c hc => h c (List.mem_of_getLast? hc)⟩

lemma trim_between {t : List Char} (hs : trim s = s) (hsne : s ≠ []) (ht : trim t = t)
    (htne : t ≠ []) (r : List Char) : trim (s ++ r ++ t) = s ++ r ++ t := by
  refine trim_eq_self_iff.mpr ⟨fun c hc => ?_, fun c hc => ?_⟩
  · rw [List.append_assoc, List.head?_append_of_ne_nil _ hsne] at hc
    exact (trim_eq_self_iff.mp hs).1 c hc
  · rw [List.getLast?_append_of_ne_nil _ htne] at hc
    exact (trim_eq_self_iff.mp ht).2 c hc

lemma trim_intercalate (sep : List Char) {items : List (List Char)} (hne : ∀ x ∈ items, x ≠ [])
    (h : ∀ x ∈ items, trim x = x) : trim (sep.intercalate items) = sep.intercalate items := by
  induction items with
  | nil => rfl
  | cons x items ih =>
    obtain ⟨hxne, hne⟩ := List.forall_mem_cons.mp hne
    obtain ⟨hx, h⟩ := List.forall_mem_cons.mp h
    cases items with
    | nil => rw [List.intercalate_singleton, hx]
    | cons y rest =>
      rw [List.intercalate_cons_cons]
      refine trim_between hx hxne (ih hne h) ?_ sep
      cases rest <;> simp [List.intercalate_cons_cons, hne y]

lemma trim_cons_blank {c : Char} (hc : isBlank c = true) (s : List Char) :
    trim (c :: s) = trim s := by
  rw [trim, trim, trimStart, List.dropWhile_cons_of_pos hc]
  rfl

lemma trimStart_append_cons {c : Char} (hc : isBlank c = false) (s t : List Char) :
    trimStart (s ++ c :: t) = trimStart s ++ c :: t := by
  rw [trimStart, trimStart, List.dropWhile_append]
  split_ifs with hs
  · rw [List.isEmpty_iff.mp hs, List.dropWhile_cons_of_neg (by simp [hc])]
    rfl
  · rfl

lemma trimStart_blanks_append {gap : List Char} (hgap : ∀ c ∈ gap, isBlank c = true)
    (s : List Char) : trimStart (gap ++ s) = trimStart s :=
  List.dropWhile_append_of_pos hgap

lemma trimStart_of_blanks (h : ∀ c ∈ s, isBlank c = true) : trimStart s = [] :=
  List.dropWhile_eq_nil_iff.mpr h

lemma blanks_of_trimStart (h : trimStart s = []) : ∀ c ∈ s, isBlank c = true :=
  List.dropWhile_eq_nil_iff.mp h

lemma trimStart_trimStart (s : List Char) : trimStart (trimStart s) = trimStart s :=
  List.dropWhile_idempotent _ _

lemma trim_trimStart (s : List Char) : trim (trimStart s) = trim s := by
  rw [trim, trim, trimStart_trimStart]

lemma dropEndWhile_eq_rdropWhile (p : Char → Bool) (s : List Char) :
    dropEndWhile p s = s.rdropWhile p := by
  induction s using List.reverseRecOn with
  | nil => rfl
  | append_singleton s c ih => rw [dropEndWhile_append_singleton, List.rdropWhile_concat, ih]

lemma trim_trim (s : List Char) : trim (trim s) = trim s := by
  obtain ⟨t, ht⟩ : trim s <+: trimStart s := by
    rw [trim, trimEnd, dropEndWhile_eq_rdropWhile]
    exact List.rdropWhile_prefix isBlank _
  refine trim_eq_self_iff.mpr ⟨fun c hc => ?_, dropEndWhile_eq_self_iff.mp ?_⟩
  · refine dropWhile_eq_self_iff_head.mp (trimStart_trimStart s) c ?_
    rw [← ht, List.head?_append, hc]
    rfl
  · rw [trim, trimEnd, dropEndWhile_eq_rdropWhile, dropEndWhile_eq_rdropWhile]
    exact List.rdropWhile_idempotent isBlank _

lemma trim_append_blank {c : Char} (hc : isBlank c = true) (s : List Char) :
    trim (s ++ [c]) = trim s := by
  rw [trim, trim, trimStart, trimStart, List.dropWhile_append]
  split_ifs with hs
  · rw [List.isEmpty_iff.mp hs, List.dropWhile_cons_of_pos hc]
    rfl
  · rw [trimEnd, dropEndWhile_append_singleton, if_pos hc]
    rfl

lemma trim_blanks_append {l : List Char} (hl : ∀ c ∈ l, isBlank c = true) (s : List Char) :
    trim (l ++ s) = trim s := by
  induction l with
  | nil => rfl
  | cons c l ih =>
    rw [List.cons_append, trim_cons_blank (hl c List.mem_cons_self),
      ih fun d hd => hl d (List.mem_cons_of_mem c hd)]

lemma trim_append_blanks {r : List Char} (hr : ∀ c ∈ r, isBlank c = true) (s : List Char) :
    trim (s ++ r) = trim s := by
  induction r using List.reverseRecOn with
  | nil => rw [List.append_nil]
  | append_singleton r c ih =>
    rw [← List.append_assoc, trim_append_blank (hr c (by simp)),
      ih fun d hd => hr d (List.mem_append_left [c] hd)]

lemma exists_eq_append_trim (s : List Char) :
    ∃ l r, (∀ c ∈ l, isBlank c = true) ∧ (∀ c ∈ r, isBlank c = true) ∧ s = l ++ trim s ++ r := by
  have hend : ∀ t : List Char, ∃ r, (∀ c ∈ r, isBlank c = true) ∧ t = trimEnd t ++ r := by
    intro t
    induction t using List.reverseRecOn with
    | nil => exact ⟨[], by simp, rfl⟩
    | append_singleton t c ih =>
      obtain ⟨r, hr, ht⟩ := ih
      rw [trimEnd, dropEndWhile_append_singleton]
      split_ifs with hc
      · refine ⟨r ++ [c], fun d hd => ?_, ?_⟩
        · rcases List.mem_append.mp hd with hd | hd
          · exact hr d hd
          · rwa [List.mem_singleton.mp hd]
        · rw [← List.append_assoc]
          exact congrArg (· ++ [c]) ht
      · exact ⟨[], by simp, by simp⟩
  obtain ⟨r, hr, htrim⟩ := hend (trimStart s)
  refine ⟨s.takeWhile isBlank, r, fun c hc => List.mem_takeWhile_imp hc, hr, ?_⟩
  rw [trim, List.append_assoc, ← htrim, trimStart, List.takeWhile_append_dropWhile]

lemma trim_eq_nil_iff : trim s = [] ↔ ∀ c ∈ s, isBlank c = true := by
  constructor
  · intro h
    obtain ⟨l, r, hl, hr, heq⟩ := exists_eq_append_trim s
    rw [heq, h, List.append_nil]
    exact List.forall_mem_append.mpr ⟨hl, hr⟩
  · intro h
    rw [trim, trimStart_of_blanks h]
    rfl

lemma trimEnd_append (hs : ∀ c, s.getLast? = some c → isBlank c = false) (t : List Char) :
    trimEnd (s ++ t) = s ++ trimEnd t := by
  induction t using List.reverseRecOn with
  | nil => simpa [trimEnd, dropEndWhile] using dropEndWhile_eq_self_iff.mpr hs
  | append_singleton t c ih =>
    rw [trimEnd, trimEnd, ← List.append_assoc, dropEndWhile_append_singleton,
      dropEndWhile_append_singleton]
    split_ifs
    · exact ih
    · rw [List.append_assoc]

end Ends

section Words

variable {w r : List Char}

@[mk_iff]
structure IsField (w : List Char) : Prop where
  ne_nil : w ≠ []
  not_blank : ∀ c ∈ w, isBlank c = false

instance (w : List Char) : Decidable (IsField w) :=
  decidable_of_iff' _ (isField_iff w)

lemma IsField.trim_eq (h : IsField w) : trim w = w :=
  trim_eq_self_of_not_blank h.not_blank

lemma IsField.trim_append (h : IsField w) (hr : trim r = r) (hne : r ≠ []) :
    trim (w ++ ' ' :: r) = w ++ ' ' :: r := by
  have hbetween := trim_between h.trim_eq h.ne_nil hr hne [' ']
  rwa [List.append_assoc] at hbetween

lemma takeWhile_append_cons {p : Char → Bool} (c : Char) (hw : ∀ d ∈ w, p d = true)
    (hc : p c = false) (r : List Char) : (w ++ c :: r).takeWhile p = w := by
  rw [List.takeWhile_append_of_pos hw, List.takeWhile_cons_of_neg (by simp [hc]), List.append_nil]

lemma dropWhile_append_cons {p : Char → Bool} (c : Char) (hw : ∀ d ∈ w, p d = true)
    (hc : p c = false) (r : List Char) : (w ++ c :: r).dropWhile p = c :: r := by
  rw [List.dropWhile_append_of_pos hw, List.dropWhile_cons_of_neg (by simp [hc])]

lemma IsField.takeWhile_space (h : IsField w) (r : List Char) :
    (w ++ ' ' :: r).takeWhile (!isBlank ·) = w :=
  takeWhile_append_cons ' ' (fun c hc => by rw [h.not_blank c hc]; rfl) (by decide) r

lemma IsField.dropWhile_space (h : IsField w) (r : List Char) :
    (w ++ ' ' :: r).dropWhile (!isBlank ·) = ' ' :: r :=
  dropWhile_append_cons ' ' (fun c hc => by rw [h.not_blank c hc]; rfl) (by decide) r

lemma fields_blanks_append {l : List Char} (hl : ∀ c ∈ l, isBlank c = true) (n : ℕ)
    (s : List Char) : fields n (l ++ s) = fields n s := by
  rw [fields, trimStart_blanks_append hl, fields]

lemma fields_of_blanks {s : List Char} (hs : ∀ c ∈ s, isBlank c = true) (n : ℕ) :
    fields n s = [] := by
  rw [fields, trimStart_of_blanks hs, fieldsFrom]

lemma fields_one (s : List Char) : fields 1 s = if trim s = [] then [] else [trim s] := by
  split_ifs with hs
  · exact fields_of_blanks (trim_eq_nil_iff.mp hs) 1
  · cases hstart : trimStart s with
    | nil => exact absurd (trim_eq_nil_iff.mpr (blanks_of_trimStart hstart)) hs
    | cons c t => rw [fields, hstart, fieldsFrom, if_pos rfl, trim, hstart]

lemma fields_cons {c : Char} (hc : isBlank c = false) (s : List Char) {n : ℕ} (hn : n ≠ 1) :
    fields n (c :: s) = (c :: s).takeWhile (!isBlank ·) ::
      fields (n - 1) ((c :: s).dropWhile (!isBlank ·)) := by
  rw [fields, trimStart, List.dropWhile_cons_of_neg (by simp [hc]), fieldsFrom, if_neg hn,
    dif_neg (by simp [hc])]
  rfl

lemma IsField.fields_append (h : IsField w) (hr : ∀ c, r.head? = some c → isBlank c = true)
    {n : ℕ} (hn : n ≠ 1) : fields n (w ++ r) = w :: fields (n - 1) r := by
  have hnot : ∀ d ∈ w, (!isBlank d) = true := fun d hd => by
    rw [h.not_blank d hd]
    rfl
  have hrest : (w ++ r).dropWhile (!isBlank ·) = r := by
    rw [List.dropWhile_append_of_pos hnot]
    exact dropWhile_eq_self_iff_head.mpr fun c hc => by
      rw [hr c hc]
      rfl
  have hword : (w ++ r).takeWhile (!isBlank ·) = w := by
    have htext := List.takeWhile_append_dropWhile (p := (!isBlank ·)) (l := w ++ r)
    rw [hrest] at htext
    exact List.append_cancel_right htext
  obtain ⟨c, t, rfl⟩ := List.exists_cons_of_ne_nil h.ne_nil
  rw [List.cons_append] at hrest hword ⊢
  rw [fields_cons (h.not_blank c List.mem_cons_self) _ hn, hrest, hword]

lemma IsField.fields_two_append (h : IsField w) (r : List Char) :
    fields 2 (w ++ ' ' :: r) = if trimStart r = [] then [w] else [w, trim r] := by
  have hnil : trim r = [] ↔ trimStart r = [] :=
    trim_eq_nil_iff.trans ⟨trimStart_of_blanks, blanks_of_trimStart⟩
  have hspace : ∀ c, (' ' :: r).head? = some c → isBlank c = true := by
    rintro c ⟨⟩
    decide
  rw [h.fields_append hspace (by decide), fields_one, trim_cons_blank (by decide)]
  simp only [hnil]
  split_ifs <;> rfl

lemma IsField.fields_two (h : IsField w) (hr : trim r = r) :
    fields 2 (w ++ ' ' :: r) = if r = [] then [w] else [w, r] := by
  rw [h.fields_two_append, trimStart_of_trim_eq hr, hr]

lemma IsField.fields_two_self (h : IsField w) : fields 2 w = [w] := by
  have hfields : fields 2 (w ++ []) = w :: fields 1 [] := h.fields_append (by simp) (by decide)
  have hnil : fields 1 [] = [] := fields_of_blanks (by simp) 1
  rwa [List.append_nil, hnil] at hfields

lemma IsField.exists_trim_eq (h : IsField w) (r : List Char) :
    ∃ rest, trim (w ++ ' ' :: r) = w ++ rest ∧
      fields 2 (w ++ rest) = if trim r = [] then [w] else [w, trim r] := by
  obtain ⟨left, right, hleft, hright, heq⟩ := exists_eq_append_trim r
  by_cases hne : trim r = []
  · have hblanks : ∀ c ∈ ' ' :: r, isBlank c = true := by
      rw [heq, hne, List.append_nil]
      exact List.forall_mem_cons.mpr ⟨by decide, List.forall_mem_append.mpr ⟨hleft, hright⟩⟩
    refine ⟨[], by rw [trim_append_blanks hblanks, h.trim_eq, List.append_nil], ?_⟩
    rw [List.append_nil, h.fields_two_self, if_pos hne]
  · have hbetween := trim_between h.trim_eq h.ne_nil (trim_trim r) hne (' ' :: left)
    refine ⟨' ' :: (left ++ trim r), ?_, ?_⟩
    · calc trim (w ++ ' ' :: r)
          = trim (w ++ ' ' :: left ++ trim r ++ right) := by
            conv_lhs => rw [heq]
            simp
        _ = w ++ ' ' :: (left ++ trim r) := by
            rw [trim_append_blanks hright, hbetween, List.append_assoc, List.cons_append]
    · have hstart : trimStart (left ++ trim r) = trim r := by
        rw [trimStart_blanks_append hleft, trimStart_of_trim_eq (trim_trim r)]
      rw [h.fields_two_append, hstart, if_neg hne, if_neg hne, trim_blanks_append hleft, trim_trim]

lemma words_append_cons {c : Char} (hc : isBlank c = true) (s t : List Char) :
    words (s ++ c :: t) = words s ++ words t := by
  rw [words, splitWhere_append hc, List.filter_append]
  rfl

lemma words_blanks_append {l : List Char} (hl : ∀ c ∈ l, isBlank c = true) (s : List Char) :
    words (l ++ s) = words s := by
  induction l with
  | nil => rfl
  | cons c l ih =>
    obtain ⟨hc, hl⟩ := List.forall_mem_cons.mp hl
    have hword := words_append_cons hc [] (l ++ s)
    rwa [ih hl] at hword

lemma IsField.words_self (h : IsField w) : words w = [w] := by
  rw [words, splitWhere_of_none h.not_blank]
  simpa using h.ne_nil

lemma IsField.words_append (h : IsField w) (t : List Char) :
    words (w ++ ' ' :: t) = w :: words t := by
  rw [words_append_cons (by decide), h.words_self]
  rfl

lemma words_of_blanks {l : List Char} (hl : ∀ c ∈ l, isBlank c = true) : words l = [] := by
  have h := words_blanks_append hl []
  rwa [List.append_nil] at h

lemma words_append_blanks {r : List Char} (hr : ∀ c ∈ r, isBlank c = true) (s : List Char) :
    words (s ++ r) = words s := by
  cases r with
  | nil => rw [List.append_nil]
  | cons c r =>
    obtain ⟨hc, hr⟩ := List.forall_mem_cons.mp hr
    rw [words_append_cons hc, words_of_blanks hr, List.append_nil]

lemma words_trim (s : List Char) : words (trim s) = words s := by
  obtain ⟨l, r, hl, hr, heq⟩ := exists_eq_append_trim s
  conv_rhs => rw [heq]
  rw [words_append_blanks hr, words_blanks_append hl]

lemma IsField.words_append_text (h : IsField w) (t : List Char) : words (w ++ t) =
    (w ++ t.takeWhile (!isBlank ·)) :: words (t.dropWhile (!isBlank ·)) := by
  have hleft : IsField (w ++ t.takeWhile (!isBlank ·)) := by
    refine ⟨by simp [h.ne_nil], List.forall_mem_append.mpr ⟨h.not_blank, fun c hc => ?_⟩⟩
    simpa using List.mem_takeWhile_imp hc
  have ht : w ++ t = w ++ t.takeWhile (!isBlank ·) ++ t.dropWhile (!isBlank ·) := by
    rw [List.append_assoc, List.takeWhile_append_dropWhile]
  cases hr : t.dropWhile (!isBlank ·) with
  | nil =>
    rw [ht, hr, List.append_nil, hleft.words_self]
    rfl
  | cons c r =>
    have hc : isBlank c = true := by
      have hhead := List.head?_dropWhile_not (!isBlank ·) t
      simpa [hr] using hhead
    have hrest := words_append_cons hc [] r
    rw [ht, hr, words_append_cons hc, hleft.words_self]
    exact congrArg (_ :: ·) hrest.symm

lemma IsField.exists_words (h : IsField w) (t : List Char) :
    ∃ u ws, words (w ++ t) = (w ++ u) :: ws :=
  ⟨_, _, h.words_append_text t⟩

lemma contains_iff_infix {part s : List Char} : contains part s = true ↔ part <:+: s := by
  induction s with
  | nil => rw [contains, List.isEmpty_iff, List.infix_nil]
  | cons c s ih =>
    rw [contains, Bool.or_eq_true, List.isPrefixOf_iff_prefix, ih, List.infix_cons_iff]

end Words

section Lists

@[mk_iff]
structure IsItem (s : List Char) : Prop where
  ne_nil : s ≠ []
  trim_eq : trim s = s
  no_comma : ',' ∉ s

instance (s : List Char) : Decidable (IsItem s) :=
  decidable_of_iff' _ (isItem_iff s)

lemma splitOnChar_of_not_mem {sep : Char} {s : List Char} (h : sep ∉ s) :
    splitOnChar sep s = [s] :=
  splitWhere_of_none fun _ hc => beq_false_of_ne fun heq => h (heq ▸ hc)

lemma splitOnChar_append_cons (sep : Char) (s t : List Char) :
    splitOnChar sep (s ++ sep :: t) = splitOnChar sep s ++ splitOnChar sep t :=
  @splitWhere_append (· == sep) sep (beq_self_eq_true sep) s t

lemma dropStart?_eq_some_iff {start s t : List Char} :
    dropStart? start s = some t ↔ start ++ t = s :=
  List.isPrefixOf?_eq_some_iff_append_eq

lemma dropStart?_append (start s : List Char) : dropStart? start (start ++ s) = some s :=
  dropStart?_eq_some_iff.mpr rfl

lemma dropEnd?_eq_some_iff {final s t : List Char} : dropEnd? final s = some t ↔ t ++ final = s :=
  List.isSuffixOf?_eq_some_iff_append_eq

lemma intercalate_splitOnChar (sep : Char) (s : List Char) :
    [sep].intercalate (splitOnChar sep s) = s := by
  induction s with
  | nil => rfl
  | cons c r ih =>
    rw [splitOnChar, splitWhere]
    have hne := splitWhere_ne_nil (· == sep) r
    rw [splitOnChar] at ih
    by_cases hc : (c == sep) = true
    · rw [if_pos hc, List.intercalate_cons_of_ne_nil hne, ih, beq_iff_eq.mp hc]
      rfl
    · rw [if_neg hc]
      cases hr : splitWhere (· == sep) r with
      | nil => exact absurd hr hne
      | cons w ws =>
        rw [hr] at ih
        cases ws with
        | nil => simpa using ih
        | cons v vs => simpa [List.intercalate_cons_cons] using ih

lemma commaList_of_item {x : List Char} (h : IsItem x) : commaList x = [x] := by
  simp [commaList, splitOnChar_of_not_mem h.no_comma, h.trim_eq, h.ne_nil]

lemma commaList_append_cons {x : List Char} (h : IsItem x) (s : List Char) :
    commaList (x ++ ',' :: s) = x :: commaList s := by
  simp [commaList, splitOnChar_append_cons, splitOnChar_of_not_mem h.no_comma, h.trim_eq, h.ne_nil]

lemma commaList_cons_blank {c : Char} (hc : isBlank c = true) (s : List Char) :
    commaList (c :: s) = commaList s := by
  have hcomma : (c == ',') = false := by
    refine beq_false_of_ne ?_
    rintro rfl
    exact absurd hc (by decide)
  rw [commaList, commaList, splitOnChar, splitWhere, hcomma, ← splitOnChar]
  cases hs : splitOnChar ',' s with
  | nil => exact absurd hs (splitWhere_ne_nil _ s)
  | cons w ws =>
    simp only [Bool.false_eq_true, if_false, List.map_cons, trim_cons_blank hc]

lemma commaList_intercalate {blanks : List Char} (hblanks : ∀ c ∈ blanks, isBlank c = true)
    {items : List (List Char)} (h : ∀ x ∈ items, IsItem x) :
    commaList ((',' :: blanks).intercalate items) = items := by
  have hskip : ∀ s, commaList (blanks ++ s) = commaList s := by
    intro s
    induction blanks with
    | nil => rfl
    | cons c r ih =>
      rw [List.cons_append, commaList_cons_blank (hblanks c List.mem_cons_self),
        ih fun d hd => hblanks d (List.mem_cons_of_mem c hd)]
  induction items with
  | nil => rfl
  | cons x items ih =>
    obtain ⟨hx, hitems⟩ := List.forall_mem_cons.mp h
    cases items with
    | nil => rw [List.intercalate_singleton, commaList_of_item hx]
    | cons y rest =>
      rw [List.intercalate_cons_cons, List.append_assoc, List.cons_append,
        commaList_append_cons hx, hskip, ih hitems]

lemma mem_intercalate {sep : List Char} {items : List (List Char)} {c : Char}
    (h : c ∈ sep.intercalate items) : c ∈ sep ∨ ∃ x ∈ items, c ∈ x := by
  induction items with
  | nil => cases h
  | cons x items ih =>
    cases items with
    | nil => exact .inr ⟨x, List.mem_cons_self, by rwa [List.intercalate_singleton] at h⟩
    | cons y rest =>
      rw [List.intercalate_cons_cons, List.mem_append, List.mem_append] at h
      rcases h with (h | h) | h
      · exact .inr ⟨x, List.mem_cons_self, h⟩
      · exact .inl h
      · exact (ih h).imp_right fun ⟨z, hz, hc⟩ => ⟨z, List.mem_cons_of_mem x hz, hc⟩

lemma splitOnChar_intercalate {sep : Char} {items : List (List Char)} (hne : items ≠ [])
    (h : ∀ x ∈ items, sep ∉ x) : splitOnChar sep ([sep].intercalate items) = items := by
  induction items with
  | nil => exact absurd rfl hne
  | cons x items ih =>
    obtain ⟨hx, hitems⟩ := List.forall_mem_cons.mp h
    cases items with
    | nil => rw [List.intercalate_singleton, splitOnChar_of_not_mem hx]
    | cons y rest =>
      rw [List.intercalate_cons_cons, List.append_assoc, List.singleton_append,
        splitOnChar_append_cons, splitOnChar_of_not_mem hx, ih (by simp) hitems]
      rfl

lemma not_mem_of_mem_splitOnChar {sep : Char} {s x : List Char} (hx : x ∈ splitOnChar sep s) :
    sep ∉ x := by
  induction s generalizing x with
  | nil =>
    obtain rfl := List.mem_singleton.mp hx
    exact List.not_mem_nil
  | cons c r ih =>
    rw [splitOnChar, splitWhere] at hx
    split at hx
    · rcases List.mem_cons.mp hx with rfl | hx
      · exact List.not_mem_nil
      · exact ih hx
    · rename_i hc
      have hc : sep ≠ c := fun heq => hc (beq_iff_eq.mpr heq.symm)
      split at hx
      · obtain rfl := List.mem_singleton.mp hx
        simpa using hc
      · rename_i w ws hr
        have hw : ∀ y ∈ w :: ws, sep ∉ y := fun y hy => ih (by rwa [splitOnChar, hr])
        rcases List.mem_cons.mp hx with rfl | hx
        · simpa using ⟨hc, hw w List.mem_cons_self⟩
        · exact hw x (List.mem_cons_of_mem w hx)

lemma isItem_of_mem_commaList {s x : List Char} (h : x ∈ commaList s) : IsItem x := by
  obtain ⟨hmem, hne⟩ := List.mem_filter.mp h
  obtain ⟨piece, hpiece, rfl⟩ := List.mem_map.mp hmem
  refine ⟨by simpa using hne, trim_trim piece, fun hcomma => not_mem_of_mem_splitOnChar hpiece ?_⟩
  obtain ⟨l, r, -, -, heq⟩ := exists_eq_append_trim piece
  rw [heq]
  exact List.mem_append_left r (List.mem_append_right l hcomma)

lemma mem_intercalate_of_mem {sep x : List Char} {items : List (List Char)} {c : Char}
    (hx : x ∈ items) (hc : c ∈ x) : c ∈ sep.intercalate items := by
  induction items with
  | nil => cases hx
  | cons y items ih =>
    cases items with
    | nil =>
      obtain rfl := List.mem_singleton.mp hx
      rwa [List.intercalate_singleton]
    | cons z rest =>
      rw [List.intercalate_cons_cons, List.mem_append, List.mem_append]
      rcases List.mem_cons.mp hx with rfl | hx
      · exact .inl (.inl hc)
      · exact .inr (ih hx)

end Lists

section Pairs

variable {sep : Char} {s : List Char}

lemma splitOnPairAfter_ne_nil (piece s : List Char) : splitOnPairAfter sep piece s ≠ [] := by
  fun_induction splitOnPairAfter sep piece s with
  | case1 piece => exact List.cons_ne_nil _ _
  | case2 piece c => exact List.cons_ne_nil _ _
  | case3 piece c d r hpair => exact List.cons_ne_nil _ _
  | case4 piece c d r hpair ih => exact ih

lemma splitOnPair_ne_nil (sep : Char) (s : List Char) : splitOnPair sep s ≠ [] :=
  splitOnPairAfter_ne_nil [] s

lemma contains_pair_cons (c : Char) (s : List Char) :
    contains [sep, sep] (c :: s) =
      (c == sep && s.head? == some sep || contains [sep, sep] s) := by
  cases s with
  | nil => simp [contains, List.isPrefixOf]
  | cons d r => simp [contains, List.isPrefixOf, Bool.beq_comm]

lemma contains_pair_append_cons {c : Char} (hc : c ≠ sep) (s t : List Char) :
    contains [sep, sep] (s ++ c :: t) = (contains [sep, sep] s || contains [sep, sep] t) := by
  induction s with
  | nil => simp [contains_pair_cons, hc, contains]
  | cons d s ih =>
    rw [List.cons_append, contains_pair_cons, contains_pair_cons, ih, Bool.or_assoc]
    cases s with
    | nil => simp [hc]
    | cons e s => rfl

lemma splitOnPairAfter_of_not_contains (h : contains [sep, sep] s = false) (piece : List Char) :
    splitOnPairAfter sep piece s = [piece.reverse ++ s] := by
  induction s generalizing piece with
  | nil => simp [splitOnPairAfter]
  | cons c s ih =>
    rw [contains_pair_cons, Bool.or_eq_false_iff] at h
    cases s with
    | nil => simp [splitOnPairAfter]
    | cons d r =>
      have hpair : ¬(c == sep && d == sep) = true := by
        simpa using h.1
      rw [splitOnPairAfter, if_neg hpair, ih h.2]
      simp

lemma splitOnPairAfter_append (hsep : sep ≠ ' ') (h : contains [sep, sep] s = false)
    (piece t : List Char) :
    splitOnPairAfter sep piece (s ++ ' ' :: sep :: sep :: t) =
      (piece.reverse ++ s ++ [' ']) :: splitOnPair sep t := by
  induction s generalizing piece with
  | nil => simp [splitOnPairAfter, splitOnPair, hsep.symm]
  | cons c s ih =>
    rw [contains_pair_cons, Bool.or_eq_false_iff] at h
    cases s with
    | nil => simp [splitOnPairAfter, splitOnPair, hsep.symm]
    | cons d r =>
      have hpair : ¬(c == sep && d == sep) = true := by
        simpa using h.1
      rw [List.cons_append, List.cons_append, splitOnPairAfter, if_neg hpair, ← List.cons_append,
        ih h.2]
      simp

lemma contains_pair_append_left {l : List Char} (hl : sep ∉ l) (s : List Char) :
    contains [sep, sep] (l ++ s) = contains [sep, sep] s := by
  induction l with
  | nil => rfl
  | cons c l ih =>
    obtain ⟨hc, hl⟩ := not_or.mp (mt List.mem_cons.mpr hl)
    rw [List.cons_append, ← List.nil_append (c :: (l ++ s)), contains_pair_append_cons (Ne.symm hc),
      ih hl]
    rfl

lemma contains_pair_append_right {r : List Char} (hr : sep ∉ r) (s : List Char) :
    contains [sep, sep] (s ++ r) = contains [sep, sep] s := by
  cases r with
  | nil => rw [List.append_nil]
  | cons c r =>
    obtain ⟨hc, hr⟩ := not_or.mp (mt List.mem_cons.mpr hr)
    have hnone := contains_pair_append_left hr []
    rw [List.append_nil] at hnone
    rw [contains_pair_append_cons (Ne.symm hc), hnone]
    simp [contains]

lemma contains_pair_intercalate {glue : List Char} (hne : glue ≠ []) (hglue : sep ∉ glue)
    {items : List (List Char)} (h : ∀ x ∈ items, contains [sep, sep] x = false) :
    contains [sep, sep] (glue.intercalate items) = false := by
  obtain ⟨c, g, rfl⟩ := List.exists_cons_of_ne_nil hne
  obtain ⟨hc, hg⟩ := not_or.mp (mt List.mem_cons.mpr hglue)
  induction items with
  | nil => rfl
  | cons x items ih =>
    obtain ⟨hx, hitems⟩ := List.forall_mem_cons.mp h
    cases items with
    | nil => rw [List.intercalate_singleton, hx]
    | cons y rest =>
      rw [List.intercalate_cons_cons, List.append_assoc, List.cons_append,
        contains_pair_append_cons (Ne.symm hc), contains_pair_append_left hg, ih hitems, hx]
      rfl

lemma map_trim_splitOnPair (hsep : isBlank sep = false) {l r : List Char}
    (hl : ∀ c ∈ l, isBlank c = true) (hr : ∀ c ∈ r, isBlank c = true) {items : List (List Char)}
    (hne : items ≠ []) (htrim : ∀ x ∈ items, trim x = x)
    (hpair : ∀ x ∈ items, contains [sep, sep] x = false) :
    (splitOnPair sep (l ++ [' ', sep, sep, ' '].intercalate items ++ r)).map trim = items := by
  have hspace : sep ≠ ' ' := by
    rintro rfl
    exact absurd hsep (by decide)
  have hfree : ∀ {t : List Char}, (∀ c ∈ t, isBlank c = true) → sep ∉ t := fun ht hmem => by
    rw [ht sep hmem] at hsep
    cases hsep
  induction items generalizing l with
  | nil => exact absurd rfl hne
  | cons x items ih =>
    obtain ⟨hx, htrim⟩ := List.forall_mem_cons.mp htrim
    obtain ⟨hxpair, hpair⟩ := List.forall_mem_cons.mp hpair
    have hleft : contains [sep, sep] (l ++ x) = false := by
      rw [contains_pair_append_left (hfree hl), hxpair]
    cases items with
    | nil =>
      have hall : contains [sep, sep] (l ++ x ++ r) = false := by
        rw [contains_pair_append_right (hfree hr), hleft]
      rw [List.intercalate_singleton, splitOnPair, splitOnPairAfter_of_not_contains hall,
        List.map_singleton, List.reverse_nil, List.nil_append, trim_append_blanks hr,
        trim_blanks_append hl, hx]
    | cons y rest =>
      have htext : l ++ [' ', sep, sep, ' '].intercalate (x :: y :: rest) ++ r =
          l ++ x ++ ' ' :: sep :: sep ::
            ([' '] ++ [' ', sep, sep, ' '].intercalate (y :: rest) ++ r) := by
        simp [List.intercalate_cons_cons]
      rw [htext, splitOnPair, splitOnPairAfter_append hspace hleft, List.map_cons,
        ih (by decide) (by simp) htrim hpair, List.reverse_nil, List.nil_append,
        trim_append_blank (by decide), trim_blanks_append hl, hx]

end Pairs

section Lines

def linesOf (s : String) : List (List Char) :=
  splitOnChar '\n' s.toList

lemma linesOf_of_not_mem {s : String} (h : '\n' ∉ s.toList) : linesOf s = [s.toList] :=
  splitOnChar_of_not_mem h

lemma linesOf_append (s t : String) : linesOf (s ++ "\n" ++ t) = linesOf s ++ linesOf t := by
  have htext : (s ++ "\n" ++ t).toList = s.toList ++ '\n' :: t.toList := by
    simp
  rw [linesOf, htext, splitOnChar_append_cons]
  rfl

lemma linesOf_join (s : String) (items : List String) :
    linesOf (s ++ String.join (items.map ("\n" ++ ·))) = linesOf s ++ items.flatMap linesOf := by
  induction items generalizing s with
  | nil => simp
  | cons item items ih =>
    rw [List.map_cons, String.join_cons, ← String.append_assoc, ih, ← String.append_assoc,
      linesOf_append, List.flatMap_cons, List.append_assoc]

lemma linesOf_intercalate {items : List String} (hne : items ≠ [])
    (h : ∀ item ∈ items, '\n' ∉ item.toList) :
    linesOf ("\n".intercalate items) = items.map String.toList := by
  induction items with
  | nil => exact absurd rfl hne
  | cons item items ih =>
    obtain ⟨hitem, hitems⟩ := List.forall_mem_cons.mp h
    cases items with
    | nil => rw [String.intercalate_singleton, linesOf_of_not_mem hitem, List.map_singleton]
    | cons next rest =>
      rw [String.intercalate_cons_cons, linesOf_append, linesOf_of_not_mem hitem,
        ih (by simp) hitems]
      rfl

end Lines

section Literals

-- It takes long to decode a literal. Where the characters of texts are read that are put together
-- from literals, these are collected first, and nothing is decoded.

variable {k l m : List Char} {t : String} {texts : List String} {lines : List (List Char)}

lemma append_eq_ofList (h : t = .ofList m) : .ofList l ++ t = .ofList (l ++ m) := by
  rw [h, ← String.ofList_append]

lemma ofList_eq_append (h : t = .ofList m) (hk : k = l ++ m) : .ofList k = .ofList l ++ t := by
  rw [hk, append_eq_ofList h]

lemma map_toList_cons (h : texts.map String.toList = lines) :
    (.ofList l :: texts).map String.toList = l :: lines := by
  rw [List.map_cons, String.toList_ofList, h]

lemma forall_of_map_toList {p : List Char → Prop} (h : texts.map String.toList = lines)
    (hp : ∀ line ∈ lines, p line) : ∀ line ∈ texts.map String.toList, p line := by
  rwa [h]

lemma flatMap_of_map_toList {α : Type} {f : List Char → List α} {a : List α}
    (h : texts.map String.toList = lines) (ha : lines.flatMap f = a) :
    (texts.map String.toList).flatMap f = a := by
  rwa [h]

lemma linesOf_eq_ofList (h : t = .ofList l) : linesOf t = splitOnChar '\n' l := by
  rw [h, linesOf, String.toList_ofList]

end Literals

end Routewright.Text
