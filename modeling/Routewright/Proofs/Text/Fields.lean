import Mathlib.Data.List.Sort
import Routewright.Proofs.Text.Pieces

namespace Routewright.Text

@[ext]
structure Span where
  start : ℕ
  stop : ℕ

namespace Span

variable {s p : List Char}

def read (s : List Char) (v : Span) : List Char :=
  (s.drop v.start).take (v.stop - v.start)

def shift (n : ℕ) (v : Span) : Span :=
  ⟨n + v.start, n + v.stop⟩

structure IsSolid (s : List Char) (v : Span) : Prop where
  start_lt_stop : v.start < v.stop
  stop_le : v.stop ≤ s.length
  not_blank : ∀ c ∈ v.read s, isBlank c = false

structure IsWord (s : List Char) (v : Span) : Prop extends IsSolid s v where
  maximal : ∀ u : Span, u.IsSolid s → u.start ≤ v.start → v.stop ≤ u.stop → u = v

def behind (words : List Span) : ℕ :=
  (words.getLast?.map stop).getD 0

lemma mem_read {v : Span} {c : Char} :
    c ∈ v.read s ↔ ∃ i, v.start ≤ i ∧ i < v.stop ∧ s[i]? = some c := by
  rw [read, List.mem_iff_getElem?]
  constructor
  · rintro ⟨i, hi⟩
    rw [List.getElem?_take] at hi
    split_ifs at hi with hlt
    rw [List.getElem?_drop] at hi
    exact ⟨v.start + i, by omega, by omega, hi⟩
  · rintro ⟨i, hstart, hstop, hc⟩
    refine ⟨i - v.start, ?_⟩
    rw [List.getElem?_take_of_lt (by omega), List.getElem?_drop, Nat.add_sub_cancel' hstart, hc]

lemma IsSolid.not_blank_at {v : Span} (h : v.IsSolid s) {i : ℕ} {c : Char} (hstart : v.start ≤ i)
    (hstop : i < v.stop) (hc : s[i]? = some c) : isBlank c = false :=
  h.not_blank c (mem_read.mpr ⟨i, hstart, hstop, hc⟩)

lemma read_shift (p s : List Char) (v : Span) : (v.shift p.length).read (p ++ s) = v.read s := by
  rw [read, read, shift, List.drop_length_add_append, Nat.add_sub_add_left]

lemma map_read_shift (p s : List Char) (words : List Span) :
    (words.map (shift p.length)).map (read (p ++ s)) = words.map (read s) := by
  rw [List.map_map]
  exact List.map_congr_left fun v _ => read_shift p s v

lemma shift_injective (n : ℕ) : Function.Injective (shift n) := by
  intro v u h
  obtain ⟨hstart, hstop⟩ := Span.mk.inj h
  exact Span.ext (Nat.add_left_cancel hstart) (Nat.add_left_cancel hstop)

lemma isSolid_shift_iff {v : Span} : (v.shift p.length).IsSolid (p ++ s) ↔ v.IsSolid s := by
  constructor
  · rintro ⟨hlt, hle, hnot⟩
    rw [read_shift] at hnot
    rw [List.length_append] at hle
    exact ⟨Nat.lt_of_add_lt_add_left hlt, Nat.le_of_add_le_add_left hle, hnot⟩
  · rintro ⟨hlt, hle, hnot⟩
    rw [← read_shift p s v] at hnot
    refine ⟨Nat.add_lt_add_left hlt _, ?_, hnot⟩
    rw [List.length_append]
    exact Nat.add_le_add_left hle _

lemma behind_cons_map_shift (v : Span) (n : ℕ) (words : List Span) (hv : v.stop = n) :
    behind (v :: words.map (shift n)) = n + behind words := by
  rw [behind, behind, List.getLast?_cons, List.getLast?_map]
  cases words.getLast? with
  | none => exact hv
  | some u => rfl

end Span

structure AreWords (s : List Char) (words : List Span) : Prop where
  ordered : words.Pairwise fun v u => v.start < u.start
  mem_iff : ∀ v, v ∈ words ↔ v.IsWord s

lemma AreWords.unique {s : List Char} {words others : List Span} (h : AreWords s words)
    (ho : AreWords s others) : words = others := by
  have hirrefl : Std.Irrefl fun v u : Span => v.start < u.start := ⟨fun _ => lt_irrefl _⟩
  have hantisymm : Std.Antisymm fun v u : Span => v.start < u.start :=
    ⟨fun _ _ hvu huv => absurd hvu huv.not_gt⟩
  exact h.ordered.eq_of_mem_iff ho.ordered fun v => (h.mem_iff v).trans (ho.mem_iff v).symm

/-- How words and blanks take turns in a text, with the places of the words. What follows a word
begins with a blank, so that no word is cut in two. -/
inductive Spaced : List Char → List Span → Prop
  | blanks (s : List Char) (hs : ∀ c ∈ s, isBlank c = true) : Spaced s []
  | word (gap w : List Char) {r : List Char} {words : List Span}
      (hgap : ∀ c ∈ gap, isBlank c = true) (hw : IsField w)
      (hr : ∀ c, r.head? = some c → isBlank c = true) (h : Spaced r words) :
      Spaced (gap ++ w ++ r) (⟨gap.length, (gap ++ w).length⟩ ::
        words.map (Span.shift (gap ++ w).length))

lemma exists_first_word (s : List Char) : (∀ c ∈ s, isBlank c = true) ∨
    ∃ gap w r, (∀ c ∈ gap, isBlank c = true) ∧ IsField w ∧
      (∀ c, r.head? = some c → isBlank c = true) ∧ s = gap ++ w ++ r := by
  cases hs : trimStart s with
  | nil => exact .inl (blanks_of_trimStart hs)
  | cons c t =>
    have hc : isBlank c = false :=
      dropWhile_eq_self_iff_head.mp (trimStart_trimStart s) c (by rw [hs]; rfl)
    refine .inr ⟨s.takeWhile isBlank, (c :: t).takeWhile (!isBlank ·),
      (c :: t).dropWhile (!isBlank ·), fun d hd => List.mem_takeWhile_imp hd,
      ⟨by simp [hc], fun d hd => ?_⟩, fun d hd => ?_, ?_⟩
    · simpa using List.mem_takeWhile_imp hd
    · have hhead := List.head?_dropWhile_not (!isBlank ·) (c :: t)
      rw [hd] at hhead
      simpa using hhead
    · rw [List.append_assoc, List.takeWhile_append_dropWhile, ← hs, trimStart,
        List.takeWhile_append_dropWhile]

lemma exists_spaced (s : List Char) : ∃ words, Spaced s words := by
  -- The induction is on the length, since a whole word is taken from the text at once.
  induction hn : s.length using Nat.strong_induction_on generalizing s with
  | _ n ih =>
    rcases exists_first_word s with hs | ⟨gap, w, r, hgap, hw, hr, rfl⟩
    · exact ⟨[], .blanks s hs⟩
    · have hpos := List.length_pos_iff.mpr hw.ne_nil
      rw [List.length_append, List.length_append] at hn
      obtain ⟨words, h⟩ := ih r.length (by omega) r rfl
      exact ⟨_, .word gap w hgap hw hr h⟩

section FirstWord

variable {gap w r : List Char}

lemma isSolid_append_iff (hgap : ∀ c ∈ gap, isBlank c = true) (hw : IsField w)
    (hr : ∀ c, r.head? = some c → isBlank c = true) {v : Span} :
    v.IsSolid (gap ++ w ++ r) ↔
      (gap.length ≤ v.start ∧ v.start < v.stop ∧ v.stop ≤ (gap ++ w).length) ∨
        ∃ u : Span, u.IsSolid r ∧ v = u.shift (gap ++ w).length := by
  constructor
  · intro hv
    have hlt := hv.start_lt_stop
    have hle := hv.stop_le
    by_cases hbehind : (gap ++ w).length ≤ v.start
    · have hshift : v = Span.shift (gap ++ w).length
          ⟨v.start - (gap ++ w).length, v.stop - (gap ++ w).length⟩ := by
        rw [Span.shift, Nat.add_sub_cancel' hbehind, Nat.add_sub_cancel' (by omega)]
      refine .inr ⟨_, ?_, hshift⟩
      rwa [← Span.isSolid_shift_iff, ← hshift]
    · refine .inl ⟨?_, hlt, ?_⟩
      · by_contra! hbefore
        have hc : gap[v.start]? = some gap[v.start] := List.getElem?_eq_getElem hbefore
        have hblank := hgap _ (List.mem_of_getElem? hc)
        rw [← List.getElem?_append_left hbefore, ← List.append_assoc] at hc
        rw [hv.not_blank_at le_rfl hlt hc] at hblank
        cases hblank
      · by_contra! hover
        cases r with
        | nil =>
          rw [List.append_nil] at hle
          omega
        | cons c t =>
          have hblank := hr c rfl
          rw [hv.not_blank_at (i := (gap ++ w).length) (by omega) hover (by simp)] at hblank
          cases hblank
  · rintro (⟨hstart, hlt, hstop⟩ | ⟨u, hu, rfl⟩)
    · refine ⟨hlt, ?_, fun c hc => ?_⟩
      · rw [List.length_append]
        omega
      · obtain ⟨i, hi, hlt, hc⟩ := Span.mem_read.mp hc
        rw [List.getElem?_append_left (by omega), List.getElem?_append_right (by omega)] at hc
        exact hw.not_blank c (List.mem_of_getElem? hc)
    · exact Span.isSolid_shift_iff.mpr hu

lemma isWord_append_iff (hgap : ∀ c ∈ gap, isBlank c = true) (hw : IsField w)
    (hr : ∀ c, r.head? = some c → isBlank c = true) {v : Span} :
    v.IsWord (gap ++ w ++ r) ↔ v = ⟨gap.length, (gap ++ w).length⟩ ∨
      ∃ u : Span, u.IsWord r ∧ v = u.shift (gap ++ w).length := by
  have hsolid {x : Span} := isSolid_append_iff hgap hw hr (v := x)
  have hfirst : gap.length < (gap ++ w).length := by
    rw [List.length_append]
    exact Nat.lt_add_of_pos_right (List.length_pos_iff.mpr hw.ne_nil)
  constructor
  · rintro ⟨hv, hmax⟩
    rcases hsolid.mp hv with ⟨hstart, -, hstop⟩ | ⟨u, hu, rfl⟩
    · exact .inl (hmax ⟨gap.length, (gap ++ w).length⟩ (hsolid.mpr (.inl ⟨le_rfl, hfirst, le_rfl⟩))
        hstart hstop).symm
    · refine .inr ⟨u, ⟨hu, fun x hx hstart hstop => ?_⟩, rfl⟩
      exact Span.shift_injective _ (hmax _ (hsolid.mpr (.inr ⟨x, hx, rfl⟩))
        (Nat.add_le_add_left hstart _) (Nat.add_le_add_left hstop _))
  · rintro (rfl | ⟨u, ⟨hu, hmax⟩, rfl⟩)
    · refine ⟨hsolid.mpr (.inl ⟨le_rfl, hfirst, le_rfl⟩), fun x hx hstart hstop => ?_⟩
      rcases hsolid.mp hx with ⟨hstart', -, hstop'⟩ | ⟨y, -, rfl⟩
      · exact Span.ext (le_antisymm hstart hstart') (le_antisymm hstop' hstop)
      · simp only [Span.shift] at hstart
        omega
    · refine ⟨hsolid.mpr (.inr ⟨u, hu, rfl⟩), fun x hx hstart hstop => ?_⟩
      rcases hsolid.mp hx with ⟨-, -, hstop'⟩ | ⟨y, hy, rfl⟩
      · have hpos := hu.start_lt_stop
        simp only [Span.shift] at hstop
        omega
      · rw [hmax y hy (Nat.le_of_add_le_add_left hstart) (Nat.le_of_add_le_add_left hstop)]

lemma read_word : Span.read (gap ++ w ++ r) ⟨gap.length, (gap ++ w).length⟩ = w := by
  rw [Span.read, List.append_assoc, List.drop_left, List.length_append, Nat.add_sub_cancel_left,
    List.take_left]

lemma trim_word (hgap : ∀ c ∈ gap, isBlank c = true) (hw : IsField w) :
    trim (gap ++ w ++ r) = w ++ trimEnd r := by
  have hhead : ∀ c, (w ++ r).head? = some c → isBlank c = false := fun c hc => by
    rw [List.head?_append_of_ne_nil _ hw.ne_nil] at hc
    exact hw.not_blank c (List.mem_of_head? hc)
  have hlast : ∀ c, w.getLast? = some c → isBlank c = false := fun c hc =>
    hw.not_blank c (List.mem_of_getLast? hc)
  rw [trim, List.append_assoc, trimStart_blanks_append hgap, trimStart,
    dropWhile_eq_self_iff_head.mpr hhead, trimEnd_append hlast]

lemma trim_word_ne_nil (hgap : ∀ c ∈ gap, isBlank c = true) (hw : IsField w) :
    trim (gap ++ w ++ r) ≠ [] := by
  rw [trim_word hgap hw]
  exact List.append_ne_nil_of_left_ne_nil hw.ne_nil _

lemma fields_word (hgap : ∀ c ∈ gap, isBlank c = true) (hw : IsField w)
    (hr : ∀ c, r.head? = some c → isBlank c = true) {n : ℕ} (hn : n ≠ 1) :
    fields n (gap ++ w ++ r) = w :: fields (n - 1) r := by
  rw [List.append_assoc, fields_blanks_append hgap, hw.fields_append hr hn]

lemma fields_one_word (hgap : ∀ c ∈ gap, isBlank c = true) (hw : IsField w) :
    fields 1 (gap ++ w ++ r) = [trim (gap ++ w ++ r)] := by
  rw [fields_one, if_neg (trim_word_ne_nil hgap hw)]

end FirstWord

namespace Spaced

variable {s : List Char} {words : List Span}

lemma areWords (h : Spaced s words) : AreWords s words := by
  induction h with
  | blanks s hs =>
    refine ⟨.nil, fun v => iff_of_false List.not_mem_nil fun hv => ?_⟩
    have hlt := hv.start_lt_stop
    have hle := hv.stop_le
    have hc : s[v.start]? = some s[v.start] := List.getElem?_eq_getElem (by omega)
    have hblank := hs _ (List.mem_of_getElem? hc)
    rw [hv.not_blank_at le_rfl hlt hc] at hblank
    cases hblank
  | @word gap w r words hgap hw hr _ ih =>
    refine ⟨List.pairwise_cons.mpr ⟨List.forall_mem_map.mpr fun u hu => ?_, ?_⟩, fun v => ?_⟩
    · have hpos := List.length_pos_iff.mpr hw.ne_nil
      simp only [Span.shift, List.length_append]
      omega
    · exact ih.ordered.map _ fun v u hvu => Nat.add_lt_add_left hvu _
    · rw [isWord_append_iff hgap hw hr, List.mem_cons, List.mem_map]
      simp only [ih.mem_iff, eq_comm]

lemma trimEnd_eq (h : Spaced s words) : trimEnd s = s.take (Span.behind words) := by
  induction h with
  | blanks s hs =>
    rw [trimEnd, dropEndWhile_eq_rdropWhile, List.rdropWhile_eq_nil_iff.mpr hs]
    rfl
  | @word gap w r words hgap hw hr _ ih =>
    have hlast : ∀ c, (gap ++ w).getLast? = some c → isBlank c = false := fun c hc => by
      rw [List.getLast?_append_of_ne_nil _ hw.ne_nil] at hc
      exact hw.not_blank c (List.mem_of_getLast? hc)
    rw [trimEnd_append hlast, ih, Span.behind_cons_map_shift _ _ _ rfl,
      List.take_length_add_append]

lemma trim_eq {v : Span} (h : Spaced s (v :: words)) :
    trim s = Span.read s ⟨v.start, Span.behind (v :: words)⟩ := by
  cases h with
  | @word gap w r words hgap hw hr h =>
    rw [trim_word hgap hw, h.trimEnd_eq, Span.behind_cons_map_shift _ _ _ rfl, Span.read,
      List.append_assoc, List.drop_left, List.length_append, Nat.add_assoc,
      Nat.add_sub_cancel_left, List.take_length_add_append]

lemma fields_eq (h : Spaced s words) {n : ℕ} (hn : n = 0 ∨ words.length < n) :
    fields n s = words.map (Span.read s) := by
  induction h generalizing n with
  | blanks s hs => exact fields_of_blanks hs n
  | word gap w hgap hw hr _ ih =>
    rw [List.length_cons, List.length_map] at hn
    rw [fields_word hgap hw hr (by omega), ih (by omega), List.map_cons, read_word,
      Span.map_read_shift]

lemma fields_succ (h : Spaced s words) {n : ℕ} (hn : n < words.length) :
    fields (n + 1) s = (words.take n).map (Span.read s) ++
      [Span.read s ⟨words[n].start, Span.behind words⟩] := by
  induction h generalizing n with
  | blanks => cases hn
  | @word gap w r words hgap hw hr h ih =>
    cases n with
    | zero =>
      -- One field is the whole text, trimmed.
      rw [fields_one_word hgap hw, (h.word gap w hgap hw hr).trim_eq]
      rfl
    | succ n =>
      rw [List.length_cons, List.length_map] at hn
      have hn : n < words.length := Nat.lt_of_succ_lt_succ hn
      rw [fields_word hgap hw hr (by omega), Nat.add_sub_cancel, ih hn, List.take_succ_cons,
        List.map_cons, read_word, ← List.map_take, Span.map_read_shift, List.cons_append,
        Span.behind_cons_map_shift _ _ _ rfl, ← Span.read_shift (gap ++ w) r]
      simp [Span.shift]

lemma trim_of_mem_fields (h : Spaced s words) {n : ℕ} {f : List Char} (hf : f ∈ fields n s) :
    f ≠ [] ∧ trim f = f := by
  induction h generalizing n with
  | blanks s hs =>
    rw [fields_of_blanks hs] at hf
    cases hf
  | word gap w hgap hw hr _ ih =>
    by_cases hn : n = 1
    · rw [hn, fields_one_word hgap hw, List.mem_singleton] at hf
      rw [hf]
      exact ⟨trim_word_ne_nil hgap hw, trim_trim _⟩
    · rw [fields_word hgap hw hr hn] at hf
      rcases List.mem_cons.mp hf with rfl | hf
      · exact ⟨hw.ne_nil, hw.trim_eq⟩
      · exact ih hf

lemma length_fields_le (h : Spaced s words) {n : ℕ} (hn : 0 < n) : (fields n s).length ≤ n := by
  by_cases hlt : words.length < n
  · rw [h.fields_eq (.inr hlt), List.length_map]
    exact hlt.le
  · obtain ⟨m, rfl⟩ := Nat.exists_eq_succ_of_ne_zero hn.ne'
    rw [h.fields_succ (by omega), List.length_append, List.length_map, List.length_take,
      List.length_singleton]
    omega

end Spaced

lemma IsField.fields_intercalate_cons {w : List Char} (hw : IsField w) {n : ℕ} (hn : n ≠ 1)
    (l : List (List Char)) : fields n ([' '].intercalate (w :: l)) =
      w :: fields (n - 1) ([' '].intercalate l) := by
  cases l with
  | nil =>
    have hfields := hw.fields_append (r := []) (by simp) hn
    rw [List.append_nil] at hfields
    rw [List.intercalate_singleton]
    exact hfields
  | cons y rest =>
    have hspace : ∀ c, ([' '] ++ [' '].intercalate (y :: rest)).head? = some c →
        isBlank c = true := by
      rintro c ⟨⟩
      decide
    rw [List.intercalate_cons_cons, List.append_assoc, hw.fields_append hspace hn,
      fields_blanks_append (by decide)]

lemma Spaced.fields_intercalate {s : List Char} {words : List Span} (h : Spaced s words) (n : ℕ) :
    fields n ([' '].intercalate (fields n s)) = fields n s := by
  induction h generalizing n with
  | blanks s hs =>
    rw [fields_of_blanks hs]
    exact fields_of_blanks (by simp) n
  | word gap w hgap hw hr _ ih =>
    by_cases hn : n = 1
    · rw [hn, fields_one_word hgap hw, List.intercalate_singleton, fields_one, trim_trim,
        if_neg (trim_word_ne_nil hgap hw)]
    · rw [fields_word hgap hw hr hn, hw.fields_intercalate_cons hn, ih]

/-- The words of a text, its longest stretches without blanks, are one list. The fields are these
words; if there are at least as many as fields are asked for, the last field is the stretch from its
first word to the end of the last word. No field is empty or has blanks at its ends, and fields that
are joined are cut as before. -/
theorem fields_cut_words (s : List Char) :
    (∃! words, AreWords s words) ∧ ∀ words, AreWords s words →
      fields 0 s = words.map (Span.read s) ∧
      (∀ n, words.length < n → fields n s = words.map (Span.read s)) ∧
      (∀ n (hn : n < words.length), fields (n + 1) s = (words.take n).map (Span.read s) ++
        [Span.read s ⟨words[n].start, Span.behind words⟩]) ∧
      ∀ n, (∀ f ∈ fields n s, f ≠ [] ∧ trim f = f) ∧ (0 < n → (fields n s).length ≤ n) ∧
        fields n ([' '].intercalate (fields n s)) = fields n s := by
  obtain ⟨words, h⟩ := exists_spaced s
  refine ⟨⟨words, h.areWords, fun others ho => ho.unique h.areWords⟩, fun others ho => ?_⟩
  obtain rfl := ho.unique h.areWords
  exact ⟨h.fields_eq (.inl rfl), fun n hn => h.fields_eq (.inr hn), fun n hn => h.fields_succ hn,
    fun n => ⟨fun f hf => h.trim_of_mem_fields hf, h.length_fields_le, h.fields_intercalate n⟩⟩

theorem fields_cut_words_wide :
    let s := ['\u3000', 'a', ' ', 'b', ' ', '\t', 'c', '\n']
    let words : List Span := [⟨1, 2⟩, ⟨3, 4⟩, ⟨6, 7⟩]
    AreWords s words ∧ words.length < 4 ∧ 1 < words.length ∧
      fields 0 s = [['a'], ['b'], ['c']] ∧ fields 4 s = [['a'], ['b'], ['c']] ∧
      fields 2 s = [['a'], ['b', ' ', '\t', 'c']] ∧
      trim ['b', ' ', '\t', 'c'] = ['b', ' ', '\t', 'c'] ∧
      fields 2 ['a', ' ', 'b', ' ', '\t', 'c'] = fields 2 s := by
  intro s words
  have hwords : AreWords s words := by
    have hc := Spaced.word [' ', '\t'] ['c'] (by decide) (by decide) (by rintro c ⟨⟩; decide)
      (.blanks ['\n'] (by decide))
    have hb := Spaced.word [' '] ['b'] (by decide) (by decide) (by rintro c ⟨⟩; decide) hc
    have ha := Spaced.word ['\u3000'] ['a'] (by decide) (by decide) (by rintro c ⟨⟩; decide) hb
    exact ha.areWords
  obtain ⟨hall, hfew, hmany, hfields⟩ := (fields_cut_words s).2 words hwords
  have htwo : fields 2 s = [['a'], ['b', ' ', '\t', 'c']] := hmany 1 (by decide)
  obtain ⟨htrim, -, hjoin⟩ := hfields 2
  refine ⟨hwords, by decide, by decide, hall, hfew 4 (by decide), htwo, ?_, ?_⟩
  · exact (htrim ['b', ' ', '\t', 'c'] (by rw [htwo]; decide)).2
  · rw [htwo] at hjoin ⊢
    exact hjoin

end Routewright.Text
