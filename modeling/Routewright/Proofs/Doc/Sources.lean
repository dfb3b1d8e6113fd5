import Mathlib.Tactic.Lemma
import Routewright.Doc.Decorator

namespace Routewright.Decorator

open Text

def quotes : List Char :=
  [Go.stringQuote, Go.runeQuote, Go.rawQuote]

/-- What can stand between two quotes. A backslash takes the next character with it, but not
between raw quotes. -/
inductive Enclosed (q : Char) : List Char → Prop
  | nil : Enclosed q []
  | plain {c : Char} {s : List Char} (hq : c ≠ q) (hc : c = '\\' → q = Go.rawQuote)
      (hs : Enclosed q s) : Enclosed q (c :: s)
  | escaped {c : Char} {s : List Char} (hq : q ≠ Go.rawQuote) (hs : Enclosed q s) :
      Enclosed q ('\\' :: c :: s)

inductive Unbroken : List Char → Prop
  | nil : Unbroken []
  | plain {c : Char} {s : List Char} (hc : c ∉ quotes) (hend : c ≠ ',' ∧ c ≠ ')')
      (hs : Unbroken s) : Unbroken (c :: s)
  | quoted {q : Char} {body s : List Char} (hq : q ∈ quotes) (hbody : Enclosed q body)
      (hs : Unbroken s) : Unbroken (q :: (body ++ q :: s))

section Splitting

variable {q c : Char} {s t body : List Char} {a : RawArgument}

def RawArgument.extend (l : List Char) (a : RawArgument) : RawArgument :=
  { a with text := l ++ a.text }

lemma map_extend_extend (l m : List Char) (x : Option RawArgument) :
    (x.map (RawArgument.extend m)).map (RawArgument.extend l) =
      x.map (RawArgument.extend (l ++ m)) := by
  cases x with
  | none => rfl
  | some a => simp [RawArgument.extend]

lemma map_extend_nil (x : Option RawArgument) : x.map (RawArgument.extend []) = x := by
  cases x <;> rfl

lemma mem_quotes_iff :
    q ∈ quotes ↔ q = Go.stringQuote ∨ q = Go.runeQuote ∨ q = Go.rawQuote := by
  simp [quotes]

lemma splitArgument_plain (hc : c ∉ quotes) (hend : c ≠ ',' ∧ c ≠ ')') (t : List Char) :
    splitArgument none false (c :: t) =
      (splitArgument none false t).map (RawArgument.extend [c]) := by
  rw [mem_quotes_iff] at hc
  rw [splitArgument]
  dsimp only
  rw [if_neg hc, if_neg (by simp [hend])]
  rfl

lemma splitArgument_open (hq : q ∈ quotes) (t : List Char) :
    splitArgument none false (q :: t) =
      (splitArgument (some q) false t).map (RawArgument.extend [q]) := by
  rw [mem_quotes_iff] at hq
  rw [splitArgument]
  dsimp only
  rw [if_pos hq]
  rfl

lemma splitArgument_escaped (q c : Char) (t : List Char) :
    splitArgument (some q) true (c :: t) =
      (splitArgument (some q) false t).map (RawArgument.extend [c]) :=
  rfl

lemma splitArgument_backslash (hq : q ≠ Go.rawQuote) (t : List Char) :
    splitArgument (some q) false ('\\' :: t) =
      (splitArgument (some q) true t).map (RawArgument.extend ['\\']) := by
  rw [splitArgument]
  dsimp only
  rw [if_neg (by simp), if_pos ⟨rfl, hq⟩]
  rfl

lemma splitArgument_inside (hq : c ≠ q) (hc : c = '\\' → q = Go.rawQuote) (t : List Char) :
    splitArgument (some q) false (c :: t) =
      (splitArgument (some q) false t).map (RawArgument.extend [c]) := by
  rw [splitArgument]
  dsimp only
  rw [if_neg (by simp), if_neg fun h => h.2 (hc h.1), if_neg hq]
  rfl

lemma splitArgument_close (hq : q ∈ quotes) (t : List Char) :
    splitArgument (some q) false (q :: t) =
      (splitArgument none false t).map (RawArgument.extend [q]) := by
  have hslash : ¬(q = '\\' ∧ q ≠ Go.rawQuote) := by
    rintro ⟨rfl, -⟩
    exact absurd hq (by decide)
  rw [splitArgument]
  dsimp only
  rw [if_neg (by simp), if_neg hslash, if_pos rfl]
  rfl

lemma Enclosed.splitArgument_append (hq : q ∈ quotes) (h : Enclosed q body) (t : List Char) :
    splitArgument (some q) false (body ++ q :: t) =
      (splitArgument none false t).map (RawArgument.extend (body ++ [q])) := by
  induction h with
  | nil => exact splitArgument_close hq t
  | plain hne hc _ ih =>
    rw [List.cons_append, splitArgument_inside hne hc, ih, map_extend_extend]
    rfl
  | escaped hne _ ih =>
    rw [List.cons_append, List.cons_append, splitArgument_backslash hne, splitArgument_escaped, ih,
      map_extend_extend, map_extend_extend]
    rfl

lemma Unbroken.splitArgument_append (h : Unbroken s) (t : List Char) :
    splitArgument none false (s ++ t) =
      (splitArgument none false t).map (RawArgument.extend s) := by
  induction h with
  | nil => exact (map_extend_nil _).symm
  | plain hc hend _ ih =>
    rw [List.cons_append, splitArgument_plain hc hend, ih, map_extend_extend]
    rfl
  | @quoted q body s hq hbody _ ih =>
    rw [List.cons_append, List.append_assoc, List.cons_append, splitArgument_open hq,
      hbody.splitArgument_append hq, ih, map_extend_extend, map_extend_extend]
    simp

def Resumes (q : Char) (t : List Char) : Prop :=
  ∃ body u, t = body ++ q :: u ∧ Enclosed q body ∧ Unbroken u

lemma Resumes.close (h : Unbroken t) : Resumes q (q :: t) :=
  ⟨[], t, rfl, .nil, h⟩

lemma Resumes.plain (hq : c ≠ q) (hc : c = '\\' → q = Go.rawQuote) (h : Resumes q t) :
    Resumes q (c :: t) := by
  obtain ⟨body, u, rfl, hbody, hu⟩ := h
  exact ⟨c :: body, u, rfl, .plain hq hc hbody, hu⟩

lemma Resumes.escaped (hq : q ≠ Go.rawQuote) (h : Resumes q t) :
    Resumes q ('\\' :: c :: t) := by
  obtain ⟨body, u, rfl, hbody, hu⟩ := h
  exact ⟨'\\' :: c :: body, u, rfl, .escaped hq hbody, hu⟩

lemma Resumes.unbroken (hq : q ∈ quotes) (h : Resumes q t) : Unbroken (q :: t) := by
  obtain ⟨body, u, rfl, hbody, hu⟩ := h
  exact .quoted hq hbody hu

-- The induction is on the text that is read, for all states of the reader at once.
lemma splitArgument_text (s : List Char) :
    (∀ a, splitArgument none false s = some a → Unbroken a.text) ∧
      ∀ q ∈ quotes, ∀ a, (splitArgument (some q) false s = some a → Resumes q a.text) ∧
        (splitArgument (some q) true s = some a → ∃ c t, a.text = c :: t ∧ Resumes q t) := by
  induction s with
  | nil => simp [splitArgument]
  | cons c r ih =>
    obtain ⟨houtside, hinside⟩ := ih
    refine ⟨fun a h => ?_, fun q hq a => ⟨fun h => ?_, fun h => ?_⟩⟩
    · by_cases hc : c ∈ quotes
      · rw [splitArgument_open hc] at h
        obtain ⟨b, hb, rfl⟩ := Option.map_eq_some_iff.mp h
        exact ((hinside c hc b).1 hb).unbroken hc
      · by_cases hend : c = ',' ∨ c = ')'
        · rw [mem_quotes_iff] at hc
          rw [splitArgument] at h
          dsimp only at h
          rw [if_neg hc, if_pos hend] at h
          obtain rfl := Option.some.inj h
          exact .nil
        · rw [splitArgument_plain hc (not_or.mp hend)] at h
          obtain ⟨b, hb, rfl⟩ := Option.map_eq_some_iff.mp h
          exact .plain hc (not_or.mp hend) (houtside b hb)
    · by_cases hclose : c = q
      · subst hclose
        rw [splitArgument_close hq] at h
        obtain ⟨b, hb, rfl⟩ := Option.map_eq_some_iff.mp h
        exact .close (houtside b hb)
      · by_cases hslash : c = '\\' → q = Go.rawQuote
        · rw [splitArgument_inside hclose hslash] at h
          obtain ⟨b, hb, rfl⟩ := Option.map_eq_some_iff.mp h
          exact ((hinside q hq b).1 hb).plain hclose hslash
        · obtain ⟨rfl, hraw⟩ := Classical.not_imp.mp hslash
          rw [splitArgument_backslash hraw] at h
          obtain ⟨b, hb, rfl⟩ := Option.map_eq_some_iff.mp h
          obtain ⟨d, t, htext, ht⟩ := (hinside q hq b).2 hb
          have hresumes := ht.escaped (c := d) hraw
          rwa [← htext] at hresumes
    · rw [splitArgument_escaped] at h
      obtain ⟨b, hb, rfl⟩ := Option.map_eq_some_iff.mp h
      exact ⟨c, b.text, rfl, (hinside q hq b).1 hb⟩

lemma unbroken_of_splitArgument (h : splitArgument none false s = some a) : Unbroken a.text :=
  (splitArgument_text s).1 a h

lemma Unbroken.of_cons (hc : c ∉ quotes) (h : Unbroken (c :: s)) : Unbroken s := by
  cases h with
  | plain _ _ hs => exact hs
  | quoted hq _ _ => exact absurd hq hc

lemma plain_of_isBlank (hc : isBlank c = true) : c ∉ quotes ∧ c ≠ ',' ∧ c ≠ ')' := by
  refine ⟨fun hmem => ?_, ?_, ?_⟩
  · have hall : ∀ q ∈ quotes, isBlank q = false := by decide
    rw [hall c hmem] at hc
    cases hc
  all_goals
    rintro rfl
    exact absurd hc (by decide)

lemma Unbroken.trimStart (h : Unbroken s) : Unbroken (trimStart s) := by
  induction s with
  | nil => exact h
  | cons c s ih =>
    by_cases hc : isBlank c = true
    · rw [Text.trimStart, List.dropWhile_cons_of_pos hc]
      exact ih (h.of_cons (plain_of_isBlank hc).1)
    · rwa [Text.trimStart, List.dropWhile_cons_of_neg hc]

lemma Unbroken.blanks_append {gap : List Char} (hgap : ∀ c ∈ gap, isBlank c = true)
    (h : Unbroken s) : Unbroken (gap ++ s) := by
  induction gap with
  | nil => exact h
  | cons c gap ih =>
    obtain ⟨hc, hgap⟩ := List.forall_mem_cons.mp hgap
    obtain ⟨hquote, hend⟩ := plain_of_isBlank hc
    exact .plain hquote hend (ih hgap)

end Splitting

end Routewright.Decorator
