import Routewright.Proofs.Doc.Sources
import Routewright.Proofs.Except
import Routewright.Proofs.Text.Ascii
import Routewright.Proofs.Text.Pieces

namespace Routewright.Decorator

open Text

section Layout

structure Layout where
  name : String
  sources : List (List Char)

inductive Layout.Lists : List (List Char) → List Char → Prop
  | none {gap : List Char} (hgap : ∀ c ∈ gap, isBlank c = true) : Lists [] gap
  | some {sources : List (List Char)} (hs : ∀ x ∈ sources, Unbroken x)
      (hfull : ∃ c ∈ [','].intercalate sources, isBlank c = false) :
      Lists sources ([','].intercalate sources)

inductive Layout.Spans (c : Layout) : List Char → Prop
  | intro {gap s : List Char} (hname : c.name ∈ knownNames)
      (hgap : ∀ c ∈ gap, isBlank c = true) (hs : Lists c.sources s) :
      c.Spans (c.name.toList ++ gap ++ '(' :: (s ++ [')']))

inductive Layout.Fills : List Layout → List Char → Prop
  | nil {gap : List Char} (hgap : ∀ c ∈ gap, isBlank c = true) : Fills [] gap
  | cons {gap s r : List Char} {c : Layout} {cs : List Layout}
      (hgap : ∀ c ∈ gap, isBlank c = true) (hs : c.Spans s) (hr : Fills cs r) :
      Fills (c :: cs) (gap ++ '@' :: (s ++ r))

def argument (name : String) (source : List Char) : Except DecoratorIssue String :=
  match literalValue? (trim source) with
  | none => .error (.notLiteral (.ofList (trim source)) name)
  | some value => .ok value

def Layout.decorator (c : Layout) : Except DecoratorIssue Decorator :=
  (c.sources.mapM (argument c.name)).map fun values => ⟨c.name, values⟩

end Layout

section Reading

variable {call : Call} {source : String} {s t : List Char} {d : Decorator}

lemma exists_gap (s : List Char) :
    ∃ gap, (∀ c ∈ gap, isBlank c = true) ∧ s = gap ++ trimStart s :=
  ⟨s.takeWhile isBlank, fun _ hc => List.mem_takeWhile_imp hc,
    (List.takeWhile_append_dropWhile).symm⟩

lemma readArgs_of_split {a : RawArgument} (h : splitArgument none false (trimStart s) = some a) :
    readArgs call s = (argument call.name a.text).bind fun value =>
      if a.more then readArgs { call with args := value :: call.args } a.rest
      else .ok (Call.finish { call with args := value :: call.args }, a.rest) := by
  rw [readArgs]
  split
  · rename_i hnone
    rw [h] at hnone
    cases hnone
  · rename_i b hb
    rw [h] at hb
    obtain rfl := Option.some.inj hb
    rw [argument]
    cases literalValue? (trim a.text) <;> rfl

lemma split_source {x : List Char} (hx : Unbroken x) {c : Char} (hc : c = ',' ∨ c = ')')
    (t : List Char) :
    splitArgument none false (trimStart (x ++ c :: t)) = some ⟨trimStart x, c == ',', t⟩ := by
  have hblank : isBlank c = false := by
    rcases hc with rfl | rfl <;> decide
  have hquote : ¬(c = Go.stringQuote ∨ c = Go.runeQuote ∨ c = Go.rawQuote) := by
    rcases hc with rfl | rfl <;> decide
  rw [trimStart_append_cons hblank, hx.trimStart.splitArgument_append, splitArgument]
  dsimp only
  rw [if_neg hquote, if_pos hc, Option.map_some, RawArgument.extend, List.append_nil]

lemma argument_trimStart (name : String) (x : List Char) :
    argument name (trimStart x) = argument name x := by
  rw [argument, argument, trim_trimStart]

lemma readArgs_intercalate {sources : List (List Char)} (hne : sources ≠ [])
    (hs : ∀ x ∈ sources, Unbroken x) (call : Call) (t : List Char) :
    readArgs call ([','].intercalate sources ++ ')' :: t) =
      (sources.mapM (argument call.name)).map fun values =>
        (⟨call.name, call.args.reverse ++ values⟩, t) := by
  -- For all calls at once: the arguments that were read stand in the call.
  induction sources generalizing call with
  | nil => exact absurd rfl hne
  | cons x rest ih =>
    obtain ⟨hx, hrest⟩ := List.forall_mem_cons.mp hs
    cases rest with
    | nil =>
      rw [List.intercalate_singleton, readArgs_of_split (split_source hx (.inr rfl) t),
        List.mapM_cons, argument_trimStart]
      cases argument call.name x with
      | error issue => rfl
      | ok value => simp [Except.map, Except.bind, bind, pure, Except.pure, Call.finish]
    | cons y rest =>
      rw [List.intercalate_cons_cons, List.append_assoc, List.append_assoc, List.singleton_append,
        readArgs_of_split (split_source hx (.inl rfl) _), List.mapM_cons, argument_trimStart]
      cases hvalue : argument call.name x with
      | error issue => rfl
      | ok value =>
        have hread := ih (by simp) hrest { call with args := value :: call.args }
        simp only [Except.bind, beq_self_eq_true, if_true, hread]
        cases (y :: rest).mapM (argument call.name) with
        | error issue => rfl
        | ok values => simp [Except.map, bind, Except.bind, pure, Except.pure]

lemma exists_sources_of_readArgs {d : Decorator} (h : readArgs call s = .ok (d, t)) :
    ∃ sources, sources ≠ [] ∧ (∀ x ∈ sources, Unbroken x) ∧
      s = [','].intercalate sources ++ ')' :: t := by
  -- The induction is on the length: behind a comma, reading goes on with what is left.
  induction hn : s.length using Nat.strongRecOn generalizing call s with
  | ind n ih =>
    subst hn
    cases ha : splitArgument none false (trimStart s) with
    | none =>
      rw [readArgs] at h
      split at h
      · cases h
      · rename_i a hsome
        rw [ha] at hsome
        cases hsome
    | some a =>
      rw [readArgs_of_split ha] at h
      obtain ⟨value, -, h⟩ := except_bind_eq_ok_iff.mp h
      have hsource : Unbroken (s.takeWhile isBlank ++ a.text) :=
        (unbroken_of_splitArgument ha).blanks_append fun c hc => List.mem_takeWhile_imp hc
      have htext : s = s.takeWhile isBlank ++ a.text ++
          (if a.more then ',' else ')') :: a.rest := by
        rw [List.append_assoc, ← splitArgument_eq ha]
        exact (List.takeWhile_append_dropWhile).symm
      by_cases hmore : a.more = true
      · rw [if_pos hmore] at h htext
        obtain ⟨sources, hne, hall, hrest⟩ := ih _ (length_rest_lt ha) h rfl
        refine ⟨_ :: sources, by simp, List.forall_mem_cons.mpr ⟨hsource, hall⟩, ?_⟩
        rw [List.intercalate_cons_of_ne_nil hne, List.append_assoc, List.append_assoc, ← hrest]
        exact htext
      · rw [if_neg hmore] at h htext
        obtain ⟨-, rfl⟩ := Prod.mk.inj (Except.ok.inj h)
        exact ⟨[_], by simp, by simpa using hsource, by rwa [List.intercalate_singleton]⟩

lemma isNameChar_of_mem_knownNames {name : String} (h : name ∈ knownNames) :
    name ≠ "" ∧ name.toList.head?.any Char.isDigit = false ∧ '.' ∉ name.toList ∧
      ∀ c ∈ name.toList, isNameChar c = true := by
  obtain rfl := List.mem_singleton.mp h
  decide +kernel

lemma not_isNameChar_of_isBlank {c : Char} (hc : isBlank c = true) : isNameChar c = false := by
  rw [isNameChar, Bool.or_eq_false_iff, Bool.or_eq_false_iff]
  refine ⟨⟨?_, ?_⟩, ?_⟩
  · by_contra hletter
    rw [not_isBlank_of_isAlphanumeric (by simpa using hletter)] at hc
    cases hc
  all_goals
    refine beq_false_of_ne ?_
    rintro rfl
    exact absurd hc (by decide)

lemma span_name {name : String} (h : name ∈ knownNames) {gap : List Char}
    (hgap : ∀ c ∈ gap, isBlank c = true) (s : List Char) :
    (name.toList ++ gap ++ '(' :: s).takeWhile isNameChar = name.toList ∧
      (name.toList ++ gap ++ '(' :: s).dropWhile isNameChar = gap ++ '(' :: s := by
  have hname := (isNameChar_of_mem_knownNames h).2.2.2
  have hparen : isNameChar '(' = false := by
    decide +kernel
  rw [List.append_assoc]
  cases gap with
  | nil => exact ⟨takeWhile_append_cons '(' hname hparen s, dropWhile_append_cons '(' hname hparen s⟩
  | cons c gap =>
    have hc := not_isNameChar_of_isBlank (hgap c List.mem_cons_self)
    exact ⟨takeWhile_append_cons c hname hc _, dropWhile_append_cons c hname hc _⟩

lemma read_of_name {name : String} (h : name ∈ knownNames) {gap : List Char}
    (hgap : ∀ c ∈ gap, isBlank c = true) (source : String) (s : List Char) :
    read source (name.toList ++ gap ++ '(' :: s) =
      match trimStart s with
      | ')' :: t => .ok (⟨name, []⟩, t)
      | t => readArgs ⟨name, trimmed source, []⟩ t := by
  obtain ⟨hne, hdigit, hdot, -⟩ := isNameChar_of_mem_knownNames h
  obtain ⟨htake, hdrop⟩ := span_name h hgap s
  have hparen : trimStart (gap ++ '(' :: s) = '(' :: s := by
    rw [trimStart_blanks_append hgap, trimStart, List.dropWhile_cons_of_neg (by decide)]
  rw [read]
  simp only [htake, hdrop, hparen, String.ofList_toList]
  rw [if_neg (by simp [hne, hdigit])]
  exact if_neg (by simp [hdot, h])

lemma readArgs_trimStart (call : Call) (s : List Char) :
    readArgs call (trimStart s) = readArgs call s := by
  cases ha : splitArgument none false (trimStart s) with
  | none =>
    rw [readArgs, readArgs]
    split
    · split
      · rfl
      · rename_i hsome
        rw [ha] at hsome
        cases hsome
    · rename_i hsome
      rw [trimStart_trimStart, ha] at hsome
      cases hsome
  | some a =>
    have hagain := ha
    rw [← trimStart_trimStart] at hagain
    rw [readArgs_of_split ha, readArgs_of_split hagain]

lemma Unbroken.head_ne {c : Char} (h : Unbroken (c :: s)) : c ≠ ')' := by
  cases h with
  | plain _ hend _ => exact hend.2
  | quoted hq _ _ =>
    rintro rfl
    exact absurd hq (by decide)

lemma head_trimStart_ne {sources : List (List Char)} (hs : ∀ x ∈ sources, Unbroken x)
    (hfull : ∃ c ∈ [','].intercalate sources, isBlank c = false) (t u : List Char) :
    trimStart ([','].intercalate sources ++ ')' :: t) ≠ ')' :: u := by
  cases sources with
  | nil => simp at hfull
  | cons x rest =>
    obtain ⟨hx, -⟩ := List.forall_mem_cons.mp hs
    obtain ⟨c, r, htext, hc, hblank⟩ : ∃ c r, [','].intercalate (x :: rest) ++ ')' :: t =
        x ++ c :: r ∧ isBlank c = false ∧ (c = ')' → trimStart x ≠ []) := by
      cases rest with
      | nil =>
        rw [List.intercalate_singleton] at hfull ⊢
        refine ⟨')', t, rfl, by decide, fun _ hnil => ?_⟩
        obtain ⟨d, hd, hnot⟩ := hfull
        rw [List.dropWhile_eq_nil_iff.mp hnil d hd] at hnot
        cases hnot
      | cons y rest =>
        rw [List.intercalate_cons_cons, List.append_assoc, List.append_assoc]
        exact ⟨',', _, rfl, by decide, fun hcomma => absurd hcomma (by decide)⟩
    rw [htext, trimStart_append_cons hc]
    cases hstart : trimStart x with
    | nil =>
      intro heq
      exact hblank (List.cons.inj heq).1 hstart
    | cons d v =>
      have hd := hx.trimStart
      rw [hstart] at hd
      intro heq
      exact hd.head_ne (List.cons.inj heq).1

lemma Layout.Spans.read_append {c : Layout} (h : c.Spans s) (source : String) (t : List Char) :
    read source (s ++ t) = c.decorator.map fun d => (d, t) := by
  obtain ⟨name, sources⟩ := c
  cases h with
  | @intro gap inner hname hgap hs =>
    have htext : name.toList ++ gap ++ '(' :: (inner ++ [')']) ++ t =
        name.toList ++ gap ++ '(' :: (inner ++ ')' :: t) := by
      simp
    rw [htext, read_of_name hname hgap]
    cases hs with
    | none hinner =>
      rw [trimStart_blanks_append hinner, trimStart, List.dropWhile_cons_of_neg (by decide)]
      rfl
    | some hs hfull =>
      have hne : sources ≠ [] := by
        rintro rfl
        simp at hfull
      have hhead := head_trimStart_ne hs hfull t
      split
      · rename_i u hu
        exact absurd hu (hhead u)
      · rw [readArgs_trimStart, readArgs_intercalate hne hs, Layout.decorator]
        cases sources.mapM (argument name) <;> rfl

lemma exists_call_of_read (h : read source s = .ok (d, t)) :
    ∃ (c : Layout) (u : List Char), c.Spans u ∧ s = u ++ t := by
  rw [read] at h
  split at h
  · cases h
  · split at h
    · cases h
    · rename_i hknown
      have hname : String.ofList (s.takeWhile isNameChar) ∈ knownNames := by
        simp only [Bool.or_eq_true, not_or, Bool.not_eq_true', Bool.not_eq_false] at hknown
        exact List.contains_iff_mem.mp hknown.2
      split at h
      · rename_i r hr
        obtain ⟨gap, hgap, hbehind⟩ := exists_gap (s.dropWhile isNameChar)
        obtain ⟨inner, hinner, htext⟩ := exists_gap r
        have hs : s = (String.ofList (s.takeWhile isNameChar)).toList ++ gap ++ '(' :: r := by
          rw [hr] at hbehind
          rw [String.toList_ofList, List.append_assoc, ← hbehind, List.takeWhile_append_dropWhile]
        split at h
        · rename_i u hu
          obtain ⟨-, rfl⟩ := Prod.mk.inj (Except.ok.inj h)
          rw [hu] at htext
          refine ⟨⟨.ofList (s.takeWhile isNameChar), []⟩, _, .intro hname hgap (.none hinner), hs.trans ?_⟩
          rw [htext]
          simp only [List.append_assoc, List.cons_append, List.nil_append]
        · rename_i hopen
          rw [readArgs_trimStart] at h
          obtain ⟨sources, -, hsources, hr⟩ := exists_sources_of_readArgs h
          have hfull : ∃ c ∈ [','].intercalate sources, isBlank c = false := by
            by_contra hblank
            refine hopen t ?_
            rw [hr, trimStart_blanks_append fun c hc => ?_, trimStart,
              List.dropWhile_cons_of_neg (by decide)]
            by_contra hnot
            exact hblank ⟨c, hc, by simpa using hnot⟩
          refine ⟨⟨.ofList (s.takeWhile isNameChar), sources⟩, _,
            .intro hname hgap (.some hsources hfull), hs.trans ?_⟩
          rw [hr]
          simp only [List.append_assoc, List.cons_append, List.nil_append]
      · cases h

end Reading

section Lines

variable {c : Layout} {cs : List Layout} {d : Decorator} {ds : List Decorator}
  {source line text : String} {s t : List Char}

lemma trimStart_call {gap : List Char} (hgap : ∀ c ∈ gap, isBlank c = true) (s : List Char) :
    trimStart (gap ++ '@' :: s) = '@' :: s := by
  rw [trimStart_blanks_append hgap, trimStart, List.dropWhile_cons_of_neg (by decide)]

lemma readAll_of_call (hs : c.Spans s) (source : String) (t : List Char) :
    readAll source ('@' :: (s ++ t)) =
      c.decorator.bind fun d => (readAll source (trimStart t)).map (d :: ·) := by
  have hread := hs.read_append source t
  rw [readAll]
  split
  · rename_i issue herror
    rw [hread, except_map_eq_error_iff] at herror
    rw [herror]
    rfl
  · rename_i d u hok
    rw [hread, except_map_eq_ok_iff] at hok
    obtain ⟨e, he, heq⟩ := hok
    obtain ⟨rfl, rfl⟩ := Prod.mk.inj heq
    rw [he]
    rfl

lemma Layout.Fills.readAll_eq (h : Fills cs s) (source : String) :
    readAll source (trimStart s) = cs.mapM decorator := by
  induction h with
  | nil hgap =>
    rw [trimStart_of_blanks hgap, readAll]
    rfl
  | @cons gap s r c cs hgap hs _ ih =>
    rw [trimStart_call hgap, readAll_of_call hs, ih, List.mapM_cons]
    cases c.decorator with
    | error issue => rfl
    | ok d => cases cs.mapM decorator <;> rfl

lemma exists_calls_of_readAll (h : readAll source (trimStart s) = .ok ds) :
    ∃ cs, Layout.Fills cs s := by
  induction hn : s.length using Nat.strongRecOn generalizing s ds with
  | ind n ih =>
    subst hn
    obtain ⟨gap, hgap, hs⟩ := exists_gap s
    cases hstart : trimStart s with
    | nil => exact ⟨[], .nil (blanks_of_trimStart hstart)⟩
    | cons c r =>
      rw [hstart] at h hs
      by_cases hc : c = '@'
      · subst hc
        rw [readAll] at h
        split at h
        · cases h
        · rename_i d t hread
          obtain ⟨call, u, hcall, rfl⟩ := exists_call_of_read hread
          obtain ⟨rest, hrest, -⟩ := except_map_eq_ok_iff.mp h
          have hlt : t.length < s.length := by
            rw [hs, List.length_append, List.length_cons, List.length_append]
            omega
          obtain ⟨calls, hcalls⟩ := ih t.length hlt hrest rfl
          rw [hs]
          exact ⟨call :: calls, .cons hgap hcall hcalls⟩
      · unfold readAll at h
        split at h
        · rename_i hnil
          cases hnil
        · rename_i hat
          exact absurd (List.cons.inj hat).1 hc
        · cases h

lemma Layout.Fills.start (h : Fills cs s) :
    (cs = [] ∧ trimStart s = []) ∨ ∃ r, trimStart s = '@' :: r := by
  cases h with
  | nil hgap => exact .inl ⟨rfl, trimStart_of_blanks hgap⟩
  | cons hgap _ _ => exact .inr ⟨_, trimStart_call hgap _⟩

lemma Layout.Fills.ofLine_eq (h : Fills cs line.toList) : ofLine line = cs.mapM decorator := by
  rw [ofLine]
  rcases h.start with ⟨rfl, hnil⟩ | ⟨r, hr⟩
  · rw [hnil]
    rfl
  · have hread := h.readAll_eq line
    rw [hr] at hread ⊢
    exact hread

lemma exists_calls_of_ofLine (h : ofLine line = .ok ds)
    (hat : (trimStart line.toList).head? = some '@') : ∃ cs, Layout.Fills cs line.toList := by
  rw [ofLine] at h
  split at h
  · rename_i r hr
    rw [← hr] at h
    exact exists_calls_of_readAll h
  · rename_i hother
    obtain ⟨r, hr⟩ := List.head?_eq_some_iff.mp hat
    exact absurd hr (hother r)

lemma head_of_ofLine (h : ofLine line = .ok ds) (hne : ds ≠ []) :
    (trimStart line.toList).head? = some '@' := by
  rw [ofLine] at h
  split at h
  · rename_i r hr
    rw [hr]
    rfl
  · exact absurd (Except.ok.inj h).symm hne

lemma ofText_of_call (hs : c.Spans s) (ht : ∀ c ∈ t, isBlank c = true)
    (htext : text.toList = s ++ t) : ofText text = c.decorator := by
  have hread := hs.read_append text t
  rw [ofText, htext, hread]
  cases c.decorator with
  | error issue => rfl
  | ok d => simp only [Except.map, trimStart_of_blanks ht]

lemma exists_call_of_ofText (h : ofText text = .ok d) :
    ∃ (c : Layout) (s t : List Char), c.Spans s ∧ (∀ c ∈ t, isBlank c = true) ∧
      text.toList = s ++ t := by
  rw [ofText] at h
  split at h
  · cases h
  · rename_i e t hread
    obtain ⟨call, s, hs, htext⟩ := exists_call_of_read hread
    split at h
    · rename_i ht
      exact ⟨call, s, t, hs, blanks_of_trimStart ht, htext⟩
    · cases h

end Lines

end Routewright.Decorator
