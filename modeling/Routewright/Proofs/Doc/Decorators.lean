import Routewright.Proofs.Doc.Calls
import Routewright.Proofs.Go.Quoting

namespace Routewright.Decorator

open Text

def text (d : Decorator) : String :=
  "@" ++ d.name ++ "(" ++ ", ".intercalate (d.args.map Go.quote) ++ ")"

def sources : List String → List (List Char)
  | [] => []
  | a :: args => Go.quoteChars a.toList :: args.map fun b => ' ' :: Go.quoteChars b.toList

def layout (d : Decorator) : Layout :=
  ⟨d.name, sources d.args⟩

section Writing

variable {d : Decorator} {args : List String} {s t : List Char}

lemma Enclosed.append {q : Char} (hs : Enclosed q s) (ht : Enclosed q t) : Enclosed q (s ++ t) := by
  induction hs with
  | nil => exact ht
  | plain hq hc _ ih => exact .plain hq hc ih
  | escaped hq _ ih => exact .escaped hq ih

lemma enclosed_of_plain (h : ∀ c ∈ s, Go.isPlainChar c = true) : Enclosed Go.stringQuote s := by
  induction s with
  | nil => exact .nil
  | cons c s ih =>
    obtain ⟨hc, hs⟩ := List.forall_mem_cons.mp h
    obtain ⟨hquote, hslash, -⟩ := Go.ne_of_isPlainChar hc
    exact .plain hquote (fun heq => absurd heq hslash) (ih hs)

lemma enclosed_quoteChar (c : Char) : Enclosed Go.stringQuote (Go.quoteChar c) := by
  have hraw : Go.stringQuote ≠ Go.rawQuote := by
    decide
  rcases Go.quoteChar_cases c with ⟨hplain, hc⟩ | ⟨d, -, -, hc⟩ | ⟨-, hc⟩ <;> rw [hc]
  · exact enclosed_of_plain (by simpa using hplain)
  · exact .escaped hraw .nil
  · exact .escaped hraw (enclosed_of_plain fun d hd => (Go.mem_fourHexDigits hd).2)

lemma enclosed_flatMap_quoteChar (s : List Char) :
    Enclosed Go.stringQuote (s.flatMap Go.quoteChar) := by
  induction s with
  | nil => exact .nil
  | cons c s ih =>
    rw [List.flatMap_cons]
    exact (enclosed_quoteChar c).append ih

lemma unbroken_quoteChars (s : List Char) : Unbroken (Go.quoteChars s) :=
  .quoted (by decide) (enclosed_flatMap_quoteChar s) .nil

lemma unbroken_sources : ∀ x ∈ sources args, Unbroken x := by
  cases args with
  | nil => simp [sources]
  | cons a args =>
    refine List.forall_mem_cons.mpr ⟨unbroken_quoteChars _, List.forall_mem_map.mpr fun b _ => ?_⟩
    have hblank : ∀ c ∈ [' '], isBlank c = true := by
      decide
    exact (unbroken_quoteChars b.toList).blanks_append hblank

lemma intercalate_comma_blank (x : List Char) (ys : List (List Char)) :
    [','].intercalate (x :: ys.map (' ' :: ·)) = [',', ' '].intercalate (x :: ys) := by
  induction ys generalizing x with
  | nil => rfl
  | cons y ys ih =>
    have hblank : [','].intercalate ((' ' :: y) :: ys.map (' ' :: ·)) =
        ' ' :: [','].intercalate (y :: ys.map (' ' :: ·)) := by
      cases ys <;> simp [List.intercalate_cons_cons]
    rw [List.map_cons, List.intercalate_cons_cons, List.intercalate_cons_cons, hblank, ih]
    simp

lemma toList_args (args : List String) :
    (", ".intercalate (args.map Go.quote)).toList = [','].intercalate (sources args) := by
  rw [String.toList_intercalate, List.map_map]
  cases args with
  | nil => rfl
  | cons a args =>
    have hcomma := intercalate_comma_blank (Go.quoteChars a.toList)
      (args.map fun b => Go.quoteChars b.toList)
    rw [List.map_map] at hcomma
    rw [sources]
    refine Eq.trans ?_ hcomma.symm
    simp [Function.comp_def, Go.toList_quote]

lemma toList_text (d : Decorator) : d.text.toList =
    '@' :: (d.name.toList ++ [] ++ '(' :: ([','].intercalate (sources d.args) ++ [')'])) := by
  rw [text, String.toList_append, String.toList_append, toList_args]
  simp

lemma lists_sources (args : List String) :
    Layout.Lists (sources args) ([','].intercalate (sources args)) := by
  cases args with
  | nil => exact .none (by simp [sources])
  | cons a args =>
    refine .some unbroken_sources ⟨Go.stringQuote, ?_, by decide⟩
    exact mem_intercalate_of_mem (x := Go.quoteChars a.toList) List.mem_cons_self
      List.mem_cons_self

lemma layout_spans (hd : d.name ∈ knownNames) {gap : List Char}
    (hgap : ∀ c ∈ gap, isBlank c = true) : d.layout.Spans
      (d.name.toList ++ gap ++ '(' :: ([','].intercalate (sources d.args) ++ [')'])) :=
  .intro hd hgap (lists_sources d.args)

lemma argument_quoteChars (name a : String) (gap : List Char)
    (hgap : ∀ c ∈ gap, isBlank c = true) :
    argument name (gap ++ Go.quoteChars a.toList) = .ok a := by
  have htrim : trim (gap ++ Go.quoteChars a.toList) = Go.quoteChars a.toList := by
    rw [trim_blanks_append hgap, Go.quoteChars, Go.trim_quoted]
  have hvalue : literalValue? (Go.quoteChars a.toList) = some a := by
    rw [Go.quoteChars, literalValue?, if_pos (.inl rfl), ← Go.quoteChars,
      Go.unquote?_quoteChars, Option.map_some, String.ofList_toList]
  rw [argument, htrim, hvalue]

lemma layout_decorator (d : Decorator) : d.layout.decorator = .ok d := by
  have hrest : ∀ args : List String,
      (args.map fun b => ' ' :: Go.quoteChars b.toList).mapM (argument d.name) = .ok args := by
    intro args
    induction args with
    | nil => rfl
    | cons b args ih =>
      have hb := argument_quoteChars d.name b [' '] (by decide)
      rw [List.singleton_append] at hb
      rw [List.map_cons, List.mapM_cons, hb, ih]
      rfl
  rw [Layout.decorator, layout]
  dsimp only
  obtain ⟨name, args⟩ := d
  cases args with
  | nil => rfl
  | cons a args =>
    have ha := argument_quoteChars name a [] (by simp)
    rw [List.nil_append] at ha
    rw [sources, List.mapM_cons, ha, hrest]
    rfl

lemma fills_text {items : List (String × Decorator)} {last : List Char}
    (hlast : ∀ c ∈ last, isBlank c = true)
    (h : ∀ item ∈ items, isBlankText item.1 = true ∧ item.2.name ∈ knownNames) :
    Layout.Fills (items.map fun item => item.2.layout)
      ((String.join (items.map fun item => item.1 ++ item.2.text)).toList ++ last) := by
  induction items with
  | nil => exact .nil hlast
  | cons item items ih =>
    obtain ⟨⟨hgap, hname⟩, hitems⟩ := List.forall_mem_cons.mp h
    have htext : (String.join ((item :: items).map fun item => item.1 ++ item.2.text)).toList ++
        last = item.1.toList ++ '@' :: (item.2.name.toList ++ [] ++
          '(' :: ([','].intercalate (sources item.2.args) ++ [')']) ++
            ((String.join (items.map fun item => item.1 ++ item.2.text)).toList ++ last)) := by
      rw [List.map_cons, String.join_cons, String.toList_append, String.toList_append, toList_text]
      simp
    rw [htext]
    exact .cons (List.all_eq_true.mp hgap) (layout_spans hname (by simp)) (ih hitems)

lemma mapM_layout (ds : List Decorator) : (ds.map layout).mapM Layout.decorator = .ok ds := by
  induction ds with
  | nil => rfl
  | cons d ds ih =>
    rw [List.map_cons, List.mapM_cons, layout_decorator, ih]
    rfl

lemma ofLine_join (items : List (String × Decorator)) (last : String)
    (hlast : isBlankText last = true)
    (h : ∀ item ∈ items, isBlankText item.1 = true ∧ item.2.name ∈ knownNames) :
    ofLine (String.join (items.map fun item => item.1 ++ item.2.text) ++ last) =
      .ok (items.map Prod.snd) := by
  have hfills := fills_text (List.all_eq_true.mp hlast) h
  rw [← String.toList_append] at hfills
  have hread := mapM_layout (items.map Prod.snd)
  rw [List.map_map] at hread
  rw [hfills.ofLine_eq]
  exact hread

lemma ofLine_text (hd : d.name ∈ knownNames) : ofLine d.text = .ok [d] := by
  have hline := ofLine_join [("", d)] "" (by decide) (by simpa using ⟨rfl, hd⟩)
  rwa [List.map_singleton, String.join_cons, String.join_nil, String.append_empty,
    String.append_empty, String.empty_append] at hline

end Writing

section Entries

variable {c : Layout} {cs cs' : List Layout} {s t : List Char}

lemma Layout.Fills.blanks_append {gap : List Char} (hgap : ∀ c ∈ gap, isBlank c = true)
    (h : Fills cs s) : Fills cs (gap ++ s) := by
  cases h with
  | nil hs => exact .nil (List.forall_mem_append.mpr ⟨hgap, hs⟩)
  | cons hs hcall hr =>
    rw [← List.append_assoc]
    exact .cons (List.forall_mem_append.mpr ⟨hgap, hs⟩) hcall hr

lemma Layout.Fills.append (hs : Fills cs s) (ht : Fills cs' t) : Fills (cs ++ cs') (s ++ t) := by
  induction hs with
  | nil hgap => exact ht.blanks_append hgap
  | cons hgap hcall _ ih =>
    rw [List.append_assoc, List.cons_append, List.cons_append, List.append_assoc]
    exact .cons hgap hcall ih

lemma Layout.Spans.fills (h : c.Spans s) (ht : ∀ c ∈ t, isBlank c = true) :
    Fills [c] ('@' :: (s ++ t)) :=
  @Layout.Fills.cons [] _ _ _ _ (by simp) h (.nil ht)

lemma exists_span_of_fills (h : Layout.Fills [c] ('@' :: s)) :
    ∃ u t, c.Spans u ∧ (∀ c ∈ t, isBlank c = true) ∧ s = u ++ t := by
  generalize hline : '@' :: s = line at h
  cases h with
  | @cons gap u r _ _ hgap hcall hr =>
    cases hr with
    | nil ht =>
      cases gap with
      | nil => exact ⟨u, r, hcall, ht, (List.cons.inj hline).2⟩
      | cons b gap =>
        have hb := hgap b List.mem_cons_self
        rw [← (List.cons.inj hline).1] at hb
        cases hb

lemma ofText_eq_ok_iff {t : String} {d : Decorator} :
    ofText t = .ok d ↔ ofLine ("@" ++ t) = .ok [d] := by
  have hline : ("@" ++ t).toList = '@' :: t.toList := by
    rw [String.toList_append]
    rfl
  constructor
  · intro h
    obtain ⟨c, s, r, hs, hr, ht⟩ := exists_call_of_ofText h
    have hfills := hs.fills hr
    rw [← ht, ← hline] at hfills
    rw [ofText_of_call hs hr ht] at h
    rw [hfills.ofLine_eq, List.mapM_cons, h]
    rfl
  · intro h
    have hat : (trimStart ("@" ++ t).toList).head? = some '@' := head_of_ofLine h (by simp)
    obtain ⟨cs, hcs⟩ := exists_calls_of_ofLine h hat
    rw [hcs.ofLine_eq] at h
    cases cs with
    | nil => cases h
    | cons c cs =>
      rw [List.mapM_cons] at h
      obtain ⟨e, he, h⟩ := except_bind_eq_ok_iff.mp h
      obtain ⟨es, hes, h⟩ := except_bind_eq_ok_iff.mp h
      obtain ⟨rfl, rfl⟩ := List.cons.inj (Except.ok.inj h)
      cases cs with
      | nil =>
        rw [hline] at hcs
        obtain ⟨u, r, hu, hr, ht⟩ := exists_span_of_fills hcs
        rw [ofText_of_call hu hr ht, he]
      | cons c' cs =>
        rw [List.mapM_cons] at hes
        obtain ⟨e', -, hes⟩ := except_bind_eq_ok_iff.mp hes
        obtain ⟨es', -, hes⟩ := except_bind_eq_ok_iff.mp hes
        cases hes

lemma ofLine_append {line line' : String} {ds ds' : List Decorator}
    (hat : (trimStart line.toList).head? = some '@')
    (hat' : (trimStart line'.toList).head? = some '@') (h : ofLine line = .ok ds)
    (h' : ofLine line' = .ok ds') : ofLine (line ++ " " ++ line') = .ok (ds ++ ds') := by
  obtain ⟨cs, hcs⟩ := exists_calls_of_ofLine h hat
  obtain ⟨cs', hcs'⟩ := exists_calls_of_ofLine h' hat'
  have hboth : Layout.Fills (cs ++ cs') (line ++ " " ++ line').toList := by
    rw [String.toList_append, String.toList_append, List.append_assoc]
    exact hcs.append (hcs'.blanks_append (by decide))
  rw [hcs.ofLine_eq] at h
  rw [hcs'.ofLine_eq] at h'
  rw [hboth.ofLine_eq, List.mapM_append, h, h']
  rfl

end Entries

theorem ofLine_decodes :
    (∀ (items : List (String × Decorator)) (last : String), isBlankText last = true →
      (∀ item ∈ items, isBlankText item.1 = true ∧ item.2.name = "path") →
        ofLine (String.join (items.map fun item => item.1 ++ item.2.text) ++ last) =
          .ok (items.map Prod.snd)) ∧
      (∀ (t : String) (d : Decorator), ofText t = .ok d ↔ ofLine ("@" ++ t) = .ok [d]) ∧
        ∀ (line line' : String) (ds ds' : List Decorator),
          (trimStart line.toList).head? = some '@' → (trimStart line'.toList).head? = some '@' →
            ofLine line = .ok ds → ofLine line' = .ok ds' →
              ofLine (line ++ " " ++ line') = .ok (ds ++ ds') := by
  refine ⟨fun items last hlast hitems => ofLine_join items last hlast fun item hitem => ?_,
    fun _ _ => ofText_eq_ok_iff, fun _ _ _ _ => ofLine_append⟩
  exact ⟨(hitems item hitem).1, List.mem_singleton.mpr (hitems item hitem).2⟩

theorem ofLine_decodes_separators :
    ofLine "@path(\"GET, (@x)\", \"\\\"\\\\\") \t@path()" =
        .ok [⟨"path", ["GET, (@x)", "\"\\"]⟩, ⟨"path", []⟩] ∧
      ofText "path(\")\")" = .ok ⟨"path", [")"]⟩ ∧
        ofLine ("@path(\")\")" ++ " " ++ "@path()") = .ok [⟨"path", [")"]⟩, ⟨"path", []⟩] := by
  have hfirst := ofLine_decodes.1
    [("", ⟨"path", ["GET, (@x)", "\"\\"]⟩), (" \t", ⟨"path", []⟩)] "" (by decide) (by decide)
  have hline := ofLine_decodes.1 [("", ⟨"path", [")"]⟩)] "" (by decide) (by decide)
  have hempty := ofLine_decodes.1 [("", ⟨"path", []⟩)] "" (by decide) (by decide)
  exact ⟨hfirst, (ofLine_decodes.2.1 "path(\")\")" _).mpr hline,
    ofLine_decodes.2.2 "@path(\")\")" "@path()" _ _ (by decide) (by decide) hline hempty⟩

end Routewright.Decorator
