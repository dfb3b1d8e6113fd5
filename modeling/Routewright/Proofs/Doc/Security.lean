import Routewright.Proofs.Dict
import Routewright.Proofs.Doc.Attributes

namespace Routewright

lemma Dict.ofList_entries {α : Type} (d : Dict α) : ofList d.entries = d := by
  have hfold : ∀ (l : List (String × α)) (e : Dict α),
      (e.entries ++ l).Pairwise (·.1 < ·.1) →
        (l.foldl (fun d x => d.insert x.1 x.2) e).entries = e.entries ++ l := by
    intro l
    induction l with
    | nil => simp
    | cons x l ih =>
      intro e h
      have hlt : ∀ y ∈ e.entries, y.1 < x.1 := fun y hy =>
        (List.pairwise_append.mp h).2.2 y hy x List.mem_cons_self
      have hinsert : (e.insert x.1 x.2).entries = e.entries ++ [x] :=
        upsert_of_forall_lt hlt x.2
      rw [List.foldl_cons, ih _ (by rwa [hinsert, List.append_assoc]), hinsert, List.append_assoc]
      rfl
  exact Dict.ext (hfold d.entries ∅ d.sorted)

namespace Attribute

open Text

lemma not_isSchemeChar_signs : ∀ c ∈ "[|&".toList, isSchemeChar c = false := by
  have hascii : ∀ c ∈ "[|&".toList, c.toNat < 128 ∧
      (c.isAlphanum || c == '_' || c == '.' || c == '-') = false := by
    decide
  intro c hc
  rw [isSchemeChar, isWord_of_ascii (hascii c hc).1]
  exact (hascii c hc).2

lemma not_isBlank_of_isSchemeChar {c : Char} (h : isSchemeChar c = true) : isBlank c = false := by
  simp only [isSchemeChar, Bool.or_eq_true, beq_iff_eq] at h
  rcases h with (h | rfl) | rfl
  · exact not_isBlank_of_isWord h
  · decide
  · decide

section Scheme

variable {s : String × List String}

lemma IsScheme.isField (h : IsScheme s) : IsField s.1.toList :=
  ⟨by simpa using h.name_ne, fun c hc => not_isBlank_of_isSchemeChar (h.name c hc)⟩

lemma toList_schemeText_of_nil (hs : s.2 = []) : (schemeText s).toList = s.1.toList := by
  rw [schemeText, if_pos hs]

lemma toList_schemeText_of_ne_nil (hs : s.2 ≠ []) :
    (schemeText s).toList =
      s.1.toList ++ '[' :: ([','].intercalate (s.2.map String.toList) ++ [']']) := by
  rw [schemeText, if_neg hs]
  simp

lemma IsScheme.trim_text (h : IsScheme s) : trim (schemeText s).toList = (schemeText s).toList := by
  by_cases hs : s.2 = []
  · rw [toList_schemeText_of_nil hs, h.isField.trim_eq]
  · have hbetween := trim_between h.isField.trim_eq h.isField.ne_nil (t := [']']) (by decide)
      (by simp) ('[' :: [','].intercalate (s.2.map String.toList))
    rwa [List.append_assoc, List.cons_append, ← toList_schemeText_of_ne_nil hs] at hbetween

lemma IsScheme.text_ne_nil (h : IsScheme s) : (schemeText s).toList ≠ [] := by
  by_cases hs : s.2 = []
  · rw [toList_schemeText_of_nil hs]
    exact h.isField.ne_nil
  · rw [toList_schemeText_of_ne_nil hs]
    simp

lemma scheme?_eq (s : List Char) :
    scheme? s =
      if (s.takeWhile isSchemeChar).isEmpty then none
      else
        match s.dropWhile isSchemeChar with
        | [] => some (.ofList (s.takeWhile isSchemeChar), [])
        | '[' :: r =>
          if r.getLast? = some ']' ∧ ¬ r.dropLast.contains ']' then
            some (.ofList (s.takeWhile isSchemeChar), (commaList r.dropLast).map String.ofList)
          else none
        | _ => none :=
  rfl

lemma scheme?_text (h : IsScheme s) : scheme? (schemeText s).toList = some s := by
  have hne : s.1.toList.isEmpty = false := by
    simpa using h.name_ne
  by_cases hs : s.2 = []
  · have htake := List.takeWhile_eq_self_iff.mpr h.name
    have hdrop := List.dropWhile_eq_nil_iff.mpr h.name
    rw [toList_schemeText_of_nil hs, scheme?_eq]
    simp only [htake, hdrop, hne, Bool.false_eq_true, if_false, String.ofList_toList]
    exact congrArg some (Prod.ext rfl hs.symm)
  · have hbracket : isSchemeChar '[' = false := not_isSchemeChar_signs _ (by decide)
    have htake := takeWhile_append_cons '[' h.name hbracket
      ([','].intercalate (s.2.map String.toList) ++ [']'])
    have hdrop := dropWhile_append_cons '[' h.name hbracket
      ([','].intercalate (s.2.map String.toList) ++ [']'])
    have hclosed : ([','].intercalate (s.2.map String.toList)).contains ']' = false := by
      rw [List.contains_eq_mem, decide_eq_false_iff_not]
      intro hmem
      rcases mem_intercalate hmem with hcomma | ⟨x, hx, hc⟩
      · exact absurd hcomma (by decide)
      · obtain ⟨scope, hscope, rfl⟩ := List.mem_map.mp hx
        exact (h.scopes scope hscope).no_bracket hc
    have hscopes : (commaList ([','].intercalate (s.2.map String.toList))).map String.ofList =
        s.2 := by
      have hitems : ∀ x ∈ s.2.map String.toList, IsItem x :=
        List.forall_mem_map.mpr fun x hx => (h.scopes x hx).toIsItem
      rw [@commaList_intercalate [] (by simp) _ hitems, List.map_map]
      exact List.map_id'' (fun _ => String.ofList_toList) s.2
    rw [toList_schemeText_of_ne_nil hs, scheme?_eq]
    simp only [htake, hdrop, hne, Bool.false_eq_true, if_false, List.getLast?_concat,
      List.dropLast_concat, hclosed, not_false_eq_true, and_self, if_true, String.ofList_toList,
      hscopes]

lemma scheme_of_trim (h : IsScheme s) {piece : List Char}
    (hpiece : trim piece = (schemeText s).toList) : scheme piece = .ok s := by
  rw [scheme, hpiece, scheme?_text h]

lemma contains_pair_schemeText (h : IsScheme s) {sep : Char} (hsep : isSchemeChar sep = false)
    (hother : sep ∉ ['[', ',', ']'])
    (hscopes : ∀ scope ∈ s.2, contains [sep, sep] scope.toList = false) :
    contains [sep, sep] (schemeText s).toList = false := by
  have hname : sep ∉ s.1.toList := fun hmem => by
    rw [h.name sep hmem] at hsep
    cases hsep
  have hfree : contains [sep, sep] s.1.toList = false := by
    have hnone := contains_pair_append_left hname []
    rwa [List.append_nil] at hnone
  simp only [List.mem_cons, List.not_mem_nil, or_false, not_or] at hother
  obtain ⟨hopen, hcomma, hclose⟩ := hother
  by_cases hs : s.2 = []
  · rw [toList_schemeText_of_nil hs, hfree]
  · have hjoined : contains [sep, sep] ([','].intercalate (s.2.map String.toList)) = false :=
      contains_pair_intercalate (by simp) (by simpa using hcomma) (List.forall_mem_map.mpr hscopes)
    rw [toList_schemeText_of_ne_nil hs, contains_pair_append_cons (Ne.symm hopen), hfree,
      contains_pair_append_right (by simpa using hclose), hjoined]
    rfl

end Scheme

section Alternatives

variable {d : Dict (List String)}

lemma toList_alternativeText (d : Dict (List String)) :
    (alternativeText d).toList =
      [' ', '&', '&', ' '].intercalate (d.entries.map fun s => (schemeText s).toList) := by
  rw [alternativeText, String.toList_intercalate, List.map_map]
  rfl

lemma trim_alternativeText (h : IsAlternative d) :
    trim (alternativeText d).toList = (alternativeText d).toList := by
  rw [toList_alternativeText]
  exact trim_intercalate _ (List.forall_mem_map.mpr fun s hs => (h.schemes s hs).text_ne_nil)
    (List.forall_mem_map.mpr fun s hs => (h.schemes s hs).trim_text)

lemma contains_bars_alternativeText (h : IsAlternative d) :
    contains ['|', '|'] (alternativeText d).toList = false := by
  rw [toList_alternativeText]
  refine contains_pair_intercalate (by simp) (by decide) (List.forall_mem_map.mpr fun s hs => ?_)
  exact contains_pair_schemeText (h.schemes s hs) (not_isSchemeChar_signs _ (by decide))
    (by decide) fun scope hscope => ((h.schemes s hs).scopes scope hscope).no_bars

lemma alternative_of_trim (h : IsAlternative d) {piece : List Char}
    (hpiece : trim piece = (alternativeText d).toList) :
    ((splitOnPair '&' piece).mapM scheme).map Dict.ofList = .ok d := by
  obtain ⟨l, r, hl, hr, heq⟩ := exists_eq_append_trim piece
  rw [hpiece, toList_alternativeText] at heq
  have hpieces : (splitOnPair '&' piece).map trim =
      d.entries.map fun s => (schemeText s).toList := by
    rw [heq]
    refine map_trim_splitOnPair (by decide) hl hr (by simpa using h.ne_nil)
      (List.forall_mem_map.mpr fun s hs => (h.schemes s hs).trim_text)
      (List.forall_mem_map.mpr fun s hs => ?_)
    exact contains_pair_schemeText (h.schemes s hs) (not_isSchemeChar_signs _ (by decide))
      (by decide) fun scope hscope => ((h.schemes s hs).scopes scope hscope).no_ampersands
  have hschemes : (splitOnPair '&' piece).mapM scheme = .ok (d.entries.map id) :=
    except_mapM_eq_ok trim (fun s => (schemeText s).toList) id hpieces
      fun piece s hs => scheme_of_trim (h.schemes s hs)
  rw [hschemes, List.map_id]
  exact congrArg Except.ok d.ofList_entries

variable {alternatives : List (Dict (List String))}

lemma toList_securityText (alternatives : List (Dict (List String))) :
    (securityText alternatives).toList =
      [' ', '|', '|', ' '].intercalate
        (alternatives.map fun d => (alternativeText d).toList) := by
  rw [securityText, String.toList_intercalate, List.map_map]
  rfl

lemma security_text (hne : alternatives ≠ []) (h : ∀ d ∈ alternatives, IsAlternative d) :
    security (securityText alternatives).toList = .ok alternatives := by
  have hpieces : (splitOnPair '|' (securityText alternatives).toList).map trim =
      alternatives.map fun d => (alternativeText d).toList := by
    have hblank : ∀ c ∈ ([] : List Char), isBlank c = true := by simp
    have htexts := @map_trim_splitOnPair '|' (by decide) [] [] hblank hblank
      (alternatives.map fun d => (alternativeText d).toList) (by simpa using hne)
      (List.forall_mem_map.mpr fun d hd => trim_alternativeText (h d hd))
      (List.forall_mem_map.mpr fun d hd => contains_bars_alternativeText (h d hd))
    rwa [List.append_nil, List.nil_append, ← toList_securityText] at htexts
  have hall := except_mapM_eq_ok trim (fun d => (alternativeText d).toList) id hpieces
    fun piece d hd => alternative_of_trim (h d hd)
  rw [security, hall, List.map_id]

lemma alternativeText_ne_nil (h : IsAlternative d) : (alternativeText d).toList ≠ [] := by
  obtain ⟨s, rest, hs⟩ := List.exists_cons_of_ne_nil h.ne_nil
  have htext := (h.schemes s (by rw [hs]; exact List.mem_cons_self)).text_ne_nil
  rw [toList_alternativeText, hs]
  cases rest <;> simp [List.intercalate_cons_cons, htext]

lemma ofLine_security {markdown : Option MarkdownDirectory} (hne : alternatives ≠ [])
    (h : ∀ d ∈ alternatives, IsAlternative d) :
    ofLine markdown (line "Security" (securityText alternatives)) =
      .ok (some (.secure alternatives)) := by
  have htrim : trim (securityText alternatives).toList = (securityText alternatives).toList := by
    rw [toList_securityText]
    exact trim_intercalate _ (List.forall_mem_map.mpr fun d hd => alternativeText_ne_nil (h d hd))
      (List.forall_mem_map.mpr fun d hd => trim_alternativeText (h d hd))
  refine ofLine_known "security" (by decide) htrim ?_
  rw [change_security, security_text hne h]
  rfl

end Alternatives

end Attribute

end Routewright
