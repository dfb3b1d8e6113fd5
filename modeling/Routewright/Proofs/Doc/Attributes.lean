import Mathlib.Tactic.IntervalCases
import Routewright.Proofs.Doc.Printing
import Routewright.Proofs.Except
import Routewright.Proofs.Text.Ascii

namespace Routewright.Attribute

open Text

variable {markdown : Option MarkdownDirectory}

lemma trim_toList_of_trimmed {s : String} (h : trimmed s = s) : trim s.toList = s.toList := by
  rw [trimmed] at h
  rw [← String.toList_ofList (l := trim s.toList), h]

lemma ofLine_of_trim {comment : String} {r : List Char} (name text : List Char)
    (h : trim (comment.toList.dropWhile (· == '/')) = '@' :: r)
    (hname : ((fields 2 ('@' :: r))[0]?).getD [] = '@' :: name)
    (htext : ((fields 2 ('@' :: r))[1]?).getD [] = text) :
    ofLine markdown comment =
      (change markdown (.ofList ('@' :: r)) (.ofList (lowercase name)) (.ofList name)
        text).map some := by
  rw [ofLine, h]
  simp only [hname, htext, List.drop_one, List.tail_cons]

lemma ofLine_line {name text : String} (hname : ∀ c ∈ name.toList, isBlank c = false)
    (htext : trim text.toList = text.toList) :
    ofLine markdown (line name text) =
      (change markdown (line name text) (.ofList (lowercase name.toList)) name
        text.toList).map some := by
  have hfield : IsField ('@' :: name.toList) :=
    ⟨by simp, List.forall_mem_cons.mpr ⟨by decide, hname⟩⟩
  by_cases hempty : text = ""
  · have hline : (line name text).toList = '@' :: name.toList := by
      rw [line, if_pos hempty, String.toList_append]
      rfl
    have htrim : trim ((line name text).toList.dropWhile (· == '/')) = '@' :: name.toList := by
      rw [hline, List.dropWhile_cons_of_neg (by decide), hfield.trim_eq]
    have hfields := hfield.fields_two_self
    rw [ofLine_of_trim name.toList [] htrim (by rw [hfields]; rfl) (by rw [hfields]; rfl),
      ← hline, String.ofList_toList, String.ofList_toList, hempty]
    rfl
  · have hne : text.toList ≠ [] := by
      simpa using hempty
    have hline : (line name text).toList = '@' :: (name.toList ++ ' ' :: text.toList) := by
      rw [line, if_neg hempty, String.toList_append, String.toList_append, String.toList_append]
      simp
    have htrim : trim ((line name text).toList.dropWhile (· == '/')) =
        '@' :: (name.toList ++ ' ' :: text.toList) := by
      rw [hline, List.dropWhile_cons_of_neg (by decide)]
      exact hfield.trim_append htext hne
    have hfields : fields 2 ('@' :: (name.toList ++ ' ' :: text.toList)) =
        ['@' :: name.toList, text.toList] := by
      have htwo := hfield.fields_two htext
      rwa [if_neg hne] at htwo
    rw [ofLine_of_trim name.toList text.toList htrim (by rw [hfields]; rfl)
      (by rw [hfields]; rfl), ← hline, String.ofList_toList, String.ofList_toList]

def writtenNames : List (String × String) :=
  [("Summary", "summary"), ("ID", "id"), ("Description", "description"), ("Tags", "tags"),
    ("Accept", "accept"), ("Produce", "produce"), ("Param", "param"), ("Response", "response"),
    ("Header", "header"), ("Router", "router"), ("Security", "security"),
    ("Deprecated", "deprecated")]

lemma ofLine_written (lower : String) {name text : String} (hname : (name, lower) ∈ writtenNames)
    (htext : trim text.toList = text.toList) :
    ofLine markdown (line name text) =
      (change markdown (line name text) lower name text.toList).map some := by
  have hascii : ∀ n ∈ writtenNames, ∀ c ∈ n.1.toList, isBlank c = false ∧ c.toNat < 128 := by
    decide +kernel
  have hlower : ∀ n ∈ writtenNames, String.ofList (asciiLowercase n.1.toList) = n.2 := by
    decide
  rw [ofLine_line (fun c hc => (hascii _ hname c hc).1) htext,
    lowercase_of_ascii fun c hc => (hascii _ hname c hc).2, hlower _ hname]

lemma ofLine_known (lower : String) {name text : String} {c : Change}
    (hname : (name, lower) ∈ writtenNames)
    (htext : trim text.toList = text.toList)
    (hchange : change markdown (line name text) lower name text.toList = .ok c) :
    ofLine markdown (line name text) = .ok (some c) := by
  rw [ofLine_written lower hname htext, hchange]
  rfl

def checked {α : Type} (line : String) (make : α → Change) (r : Except AttributeIssue α) :
    Except Failure Change :=
  match r with
  | .error issue => .error (.comment none line issue)
  | .ok a => .ok (make a)

section Change

variable {l name : String} {text : List Char}

lemma change_accept :
    change markdown l "accept" name text = checked l .accept (mimeTypes text) :=
  rfl

lemma change_produce :
    change markdown l "produce" name text = checked l .produce (mimeTypes text) :=
  rfl

lemma change_param : change markdown l "param" name text = checked l .param (param text) :=
  rfl

lemma change_response : change markdown l "response" name text = checked l id (response text) :=
  rfl

lemma change_header : change markdown l "header" name text = checked l id (header text) :=
  rfl

lemma change_router : change markdown l "router" name text = (route l text).map .route :=
  rfl

lemma change_security :
    change markdown l "security" name text = checked l .secure (security text) :=
  rfl

end Change

section Plain

variable {text : String}

lemma ofLine_summary (h : trimmed text = text) :
    ofLine markdown (line "Summary" text) = .ok (some (.summarize text)) := by
  refine ofLine_known "summary" (by decide) (trim_toList_of_trimmed h) ?_
  exact congrArg (fun s => Except.ok (Change.summarize s)) String.ofList_toList

lemma ofLine_id (h : trimmed text = text) :
    ofLine markdown (line "ID" text) = .ok (some (.identify text)) := by
  refine ofLine_known "id" (by decide) (trim_toList_of_trimmed h) ?_
  exact congrArg (fun s => Except.ok (Change.identify s)) String.ofList_toList

lemma ofLine_description (h : trimmed text = text) :
    ofLine markdown (line "Description" text) = .ok (some (.describe text)) := by
  refine ofLine_known "description" (by decide) (trim_toList_of_trimmed h) ?_
  exact congrArg (fun s => Except.ok (Change.describe s)) String.ofList_toList

lemma ofLine_deprecated : ofLine markdown (line "Deprecated" "") = .ok (some .deprecate) :=
  ofLine_known "deprecated" (by decide) rfl rfl

lemma ofLine_note {e : String × String} (h : IsNote e) :
    ofLine markdown (line e.1 e.2) = .ok (some (.note e.1 e.2)) := by
  rw [ofLine_line h.name (trim_toList_of_trimmed h.text)]
  suffices hchange : change markdown (line e.1 e.2) (.ofList (lowercase e.1.toList)) e.1
      e.2.toList = .ok (.note e.1 e.2) by rw [hchange]; rfl
  have hunknown := h.unknown
  have hextension := h.no_extension
  rw [← String.toList_ofList (l := lowercase e.1.toList)] at hextension
  generalize String.ofList (lowercase e.1.toList) = lower at hunknown hextension
  simp only [knownNames, List.mem_cons, not_or] at hunknown
  unfold change
  split
  all_goals simp_all

end Plain

section Lists

variable {items : List String}

lemma trim_items (h : ∀ x ∈ items, IsItem x.toList) :
    trim (", ".intercalate items).toList = (", ".intercalate items).toList := by
  rw [String.toList_intercalate]
  exact trim_intercalate _ (List.forall_mem_map.mpr fun x hx => (h x hx).ne_nil)
    (List.forall_mem_map.mpr fun x hx => (h x hx).trim_eq)

lemma commaList_items (h : ∀ x ∈ items, IsItem x.toList) :
    commaList (", ".intercalate items).toList = items.map String.toList := by
  rw [String.toList_intercalate]
  exact commaList_intercalate (by decide) (List.forall_mem_map.mpr h)

lemma ofLine_tags (h : ∀ x ∈ items, IsItem x.toList) :
    ofLine markdown (line "Tags" (", ".intercalate items)) = .ok (some (.tag items)) := by
  refine ofLine_known "tags" (by decide) (trim_items h) ?_
  refine congrArg (fun s => Except.ok (Change.tag s)) ?_
  rw [commaList_items h, List.map_map]
  exact List.map_id'' (fun _ => String.ofList_toList) items

lemma mimeType_of_isMime {mime : String} (h : isMime mime.toList = true) :
    mimeType mime.toList = .ok mime := by
  have halias : mimeAliases.lookup (.ofList mime.toList) = none := by
    rw [String.ofList_toList, List.lookup_eq_none_iff]
    intro e he
    refine bne_iff_ne.mpr ?_
    rintro rfl
    have hall : ∀ e ∈ mimeAliases, isMime e.1.toList = false := by decide
    rw [hall e he] at h
    cases h
  rw [mimeType, halias]
  simp [h]

lemma mimeTypes_items (h : ∀ mime ∈ items, IsItem mime.toList ∧ isMime mime.toList = true) :
    mimeTypes (", ".intercalate items).toList = .ok items := by
  have hok : (items.map String.toList).mapM mimeType = .ok (items.map id) := by
    refine except_mapM_eq_ok id String.toList id (List.map_id _) ?_
    rintro a mime hmime rfl
    exact mimeType_of_isMime (h mime hmime).2
  rw [mimeTypes, commaList_items fun x hx => (h x hx).1, hok, List.map_id]

lemma ofLine_accept (h : ∀ mime ∈ items, IsItem mime.toList ∧ isMime mime.toList = true) :
    ofLine markdown (line "Accept" (", ".intercalate items)) = .ok (some (.accept items)) := by
  refine ofLine_known "accept" (by decide) (trim_items fun x hx => (h x hx).1) ?_
  rw [change_accept, mimeTypes_items h]
  rfl

lemma ofLine_produce (h : ∀ mime ∈ items, IsItem mime.toList ∧ isMime mime.toList = true) :
    ofLine markdown (line "Produce" (", ".intercalate items)) = .ok (some (.produce items)) := by
  refine ofLine_known "produce" (by decide) (trim_items fun x hx => (h x hx).1) ?_
  rw [change_produce, mimeTypes_items h]
  rfl

end Lists

section Words

variable {w r : List Char}

lemma not_isWord_signs : ∀ c ∈ " []\x7d".toList, isWord c = false := by
  have hascii : ∀ c ∈ " []\x7d".toList, c.toNat < 128 ∧ (c.isAlphanum || c == '_') = false := by
    decide
  exact fun c hc => (isWord_of_ascii (hascii c hc).1).trans (hascii c hc).2

lemma isName_of_ascii (hne : w ≠ [])
    (h : ∀ c ∈ w, c.toNat < 128 ∧ (c.isAlphanum || c == '_') = true) : isName w = true := by
  rw [isName, Bool.and_eq_true, List.all_eq_true]
  exact ⟨by simpa using hne, fun c hc => (isWord_of_ascii (h c hc).1).trans (h c hc).2⟩

lemma trimStart_of_field (h : IsField w) (r : List Char) : trimStart (w ++ r) = w ++ r := by
  obtain ⟨c, t, rfl⟩ := List.exists_cons_of_ne_nil h.ne_nil
  have hc := h.not_blank c List.mem_cons_self
  rw [trimStart, List.cons_append, List.dropWhile_cons_of_neg (by simp [hc])]

lemma spanField?_append (h : IsField w) (hr : trimStart r = r) :
    spanField? (w ++ ' ' :: r) = some (w, r) := by
  have hspace : trimStart (' ' :: r) = r := by
    rw [trimStart, List.dropWhile_cons_of_pos (by decide)]
    exact hr
  simp [spanField?, h.takeWhile_space, h.dropWhile_space, h.ne_nil, hspace]

lemma trim_of_ends {a b : Char} (ha : isBlank a = false) (hb : isBlank b = false)
    (s : List Char) : trim (a :: (s ++ [b])) = a :: (s ++ [b]) := by
  have hone : ∀ c, isBlank c = false → trim [c] = [c] := fun c hc =>
    trim_eq_self_of_not_blank (by simpa using hc)
  exact trim_between (hone a ha) (by simp) (hone b hb) (by simp) s

end Words

section Param

variable {p : OperationParam}

lemma isField_location (location : Location) : IsField location.name.toList := by
  cases location <;> exact ⟨by decide, by decide⟩

lemma isName_location (location : Location) : isName location.name.toList = true := by
  cases location <;> exact isName_of_ascii (by decide) (by decide)

lemma ofName?_name (location : Location) : Location.ofName? location.name = some location := by
  cases location <;> decide

lemma isField_flag (flag : Bool) : IsField (flagText flag).toList := by
  cases flag <;> exact ⟨by decide, by decide⟩

lemma isName_flag (flag : Bool) : isName (flagText flag).toList = true := by
  cases flag <;> exact isName_of_ascii (by decide) (by decide)

lemma toList_paramText (p : OperationParam) :
    (paramText p).toList = p.name.toList ++ ' ' :: (p.location.name.toList ++ ' ' ::
      (p.dataType.toList ++ ' ' :: ((flagText p.required).toList ++ ' ' :: '\x22' ::
        (p.description.toList ++ ['\x22'])))) := by
  simp [paramText, quoted]

lemma paramWords?_text (h : p.Printable) :
    paramWords? (paramText p).toList =
      some ⟨p.name.toList, p.location.name.toList, p.dataType.toList,
        (flagText p.required).toList, p.description.toList⟩ := by
  have hquote : ∀ c ∈ p.description.toList, decide (c ≠ '\x22') = true := fun c hc =>
    decide_eq_true fun heq => h.description (heq ▸ hc)
  have hdrop := dropWhile_append_cons '\x22' hquote (by decide) []
  have htake := takeWhile_append_cons '\x22' hquote (by decide) []
  have hname := spanField?_append h.name (trimStart_of_field (isField_location p.location)
    (' ' :: (p.dataType.toList ++ ' ' :: ((flagText p.required).toList ++ ' ' :: '\x22' ::
      (p.description.toList ++ ['\x22'])))))
  have hlocation := spanField?_append (isField_location p.location) (trimStart_of_field h.dataType
    (' ' :: ((flagText p.required).toList ++ ' ' :: '\x22' ::
      (p.description.toList ++ ['\x22']))))
  have htype := spanField?_append h.dataType (trimStart_of_field (isField_flag p.required)
    (' ' :: '\x22' :: (p.description.toList ++ ['\x22'])))
  have hflag : spanField? ((flagText p.required).toList ++ ' ' :: '\x22' ::
      (p.description.toList ++ ['\x22'])) =
        some ((flagText p.required).toList, '\x22' :: (p.description.toList ++ ['\x22'])) :=
    spanField?_append (isField_flag p.required) rfl
  rw [toList_paramText]
  simp only [paramWords?, Option.bind_eq_bind, hname, hlocation, htype, hflag, Option.bind_some,
    hdrop, htake, isName_location, isName_flag]
  rfl

lemma param_text (h : p.Printable) : param (paramText p).toList = .ok p := by
  have hflag : String.ofList (asciiLowercase (flagText p.required).toList) =
      flagText p.required := by
    cases p.required <;> decide
  rw [param, paramWords?_text h]
  simp only [String.ofList_toList, ofName?_name, hflag]
  cases hrequired : p.required with
  | false =>
    have htext : flagText false = "false" := rfl
    rw [htext, if_neg (by decide), if_pos rfl, ← hrequired]
  | true =>
    have htext : flagText true = "true" := rfl
    rw [htext, if_pos rfl, ← hrequired]

lemma trim_paramText (h : p.Printable) : trim (paramText p).toList = (paramText p).toList := by
  have htext : (paramText p).toList = p.name.toList ++ (' ' :: (p.location.name.toList ++ ' ' ::
      (p.dataType.toList ++ ' ' :: ((flagText p.required).toList ++ ' ' :: '\x22' ::
        p.description.toList)))) ++ ['\x22'] := by
    simp [toList_paramText]
  rw [htext]
  exact trim_between h.name.trim_eq h.name.ne_nil (by decide) (by simp) _

lemma ofLine_param (h : p.Printable) :
    ofLine markdown (line "Param" (paramText p)) = .ok (some (.param p)) := by
  refine ofLine_known "param" (by decide) (trim_paramText h) ?_
  rw [change_param, param_text h]
  rfl

end Param

section Typed

variable {s : List Char}

def quotes (s : List Char) : List Char :=
  '\x22' :: (s ++ ['\x22'])

lemma toList_quoted (text : String) : (quoted text).toList = quotes text.toList := by
  simp [quoted, quotes]

lemma trim_quotes (s : List Char) : trim (quotes s) = quotes s :=
  trim_of_ends (by decide) (by decide) s

lemma isQuoted_quotes (h : '\n' ∉ s) : isQuoted (quotes s) = true := by
  simp [isQuoted, quotes, h]

lemma dropQuotes_quotes (s : List Char) : dropQuotes (quotes s) = dropQuotes s := by
  have hstart : (quotes s).dropWhile (· == '\x22') =
      if s.dropWhile (· == '\x22') = [] then []
      else s.dropWhile (· == '\x22') ++ ['\x22'] := by
    rw [quotes, List.dropWhile_cons_of_pos (by decide), List.dropWhile_append]
    simp only [List.isEmpty_iff]
    rfl
  rw [dropQuotes, dropQuotes, hstart]
  split_ifs with hs
  · rw [hs]
  · rw [dropEndWhile_append_singleton, if_pos (by decide)]

lemma descriptionText_quotes (s : List Char) :
    descriptionText (some (quotes s)) = String.ofList (dropQuotes s) := by
  rw [descriptionText, trim_quotes, dropQuotes_quotes]

lemma IsDescription.dropQuotes_eq (h : IsDescription s) : dropQuotes s = s := by
  have hstart : s.dropWhile (· == '\x22') = s := by
    refine dropWhile_eq_self_iff_head.mpr fun c hc => beq_false_of_ne ?_
    rintro rfl
    exact h.head_ne hc
  have hend : dropEndWhile (· == '\x22') s = s := by
    refine dropEndWhile_eq_self_iff.mpr fun c hc => beq_false_of_ne ?_
    rintro rfl
    exact h.last_ne hc
  rw [dropQuotes, hstart, hend]

lemma wordAndQuoted?_append {w q : List Char} (hw : IsField w) (hq : isQuoted q = true)
    (htrim : trimStart q = q) : wordAndQuoted? (w ++ ' ' :: q) = some (w, some q) := by
  have hspace : trimStart (' ' :: q) = q := by
    rw [trimStart, List.dropWhile_cons_of_pos (by decide)]
    exact htrim
  have hne : q ≠ [] := by
    rintro rfl
    cases hq
  simp [wordAndQuoted?, hw.takeWhile_space, hw.dropWhile_space, hspace, hw.ne_nil, hne, hq]

lemma toList_typedText (kind word description : String) :
    (typedText kind word description).toList =
      '\x7b' :: (kind.toList ++ '\x7d' :: ' ' :: (word.toList ++ ' ' ::
        quotes description.toList)) := by
  simp [typedText, toList_quoted]

lemma typed?_text {kind word description : String} (hkind : isName kind.toList = true)
    (hword : IsField word.toList) (hdescription : '\n' ∉ description.toList) :
    typed? (typedText kind word description).toList =
      some ⟨kind, word, some (quotes description.toList)⟩ := by
  simp only [isName, Bool.and_eq_true, Bool.not_eq_true', List.all_eq_true] at hkind
  have hbrace : isWord '\x7d' = false := not_isWord_signs _ (by decide)
  have htake := takeWhile_append_cons '\x7d' hkind.2 hbrace
    (' ' :: (word.toList ++ ' ' :: quotes description.toList))
  have hdrop := dropWhile_append_cons '\x7d' hkind.2 hbrace
    (' ' :: (word.toList ++ ' ' :: quotes description.toList))
  have hspace : trimStart (' ' :: (word.toList ++ ' ' :: quotes description.toList)) =
      word.toList ++ ' ' :: quotes description.toList := by
    rw [trimStart, List.dropWhile_cons_of_pos (by decide)]
    exact trimStart_of_field hword _
  have hblank : ((' ' :: (word.toList ++ ' ' :: quotes description.toList)).head?.any isBlank) =
      true := rfl
  rw [toList_typedText, typed?]
  simp only [htake, hdrop, hkind.1, hspace, hblank, Bool.not_true, Bool.or_false,
    Bool.false_eq_true, if_false, wordAndQuoted?_append hword (isQuoted_quotes hdescription)
      (trimStart_of_trim_eq (trim_quotes _)), Option.map_some, String.ofList_toList]

lemma trim_typedText (kind word description : String) :
    trim (typedText kind word description).toList =
      (typedText kind word description).toList := by
  have htext : (typedText kind word description).toList =
      '\x7b' :: ((kind.toList ++ '\x7d' :: ' ' :: (word.toList ++ ' ' :: '\x22' ::
        description.toList)) ++ ['\x22']) := by
    simp [toList_typedText, quotes]
  rw [htext]
  exact trim_of_ends (by decide) (by decide) _

end Typed

section Response

variable {code : String}

lemma mem_digits {c : Char} {v : ℕ} (h : digitValue? 10 c = some v) :
    c ∈ "0123456789".toList := by
  have hbounds : 48 ≤ c.toNat ∧ c.toNat ≤ 57 := by
    by_cases hdigit : '0' ≤ c ∧ c ≤ '9'
    · exact hdigit
    · simp only [digitValue?, if_neg hdigit] at h
      split_ifs at h <;> omega
  obtain ⟨hlow, hhigh⟩ := hbounds
  rw [← Char.ofNat_toNat c]
  interval_cases c.toNat <;> decide

lemma digitsValueFrom_digits {acc v : ℕ} {s : List Char}
    (h : digitsValueFrom 10 acc s = some v) : ∀ c ∈ s, c ∈ "0123456789".toList := by
  induction s generalizing acc with
  | nil => simp
  | cons d s ih =>
    obtain ⟨n, hn, hrest⟩ := Option.bind_eq_some_iff.mp h
    exact List.forall_mem_cons.mpr ⟨mem_digits hn, ih hrest⟩

lemma digits_of_boundedDecimal? {bound : ℕ} {s : List Char}
    (h : (boundedDecimal? bound s).isSome = true) :
    s ≠ [] ∧ ∀ c ∈ s, c ∈ "+0123456789".toList := by
  have hdigits : ∀ {t : List Char} {v : ℕ}, digitsValue? 10 t = some v →
      t ≠ [] ∧ ∀ c ∈ t, c ∈ "+0123456789".toList := by
    intro t v ht
    rw [digitsValue?] at ht
    split_ifs at ht with hempty
    exact ⟨by simpa using hempty, fun c hc =>
      List.mem_cons_of_mem '+' (digitsValueFrom_digits ht c hc)⟩
  obtain ⟨v, hv⟩ := Option.isSome_iff_exists.mp h
  have hsome := (Option.filter_eq_some_iff.mp hv).1
  split at hsome
  · exact ⟨by simp, List.forall_mem_cons.mpr ⟨by decide, (hdigits hsome).2⟩⟩
  · exact hdigits hsome

lemma isField_of_isStatusCode {s : List Char} (h : isStatusCode s = true) :
    IsField s ∧ ',' ∉ s ∧ ∀ c, s.head? = some c → c.toLower ≠ 'a' := by
  rw [isStatusCode, Bool.or_eq_true, beq_iff_eq] at h
  rcases h with rfl | h
  · refine ⟨⟨by decide, by decide⟩, by decide, ?_⟩
    rintro c hc
    obtain rfl : 'd' = c := Option.some.inj hc
    decide
  · obtain ⟨hne, hdigits⟩ := digits_of_boundedDecimal? h
    have hblank : ∀ c ∈ "+0123456789".toList, isBlank c = false := by decide
    have hlower : ∀ c ∈ "+0123456789".toList, c.toLower ≠ 'a' := by decide
    exact ⟨⟨hne, fun c hc => hblank c (hdigits c hc)⟩,
      fun hcomma => absurd (hdigits ',' hcomma) (by decide),
      fun c hc => hlower c (hdigits c (List.mem_of_head? hc))⟩

lemma statusCodes_code (h : isStatusCode code.toList = true) :
    statusCodes code.toList = .ok [code] := by
  obtain ⟨hfield, hcomma, -⟩ := isField_of_isStatusCode h
  have hlist : commaList code.toList = [code.toList] :=
    commaList_of_item ⟨hfield.ne_nil, hfield.trim_eq, hcomma⟩
  rw [statusCodes, hlist]
  simp [h]

lemma toList_coded (code text : String) :
    (code ++ " " ++ text).toList = code.toList ++ ' ' :: text.toList := by
  simp

lemma response_quoted (hcode : isStatusCode code.toList = true) (description : String) :
    response (code ++ " " ++ quoted description).toList =
      .ok (.respond [code] none none (.ofList (dropQuotes description.toList))) := by
  have hfields := (isField_of_isStatusCode hcode).1.fields_two (trim_quotes description.toList)
  rw [if_neg (by simp [quotes])] at hfields
  have hbrace : (quotes description.toList).head? ≠ some '\x7b' := by
    simp [quotes]
  rw [toList_coded, toList_quoted, response, hfields]
  simp only [List.getElem?_cons_zero, List.getElem?_cons_succ, Option.getD_some,
    statusCodes_code hcode, hbrace, if_false, descriptionText_quotes]

variable {kind word description : String}

lemma response_typed (hcode : isStatusCode code.toList = true) (hkind : isName kind.toList = true)
    (hword : IsField word.toList) (hdescription : '\n' ∉ description.toList) :
    response (code ++ " " ++ typedText kind word description).toList =
      .ok (.respond [code] (some kind) (some word)
        (.ofList (dropQuotes description.toList))) := by
  have hfields := (isField_of_isStatusCode hcode).1.fields_two
    (trim_typedText kind word description)
  rw [if_neg (by simp [toList_typedText])] at hfields
  have hbrace : (typedText kind word description).toList.head? = some '\x7b' := by
    simp [toList_typedText]
  rw [toList_coded, response, hfields]
  simp only [List.getElem?_cons_zero, List.getElem?_cons_succ, Option.getD_some,
    statusCodes_code hcode, hbrace, if_true, typed?_text hkind hword hdescription,
    descriptionText_quotes]

lemma header_typed (hcode : isStatusCode code.toList = true) (hkind : isName kind.toList = true)
    (hword : IsField word.toList) (hdescription : '\n' ∉ description.toList) :
    header (code ++ " " ++ typedText kind word description).toList =
      .ok (.header (some [code]) word ⟨kind, .ofList (dropQuotes description.toList)⟩) := by
  obtain ⟨hfield, -, hhead⟩ := isField_of_isStatusCode hcode
  have hspan : spanField? (code.toList ++ ' ' :: (typedText kind word description).toList) =
      some (code.toList, (typedText kind word description).toList) :=
    spanField?_append hfield (trimStart_of_trim_eq (trim_typedText _ _ _))
  have hall : asciiLowercase code.toList ≠ "all".toList := by
    obtain ⟨c, r, hcr⟩ := List.exists_cons_of_ne_nil hfield.ne_nil
    have hc := hhead c (by rw [hcr]; rfl)
    rw [hcr]
    intro heq
    exact hc (List.cons.inj heq).1
  rw [toList_coded, header, hspan]
  simp only [Option.bind_some, typed?_text hkind hword hdescription, Option.map_some, hall,
    if_false, statusCodes_code hcode, descriptionText_quotes]
  rfl

lemma trim_coded (hcode : isStatusCode code.toList = true) {text : String}
    (htext : trim text.toList = text.toList) (hne : text.toList ≠ []) :
    trim (code ++ " " ++ text).toList = (code ++ " " ++ text).toList := by
  rw [toList_coded]
  exact (isField_of_isStatusCode hcode).1.trim_append htext hne

lemma ofLine_response_quoted (hcode : isStatusCode code.toList = true) (description : String) :
    ofLine markdown (line "Response" (code ++ " " ++ quoted description)) =
      .ok (some (.respond [code] none none (.ofList (dropQuotes description.toList)))) := by
  have htrim : trim (quoted description).toList = (quoted description).toList := by
    rw [toList_quoted, trim_quotes]
  refine ofLine_known "response" (by decide) (trim_coded hcode htrim (by simp [quoted])) ?_
  rw [change_response, response_quoted hcode]
  rfl

lemma ofLine_response_typed (hcode : isStatusCode code.toList = true)
    (hkind : isName kind.toList = true) (hword : IsField word.toList)
    (hdescription : '\n' ∉ description.toList) :
    ofLine markdown (line "Response" (code ++ " " ++ typedText kind word description)) =
      .ok (some (.respond [code] (some kind) (some word)
        (.ofList (dropQuotes description.toList)))) := by
  refine ofLine_known "response" (by decide)
    (trim_coded hcode (trim_typedText _ _ _) (by simp [toList_typedText])) ?_
  rw [change_response, response_typed hcode hkind hword hdescription]
  rfl

lemma ofLine_header_typed (hcode : isStatusCode code.toList = true)
    (hkind : isName kind.toList = true) (hword : IsField word.toList)
    (hdescription : '\n' ∉ description.toList) :
    ofLine markdown (line "Header" (code ++ " " ++ typedText kind word description)) =
      .ok (some (.header (some [code]) word
        ⟨kind, .ofList (dropQuotes description.toList)⟩)) := by
  refine ofLine_known "header" (by decide)
    (trim_coded hcode (trim_typedText _ _ _) (by simp [toList_typedText])) ?_
  rw [change_header, header_typed hcode hkind hword hdescription]
  rfl

lemma ofLine_response {e : String × Response} (hcode : isStatusCode e.1.toList = true)
    (h : e.2.Printable) :
    ofLine markdown (line "Response" (e.1 ++ " " ++ responseText e.2)) =
      .ok (some (.respond [e.1] e.2.kind e.2.dataType e.2.description)) := by
  rcases h.typed with ⟨hkind, htype⟩ | ⟨kind, dataType, hkind, htype, hname, hword⟩
  · have htext : responseText e.2 = quoted e.2.description := by
      rw [responseText, hkind]
    rw [htext, ofLine_response_quoted hcode, h.description.dropQuotes_eq, String.ofList_toList,
      hkind, htype]
  · have htext : responseText e.2 = typedText kind dataType e.2.description := by
      rw [responseText, hkind, htype]
    rw [htext, ofLine_response_typed hcode hname hword h.description.one_line,
      h.description.dropQuotes_eq, String.ofList_toList, hkind, htype]

lemma ofLine_header {h : String × ResponseHeader} (hcode : isStatusCode code.toList = true)
    (hh : IsHeader h) :
    ofLine markdown (line "Header" (code ++ " " ++ headerText h)) =
      .ok (some (.header (some [code]) h.1 h.2)) := by
  rw [headerText, ofLine_header_typed hcode hh.kind hh.name hh.description.one_line,
    hh.description.dropQuotes_eq, String.ofList_toList]

end Response

section Route

variable {path word : List Char}

lemma trim_methodName (m : Method) : trim m.name.toList = m.name.toList := by
  cases m <;> decide

lemma isName_methodName (m : Method) : isName m.name.toList = true := by
  cases m <;> exact isName_of_ascii (by decide) (by decide)

lemma asciiUppercase_methodName (m : Method) :
    asciiUppercase m.name.toList = m.name.toList := by
  cases m <;> decide

lemma method_name (m : Method) : method m.name.toList = .ok m := by
  simp [method, trim_methodName, asciiUppercase_methodName]

lemma isField_of_isName (h : isName word = true) : IsField word := by
  simp only [isName, Bool.and_eq_true, Bool.not_eq_true', List.all_eq_true] at h
  exact ⟨by simpa using h.1, fun c hc => not_isBlank_of_isWord (h.2 c hc)⟩

lemma isField_of_isPathChar (hne : path ≠ []) (h : ∀ c ∈ path, isPathChar c = true) :
    IsField path := by
  have hsigns : ∀ c ∈ "./-\x7b\x7d()+:$*@".toList, isBlank c = false := by
    decide
  refine ⟨hne, fun c hc => ?_⟩
  rcases Bool.or_eq_true_iff.mp (h c hc) with hword | hsign
  · exact not_isBlank_of_isWord hword
  · exact hsigns c (List.contains_iff_mem.mp hsign)

lemma routeWords?_append (hpath : ∀ c ∈ path, isPathChar c = true) (hword : isName word = true) :
    routeWords? (path ++ ' ' :: '[' :: (word ++ [']'])) =
      if path.head? = some '/' then some (path, word) else none := by
  have hname := hword
  simp only [isName, Bool.and_eq_true, List.all_eq_true] at hname
  have hbracket : isWord ']' = false := not_isWord_signs _ (by decide)
  have hspace : isPathChar ' ' = false := by
    rw [isPathChar, not_isWord_signs ' ' (by decide)]
    rfl
  have htake := takeWhile_append_cons ' ' hpath hspace ('[' :: (word ++ [']']))
  have hrest := dropWhile_append_cons ' ' hpath hspace ('[' :: (word ++ [']']))
  have htrim : trimStart (' ' :: '[' :: (word ++ [']'])) = '[' :: (word ++ [']']) := rfl
  have hblank : ((' ' :: '[' :: (word ++ [']'])).head?.any isBlank) = true := rfl
  have hinside := takeWhile_append_cons ']' hname.2 hbracket []
  have hclose := dropWhile_append_cons ']' hname.2 hbracket []
  rw [routeWords?]
  simp only [htake, hrest, htrim, hblank, hinside, hclose, hword, and_true]

lemma trim_route (hne : path ≠ []) (hpath : ∀ c ∈ path, isPathChar c = true) (word : List Char) :
    trim (path ++ ' ' :: '[' :: (word ++ [']'])) = path ++ ' ' :: '[' :: (word ++ [']']) :=
  (isField_of_isPathChar hne hpath).trim_append (trim_of_ends (by decide) (by decide) word)
    (List.cons_ne_nil _ _)

lemma route_append (hne : path ≠ []) (hpath : ∀ c ∈ path, isPathChar c = true)
    (hword : isName word = true) (line : String) :
    route line (path ++ ' ' :: '[' :: (word ++ [']'])) =
      if path.head? = some '/' then (method word).map fun m => ⟨m, .ofList path⟩
      else .error (.comment none line .badRoute) := by
  rw [route, trim_route hne hpath, routeWords?_append hpath hword]
  split_ifs <;> rfl

lemma toList_routeText (r : Route) :
    (routeText r).toList = r.path.toList ++ ' ' :: '[' :: (r.method.name.toList ++ [']']) := by
  simp [routeText]

lemma ofLine_route {r : Route} (h : r.Printable) :
    ofLine markdown (line "Router" (routeText r)) = .ok (some (.route r)) := by
  have hne : r.path.toList ≠ [] := by
    intro hempty
    simpa [hempty] using h.head_eq
  have htrim : trim (routeText r).toList = (routeText r).toList := by
    rw [toList_routeText]
    exact trim_route hne h.path _
  refine ofLine_known "router" (by decide) htrim ?_
  rw [change_router, toList_routeText, route_append hne h.path (isName_methodName r.method),
    if_pos h.head_eq, method_name, String.ofList_toList]
  rfl

end Route

end Routewright.Attribute
