import Routewright.Proofs.Go.Layout

namespace Routewright.Go

open Text

def handlerOpening : List (List Char) :=
  ["func(w".toList, "http.ResponseWriter,".toList, "r".toList, "*http.Request)".toList, ['\x7b']]

def defines : List Char :=
  [':', '=']

def namesBefore (ws : List (List Char)) : List String :=
  let names := (ws.takeWhile (· != defines)).map fun w => w.takeWhile (· != ',')
  if ws.contains defines && names.all Pattern.isIdentifier then
    (names.map String.ofList).filter fun name => name != "_" && !Lexeme.keywords.contains name
  else []

/-- The name behind a keyword: that of a type, a variable or a function, or the parameter of a
function that runs by itself. -/
def namesBehind : List (List Char) → List String
  | keyword :: w :: _ =>
    let name :=
      if ["type".toList, "var".toList, "func".toList].contains keyword then w
      else if keyword = "go".toList then (dropStart? "func(".toList w).getD []
      else []
    [.ofList (name.takeWhile Lexeme.isNameChar)].filter (· != "")
  | _ => []

def namesIn (ws : List (List Char)) : List String :=
  namesBefore ws ++ namesBehind ws

def declaredOn (line : List Char) : List String :=
  (if handlerOpening.isSuffixOf (words line) then ["w", "r"] else []) ++ namesIn (words line)

example : declaredOn "\t\tserverErr, shutDown := run()".toList = ["serverErr", "shutDown"] := by
  decide +kernel

section Words

variable {w keyword : List Char} {ws : List (List Char)} {name : String}

lemma isField_of_isIdentifier (h : Pattern.isIdentifier w = true) : IsField w := by
  refine ⟨?_, fun c hc => ?_⟩
  · rintro rfl
    cases h
  · rcases isAlphanumeric_of_mem_identifier h hc with hc | rfl
    · exact not_isBlank_of_isAlphanumeric hc
    · decide

lemma isIdentifier_append {s t : List Char} (hs : Pattern.isIdentifier s = true)
    (ht : ∀ c ∈ t, (isAlphanumeric c || c == '_') = true) :
    Pattern.isIdentifier (s ++ t) = true := by
  cases s with
  | nil => cases hs
  | cons c r =>
    obtain ⟨hc, hr⟩ := Bool.and_eq_true_iff.mp hs
    refine Bool.and_eq_true_iff.mpr ⟨hc, List.all_eq_true.mpr ?_⟩
    exact List.forall_mem_append.mpr ⟨List.all_eq_true.mp hr, ht⟩

def IsSign (w : List Char) : Prop :=
  Pattern.isIdentifier (w.takeWhile (· != ',')) = false

lemma takeWhile_cons_ne (hw : w ≠ defines) (ws : List (List Char)) :
    (w :: ws).takeWhile (· != defines) = w :: ws.takeWhile (· != defines) := by
  simp [hw]

lemma namesBefore_of_isSign (hw : w ∈ ws.takeWhile (· != defines)) (hs : IsSign w) :
    namesBefore ws = [] := by
  refine if_neg fun hall => ?_
  rw [Bool.and_eq_true] at hall
  have hid := List.all_eq_true.mp hall.2 _ (List.mem_map_of_mem hw)
  rw [hs] at hid
  cases hid

lemma namesBefore_defines (ws : List (List Char)) : namesBefore (defines :: ws) = [] := by
  rw [namesBefore, List.takeWhile_cons_of_neg (by simp)]
  simp

lemma namesBefore_cons (hs : IsSign w) : namesBefore (w :: ws) = [] := by
  by_cases hw : w = defines
  · rw [hw, namesBefore_defines]
  · refine namesBefore_of_isSign ?_ hs
    rw [takeWhile_cons_ne hw]
    exact List.mem_cons_self

lemma namesBefore_cons_cons (hw : w ≠ defines) (hs : IsSign w) (keyword : List Char) :
    namesBefore (keyword :: w :: ws) = [] := by
  by_cases hk : keyword = defines
  · rw [hk, namesBefore_defines]
  · refine namesBefore_of_isSign ?_ hs
    rw [takeWhile_cons_ne hk, takeWhile_cons_ne hw]
    exact List.mem_cons_of_mem _ List.mem_cons_self

lemma comma_not_mem (h : Pattern.isIdentifier w = true) : ',' ∉ w :=
  fun hmem => ne_of_mem_identifier h hmem (by decide) rfl

lemma namesBefore_declaration (h : Pattern.isIdentifier name.toList = true) :
    namesBefore (name.toList :: defines :: ws) =
      [name].filter fun name => name != "_" && !Lexeme.keywords.contains name := by
  have hne : name.toList ≠ defines := fun heq =>
    ne_of_mem_identifier h (c := ':') (by simp [heq, defines]) (by decide) rfl
  have hword : name.toList.takeWhile (· != ',') = name.toList :=
    List.takeWhile_eq_self_iff.mpr fun c hc => bne_iff_ne.mpr fun heq => comma_not_mem h (heq ▸ hc)
  rw [namesBefore, takeWhile_cons_ne hne, List.takeWhile_cons_of_neg (by simp)]
  simp [hword, h]

lemma namesBehind_of_sign (hw : w.takeWhile Lexeme.isNameChar = [])
    (hfunc : dropStart? "func(".toList w = none) (keyword : List Char) :
    namesBehind (keyword :: w :: ws) = [] := by
  rw [namesBehind]
  split_ifs
  · rw [hw]
    rfl
  · rw [hfunc]
    rfl
  · rfl

lemma namesBehind_of_not_keyword
    (hk : keyword ∉ ["type".toList, "var".toList, "func".toList, "go".toList])
    (ws : List (List Char)) : namesBehind (keyword :: ws) = [] := by
  cases ws with
  | nil => rfl
  | cons w ws =>
    have hmem : ["type".toList, "var".toList, "func".toList].contains keyword = false := by
      rw [← Bool.not_eq_true, List.contains_iff_mem]
      exact fun h => hk (List.mem_append_left ["go".toList] h)
    have hgo : keyword ≠ "go".toList := by
      rintro rfl
      exact hk (by simp)
    rw [namesBehind, hmem, if_neg hgo]
    rfl

end Words

mutual

def Statement.declared : Statement → List String
  | .declare name _ => [name]
  | .allocate name _ => [name]
  | .whenEmpty _ body => allDeclared body
  | .whenPresent _ body => allDeclared body
  | .decode _ _ onFailure => "err" :: allDeclared onFailure
  | _ => []

def allDeclared : List Statement → List String
  | [] => []
  | s :: rest => s.declared ++ allDeclared rest

end

mutual

def Statement.IsNamed : Statement → Prop
  | .declare name _ => Pattern.isIdentifier name.toList = true
  | .assign name _ => Pattern.isIdentifier name.toList = true
  | .append name _ => Pattern.isIdentifier name.toList = true
  | .allocate name _ => Pattern.isIdentifier name.toList = true
  | .store pointer _ => Pattern.isIdentifier pointer.toList = true
  | .whenEmpty name body => Pattern.isIdentifier name.toList = true ∧ AreNamed body
  | .whenPresent name body => Pattern.isIdentifier name.toList = true ∧ AreNamed body
  | .decode _ _ onFailure => AreNamed onFailure
  | .refuse _ => True
  | .leave => True
  | .call function _ => IsField function.toList ∧ ',' ∉ function.toList

def AreNamed : List Statement → Prop
  | [] => True
  | s :: rest => s.IsNamed ∧ AreNamed rest

end

lemma areNamed_append {l m : List Statement} : AreNamed (l ++ m) ↔ AreNamed l ∧ AreNamed m := by
  induction l with
  | nil => simp [AreNamed]
  | cons s l ih => simp [AreNamed, ih, and_assoc]

lemma allDeclared_append (l m : List Statement) :
    allDeclared (l ++ m) = allDeclared l ++ allDeclared m := by
  induction l with
  | nil => rfl
  | cons s l ih => rw [List.cons_append, allDeclared, allDeclared, ih, List.append_assoc]

section Statements

variable {depth : ℕ} {name : String} {w sign : List Char}

lemma words_indent (depth : ℕ) (s : String) : words (indent depth s).toList = words s.toList := by
  have htabs : ∀ c ∈ List.replicate depth '\t', isBlank c = true := by
    intro c hc
    rw [List.eq_of_mem_replicate hc]
    decide
  rw [indent, String.toList_append, String.toList_ofList, words_blanks_append htabs]

lemma words_around (hw : IsField w) (hsign : IsField sign) (rest : List Char) :
    words (w ++ ' ' :: (sign ++ ' ' :: rest)) = w :: sign :: words rest := by
  rw [hw.words_append, hsign.words_append]

lemma namesIn_declaration (h : Pattern.isIdentifier name.toList = true) (rest : String) :
    namesIn (words (indent depth (name ++ " := " ++ rest)).toList) =
      [name].filter fun name => name != "_" && !Lexeme.keywords.contains name := by
  have hline : (name ++ " := " ++ rest).toList =
      name.toList ++ ' ' :: (defines ++ ' ' :: rest.toList) := by
    simp [defines]
  rw [words_indent, hline, words_around (isField_of_isIdentifier h) (by decide), namesIn,
    namesBehind_of_sign (by decide +kernel) (by decide), List.append_nil,
    namesBefore_declaration h]

lemma names_of_declaration (h : Pattern.isIdentifier name.toList = true) (rest : String) :
    ∀ n ∈ namesIn (words (indent depth (name ++ " := " ++ rest)).toList), n = name := by
  rw [namesIn_declaration h]
  exact fun n hn => List.mem_singleton.mp (List.mem_of_mem_filter hn)

lemma mem_declaredOn_declaration (h : Pattern.isIdentifier name.toList = true) (hname : name ≠ "_")
    (hkeyword : name ∉ Lexeme.keywords) (rest : String) :
    name ∈ declaredOn (indent depth (name ++ " := " ++ rest)).toList := by
  refine List.mem_append_right _ ?_
  rw [namesIn_declaration h]
  simp [hname, hkeyword]

lemma allocation_eq (name type : String) :
    name ++ " := new(" ++ type ++ ")" = name ++ " := " ++ ("new(" ++ type ++ ")") := by
  apply String.toList_inj.mp
  simp

lemma names_of_assignment (sign : List Char) {sep : String}
    (hsep : sep.toList = ' ' :: (sign ++ [' '])) (hsign : sign ∈ ["=".toList, "+=".toList])
    (hw : IsField w) (rest : String) :
    namesIn (words (w ++ (sep ++ rest).toList)) = [] := by
  have hline : w ++ (sep ++ rest).toList = w ++ ' ' :: (sign ++ ' ' :: rest.toList) := by
    simp [hsep]
  have hfacts : ∀ sign ∈ ["=".toList, "+=".toList], IsField sign ∧ sign ≠ defines ∧ IsSign sign ∧
      sign.takeWhile Lexeme.isNameChar = [] ∧ dropStart? "func(".toList sign = none := by
    unfold IsSign
    decide +kernel
  obtain ⟨hfield, hne, hs, hname, hfunc⟩ := hfacts sign hsign
  rw [hline, words_around hw hfield, namesIn, namesBefore_cons_cons hne hs,
    namesBehind_of_sign hname hfunc]
  rfl

lemma names_of_parenthesis (hw : IsField (w ++ ['('])) (hcomma : ',' ∉ w) (rest : List Char) :
    namesIn (words (w ++ '(' :: rest)) = [] := by
  obtain ⟨u, ws, hwords⟩ := hw.exists_words rest
  have hsign : IsSign (w ++ ['('] ++ u) := by
    have hpass : ∀ c ∈ w ++ ['('], (c != ',') = true := by
      refine List.forall_mem_append.mpr ⟨fun c hc => bne_iff_ne.mpr ?_, by decide⟩
      rintro rfl
      exact hcomma hc
    rw [IsSign, List.takeWhile_append_of_pos hpass, Bool.eq_false_iff]
    exact fun hid => ne_of_mem_identifier hid (c := '(') (by simp) (by decide) rfl
  have hkeyword : w ++ ['('] ++ u ∉ ["type".toList, "var".toList, "func".toList, "go".toList] := by
    have hplain : ∀ v ∈ ["type".toList, "var".toList, "func".toList, "go".toList], '(' ∉ v := by
      decide
    exact fun hmem => hplain _ hmem (by simp)
  rw [List.append_cons, hwords, namesIn, namesBefore_cons hsign,
    namesBehind_of_not_keyword hkeyword]
  rfl

lemma names_of_condition (sign : List Char) {mark : String}
    (hmark : mark.toList = ' ' :: (sign ++ " \"\" \x7b".toList))
    (hsign : sign ∈ ["==".toList, "!=".toList]) (h : Pattern.isIdentifier name.toList = true) :
    namesIn (words (indent depth ("if " ++ name ++ mark)).toList) = [] := by
  have hline : ("if " ++ name ++ mark).toList =
      "if".toList ++ ' ' :: (name.toList ++ ' ' :: (sign ++ ' ' :: "\"\" \x7b".toList)) := by
    rw [String.toList_append, String.toList_append, hmark]
    simp
  have hfacts : ∀ sign ∈ ["==".toList, "!=".toList],
      IsField sign ∧ sign ≠ defines ∧ IsSign sign := by
    unfold IsSign
    decide +kernel
  obtain ⟨hfield, hne, hs⟩ := hfacts sign hsign
  have hname : name.toList ≠ defines := fun heq =>
    ne_of_mem_identifier h (c := ':') (by simp [heq, defines]) (by decide) rfl
  rw [words_indent, hline, words_around (by decide) (isField_of_isIdentifier h),
    hfield.words_append, namesIn, namesBehind_of_not_keyword (by decide), List.append_nil]
  refine namesBefore_of_isSign ?_ hs
  rw [takeWhile_cons_ne (by decide), takeWhile_cons_ne hname, takeWhile_cons_ne hne]
  exact List.mem_cons_of_mem _ (List.mem_cons_of_mem _ List.mem_cons_self)

lemma names_of_closing (depth : ℕ) : namesIn (words (indent depth "\x7d").toList) = [] := by
  rw [words_indent]
  decide

lemma names_of_decoding (depth : ℕ) (rest : String) :
    ∀ n ∈ namesIn (words (indent depth ("if err := json.Unmarshal([]byte(" ++ rest)).toList),
      n = "err" := by
  have hline : ("if err := json.Unmarshal([]byte(" ++ rest).toList = "if".toList ++ ' ' ::
      ("err".toList ++ ' ' :: (defines ++ ' ' :: ("json.Unmarshal([]byte(" ++ rest).toList)) := by
    simp [defines]
  rw [words_indent, hline, words_around (by decide) (by decide), IsField.words_append (by decide),
    namesIn, namesBehind_of_not_keyword (by decide), List.append_nil, namesBefore,
    takeWhile_cons_ne (by decide), takeWhile_cons_ne (by decide),
    List.takeWhile_cons_of_neg (by simp)]
  intro n hn
  split at hn
  · have hnames : ∀ n ∈ (["if".toList, "err".toList].map String.ofList).filter
        (fun name => name != "_" && !Lexeme.keywords.contains name), n = "err" := by
      decide
    exact hnames n hn
  · cases hn

-- An opening, lines one step deeper, and a closing.
lemma names_of_block {names : List String} {opening : String} {lines : List String}
    (hopening : ∀ n ∈ namesIn (words (indent depth opening).toList), n ∈ names)
    (h : ∀ line ∈ lines, ∀ n ∈ namesIn (words line.toList), n ∈ names) :
    ∀ line ∈ indent depth opening :: (lines ++ [indent depth "\x7d"]),
      ∀ n ∈ namesIn (words line.toList), n ∈ names := by
  refine List.forall_mem_cons.mpr ⟨hopening, List.forall_mem_append.mpr ⟨h, ?_⟩⟩
  rw [List.forall_mem_singleton, names_of_closing]
  simp

lemma names_of_line {names : List String} {s : String} (h : namesIn (words s.toList) = []) :
    ∀ line ∈ [indent depth s], ∀ n ∈ namesIn (words line.toList), n ∈ names := by
  rw [List.forall_mem_singleton, words_indent, h]
  exact fun n hn => nomatch hn

mutual

lemma Statement.mem_declared (s : Statement) (depth : ℕ) (h : s.IsNamed) :
    ∀ line ∈ s.lines depth, ∀ n ∈ namesIn (words line.toList), n ∈ s.declared := by
  cases s with
  | declare name value =>
    refine List.forall_mem_singleton.mpr fun n hn => ?_
    exact List.mem_singleton.mpr (names_of_declaration h value.source n hn)
  | assign name value =>
    have hname : Pattern.isIdentifier name.toList = true := h
    refine names_of_line ?_
    rw [String.append_assoc, String.toList_append]
    exact names_of_assignment "=".toList (by decide) (by decide)
      (isField_of_isIdentifier hname) value.source
  | append name value =>
    have hname : Pattern.isIdentifier name.toList = true := h
    refine names_of_line ?_
    rw [String.append_assoc, String.toList_append]
    exact names_of_assignment "+=".toList (by decide) (by decide)
      (isField_of_isIdentifier hname) value.source
  | allocate name type =>
    refine List.forall_mem_singleton.mpr fun n hn => ?_
    rw [allocation_eq] at hn
    exact List.mem_singleton.mpr (names_of_declaration h ("new(" ++ type ++ ")") n hn)
  | store pointer value =>
    have hpointer : Pattern.isIdentifier pointer.toList = true := h
    have hfield : IsField ('*' :: pointer.toList) :=
      ⟨by simp, List.forall_mem_cons.mpr ⟨by decide, (isField_of_isIdentifier hpointer).not_blank⟩⟩
    have hline : ("*" ++ pointer ++ " = " ++ value.source).toList =
        ('*' :: pointer.toList) ++ (" = " ++ value.source).toList := by
      simp
    refine names_of_line ?_
    rw [hline]
    exact names_of_assignment "=".toList (by decide) (by decide) hfield value.source
  | whenEmpty name body =>
    obtain ⟨hname, hbody⟩ : Pattern.isIdentifier name.toList = true ∧ AreNamed body := h
    refine names_of_block ?_ (mem_allDeclared body (depth + 1) hbody)
    rw [names_of_condition "==".toList (by decide) (by decide) hname]
    exact fun n hn => nomatch hn
  | whenPresent name body =>
    obtain ⟨hname, hbody⟩ : Pattern.isIdentifier name.toList = true ∧ AreNamed body := h
    refine names_of_block ?_ (mem_allDeclared body (depth + 1) hbody)
    rw [names_of_condition "!=".toList (by decide) (by decide) hname]
    exact fun n hn => nomatch hn
  | decode raw pointer onFailure =>
    have hbody : AreNamed onFailure := h
    refine names_of_block (fun n hn => ?_) fun line hline n hn =>
      List.mem_cons_of_mem _ (mem_allDeclared onFailure (depth + 1) hbody line hline n hn)
    simp only [String.append_assoc] at hn
    exact List.mem_cons.mpr (.inl (names_of_decoding depth _ n hn))
  | refuse name =>
    have hline : ("http.Error(w, " ++ name ++ ", http.StatusTeapot)").toList =
        "http.Error".toList ++ '(' :: ("w, " ++ name ++ ", http.StatusTeapot)").toList := by
      simp
    refine names_of_line ?_
    rw [hline]
    exact names_of_parenthesis (by decide) (by decide) _
  | leave => exact names_of_line (by decide)
  | call function args =>
    obtain ⟨hfunction, hcomma⟩ : IsField function.toList ∧ ',' ∉ function.toList := h
    have hfield : IsField (function.toList ++ ['(']) :=
      ⟨by simp, List.forall_mem_append.mpr ⟨hfunction.not_blank, by decide⟩⟩
    refine names_of_line ?_
    rw [String.append_assoc, String.append_assoc, String.toList_append, String.toList_append]
    exact names_of_parenthesis hfield hcomma _

lemma mem_allDeclared (l : List Statement) (depth : ℕ) (h : AreNamed l) :
    ∀ line ∈ statementLines depth l, ∀ n ∈ namesIn (words line.toList), n ∈ allDeclared l := by
  cases l with
  | nil => simp [statementLines]
  | cons s rest =>
    obtain ⟨hs, hrest⟩ : s.IsNamed ∧ AreNamed rest := h
    rw [statementLines, List.forall_mem_append]
    exact ⟨fun line hline n hn => List.mem_append_left _ (s.mem_declared depth hs line hline n hn),
      fun line hline n hn =>
        List.mem_append_right _ (mem_allDeclared rest depth hrest line hline n hn)⟩

end

lemma mem_statementLines {l : List Statement} {s : Statement} (hs : s ∈ l) {line : String}
    (hline : line ∈ s.lines depth) : line ∈ statementLines depth l := by
  obtain ⟨before, rest, rfl⟩ := List.mem_iff_append.mp hs
  rw [statementLines_append, statementLines]
  exact List.mem_append_right _ (List.mem_append_left _ hline)

end Statements

end Routewright.Go
