import Routewright.Program.Source
import Routewright.Proofs.Files.Path
import Routewright.Proofs.Go.Layout

namespace Routewright.Program

open Text

def importBlock (source : String) : List (List Char) :=
  ((splitOnChar '\n' source.toList).takeWhile (· != ")".toList)).dropWhile
    (· != "import (".toList)

example : importBlock "package main\n\nimport (\n\t\"log\"\n)\n\nvar x int\n" =
    ["import (".toList, "\t\"log\"".toList] := by
  cbv

lemma supervisorTypes_eq_append : ∃ rest, supervisorTypes = "\n)\n" ++ rest := by
  have hclose : "\n)\n\n" = "\n)\n" ++ "\n" :=
    ofList_eq_append rfl rfl
  unfold supervisorTypes
  simp only [hclose, String.append_assoc, -String.reduceAppend]
  exact ⟨_, rfl⟩

lemma text_eq_append (groups : ImportGroups) (bootstraps : List Bootstrap) :
    ∃ rest, text groups bootstraps =
      "// Code generated by matte. DO NOT EDIT.\n\npackage main\n\nimport (" ++
        String.join ((importLines groups).map ("\n" ++ ·)) ++ ("\n)\n" ++ rest) := by
  obtain ⟨rest, hrest⟩ := supervisorTypes_eq_append
  have hassoc : ∀ a b c d e f g : String,
      a ++ (b ++ c) ++ d ++ e ++ f ++ g = a ++ (b ++ (c ++ d ++ e ++ f ++ g)) := by
    intros
    simp only [String.append_assoc]
  unfold text
  simp only [hrest]
  exact ⟨_, hassoc ..⟩

lemma takeWhile_append_cons_of_neg {α : Type} {p : α → Bool} {a : α} (ha : p a = false)
    (l m : List α) : (l ++ a :: m).takeWhile p = l.takeWhile p := by
  induction l with
  | nil => simp [ha]
  | cons b l ih =>
    rw [List.cons_append, List.takeWhile_cons, List.takeWhile_cons, ih]

lemma importBlock_append (before rest : String) :
    importBlock (before ++ ("\n)\n" ++ rest)) = importBlock before := by
  have htext : (before ++ ("\n)\n" ++ rest)).toList =
      before.toList ++ '\n' :: ([')'] ++ '\n' :: rest.toList) := by
    rw [String.toList_append, String.toList_append]
    rfl
  have hlines : splitOnChar '\n' (before ++ ("\n)\n" ++ rest)).toList =
      splitOnChar '\n' before.toList ++ [')'] :: splitOnChar '\n' rest.toList := by
    rw [htext, splitOnChar, splitWhere_append (by decide), splitWhere_append (by decide)]
    rfl
  rw [importBlock, importBlock, hlines, takeWhile_append_cons_of_neg (by decide)]

lemma importBlock_text (groups : ImportGroups) (first second : List Bootstrap) :
    importBlock (text groups first) = importBlock (text groups second) := by
  obtain ⟨rest, hfirst⟩ := text_eq_append groups first
  obtain ⟨rest', hsecond⟩ := text_eq_append groups second
  rw [hfirst, hsecond, importBlock_append, importBlock_append]

lemma render_congr {first second : List Bootstrap}
    (h : first.flatMap Bootstrap.imports = second.flatMap Bootstrap.imports) (modulePath : String) :
    ((∃ source, render first modulePath = .ok source) ↔
        ∃ source, render second modulePath = .ok source) ∧
      ∀ source source', render first modulePath = .ok source →
        render second modulePath = .ok source' → importBlock source = importBlock source' := by
  have hgroups : importGroups first modulePath = importGroups second modulePath := by
    rw [importGroups, importGroups, allImports, allImports, h]
  rw [render, render, hgroups]
  cases importGroups second modulePath with
  | error issue => simp
  | ok groups =>
    refine ⟨by simp, ?_⟩
    rintro source source' hfirst hsecond
    obtain rfl := Except.ok.inj hfirst
    obtain rfl := Except.ok.inj hsecond
    exact importBlock_text groups first second

section Reading

/-- The import that a line of the block stands for: the path in quotes, behind the name unless that
is the last element of the path. -/
def importOfLine? (line : List Char) : Option GoImport :=
  match line with
  | '\t' :: spec =>
    let name := spec.takeWhile (· != Go.stringQuote)
    (Go.unquote? (spec.dropWhile (· != Go.stringQuote))).map fun path =>
      if name = [] then .standard (.ofList path) else ⟨.ofList path, .ofList name.dropLast⟩
  | _ => none

def importsOf (source : String) : List GoImport :=
  (importBlock source).filterMap importOfLine?

def IsReadable (i : GoImport) : Prop :=
  GoImport.lastElement i.path = i.name ∨ Pattern.isIdentifier i.name.toList = true

variable {i : GoImport} {groups : ImportGroups}

lemma toList_importSpec (i : GoImport) : (importSpec i).toList =
    (if GoImport.lastElement i.path = i.name then [] else i.name.toList ++ [' ']) ++
      Go.quoteChars i.path.toList := by
  rw [importSpec]
  split_ifs
  · exact Go.toList_quote i.path
  · rw [String.toList_append, String.toList_append, Go.toList_quote]
    rfl

lemma isLine_importSpec (h : IsReadable i) : Go.IsLine ("\t" ++ importSpec i) := by
  rw [Go.isLine_append, importSpec]
  refine ⟨by decide, ?_⟩
  split_ifs with hlast
  · exact Go.isLine_quote i.path
  · rw [Go.isLine_append, Go.isLine_append]
    have hname := h.resolve_left hlast
    exact ⟨⟨fun hmem => Go.ne_of_mem_identifier hname hmem (by decide) rfl, by decide⟩,
      Go.isLine_quote i.path⟩

lemma takeWhile_quoteChars {name : List Char} (h : ∀ c ∈ name, c ≠ Go.stringQuote)
    (path : List Char) :
    (name ++ Go.quoteChars path).takeWhile (· != Go.stringQuote) = name ∧
      (name ++ Go.quoteChars path).dropWhile (· != Go.stringQuote) = Go.quoteChars path := by
  have hname : ∀ c ∈ name, (c != Go.stringQuote) = true := fun c hc => bne_iff_ne.mpr (h c hc)
  exact ⟨takeWhile_append_cons _ hname (by decide) _, dropWhile_append_cons _ hname (by decide) _⟩

lemma importOfLine?_importSpec (h : IsReadable i) :
    importOfLine? ("\t" ++ importSpec i).toList = some i := by
  have hline : ("\t" ++ importSpec i).toList = '\t' :: (importSpec i).toList := by
    rw [String.toList_append]
    rfl
  have hname : ∀ c ∈ if GoImport.lastElement i.path = i.name then [] else i.name.toList ++ [' '],
      c ≠ Go.stringQuote := by
    split_ifs with hlast
    · simp
    · exact List.forall_mem_append.mpr
        ⟨fun c hc => Go.ne_of_mem_identifier (h.resolve_left hlast) hc (by decide), by decide⟩
  obtain ⟨htake, hdrop⟩ := takeWhile_quoteChars hname i.path.toList
  rw [hline, importOfLine?, toList_importSpec]
  simp only [htake, hdrop, Go.unquote?_quoteChars, Option.map_some, String.ofList_toList]
  by_cases hlast : GoImport.lastElement i.path = i.name
  · simp [GoImport.standard, hlast]
  · simp [hlast]

lemma mem_importLines {line : String} (hline : line ∈ importLines groups) :
    line = "" ∨ ∃ i ∈ groups.standard ++ groups.project, line = "\t" ++ importSpec i := by
  rcases List.mem_append.mp hline with hline | hline
  · rcases List.mem_append.mp hline with hline | hline
    · obtain ⟨i, hi, rfl⟩ := List.mem_map.mp hline
      exact .inr ⟨i, List.mem_append_left _ hi, rfl⟩
    · split_ifs at hline
      · cases hline
      · exact .inl (List.mem_singleton.mp hline)
  · obtain ⟨i, hi, rfl⟩ := List.mem_map.mp hline
    exact .inr ⟨i, List.mem_append_right _ hi, rfl⟩

lemma filterMap_specs {imports : List GoImport} (h : ∀ i ∈ imports, IsReadable i) :
    ((imports.map fun i => "\t" ++ importSpec i).map String.toList).filterMap importOfLine? =
      imports := by
  induction imports with
  | nil => rfl
  | cons i imports ih =>
    obtain ⟨hi, himports⟩ := List.forall_mem_cons.mp h
    rw [List.map_cons, List.map_cons, List.filterMap_cons, importOfLine?_importSpec hi,
      ih himports]

lemma filterMap_importLines (h : ∀ i ∈ groups.standard ++ groups.project, IsReadable i) :
    ((importLines groups).map String.toList).filterMap importOfLine? =
      groups.standard ++ groups.project := by
  have hgap : ∀ condition : Bool, ((if condition = true then [] else [""]).map
      String.toList).filterMap importOfLine? = [] := by
    decide
  obtain ⟨hstandard, hproject⟩ := List.forall_mem_append.mp h
  simp only [importLines, List.map_append, List.filterMap_append, hgap, List.append_nil,
    filterMap_specs hstandard, filterMap_specs hproject]

def openingLines (groups : ImportGroups) : List (List Char) :=
  ["// Code generated by matte. DO NOT EDIT.".toList, [], "package main".toList, []] ++
    "import (".toList :: (importLines groups).map String.toList

lemma openingLines_ne : ∀ line ∈ openingLines groups, (line != ")".toList) = true := by
  have hbefore : ∀ line ∈ ["// Code generated by matte. DO NOT EDIT.".toList, [],
      "package main".toList, []], (line != ")".toList) = true := by
    decide
  refine List.forall_mem_append.mpr ⟨hbefore, List.forall_mem_cons.mpr ⟨rfl, ?_⟩⟩
  refine List.forall_mem_map.mpr fun line hline => ?_
  rcases mem_importLines hline with rfl | ⟨i, -, rfl⟩
  · rfl
  · rw [String.toList_append]
    rfl

lemma linesOf_opening (h : ∀ i ∈ groups.standard ++ groups.project, IsReadable i) :
    linesOf ("// Code generated by matte. DO NOT EDIT.\n\npackage main\n\nimport (" ++
      String.join ((importLines groups).map ("\n" ++ ·))) = openingLines groups := by
  have hheader : linesOf "// Code generated by matte. DO NOT EDIT.\n\npackage main\n\nimport (" =
      ["// Code generated by matte. DO NOT EDIT.".toList, [], "package main".toList, []] ++
        ["import (".toList] :=
    (linesOf_eq_ofList rfl).trans (by decide)
  have hlines : (importLines groups).flatMap linesOf = (importLines groups).map String.toList := by
    refine (List.flatMap_congr fun line hline => ?_).trans (List.flatMap_pure_eq_map _ _)
    rcases mem_importLines hline with rfl | ⟨i, hi, rfl⟩
    · rfl
    · exact linesOf_of_not_mem (isLine_importSpec (h i hi))
  rw [linesOf_join, hheader, hlines, List.append_assoc]
  rfl

lemma importsOf_text (h : ∀ i ∈ groups.standard ++ groups.project, IsReadable i)
    (bootstraps : List Bootstrap) :
    importsOf (text groups bootstraps) = groups.standard ++ groups.project := by
  have hblock : importBlock ("// Code generated by matte. DO NOT EDIT.\n\npackage main\n\nimport (" ++
      String.join ((importLines groups).map ("\n" ++ ·))) =
        "import (".toList :: (importLines groups).map String.toList := by
    rw [importBlock, ← linesOf, linesOf_opening h, List.takeWhile_eq_self_iff.mpr openingLines_ne]
    rfl
  obtain ⟨rest, htext⟩ := text_eq_append groups bootstraps
  rw [importsOf, htext, importBlock_append, hblock, List.filterMap_cons, filterMap_importLines h]
  rfl

end Reading

end Routewright.Program
