import Routewright.Program.Imports
import Routewright.Proofs.Project.Traversal
import Routewright.Proofs.Text.Pieces

namespace Routewright

open Text

namespace Path

variable {path root name : String} {names parts : List String}

def IsName (name : String) : Prop :=
  name ≠ "" ∧ name ≠ "." ∧ '/' ∉ name.toList

def withoutDot : List String → List String
  | [] => []
  | name :: rest => if name = "." then rest else name :: rest

lemma withoutDot_names (hnames : ∀ name ∈ names, IsName name) : withoutDot names = names := by
  cases names with
  | nil => rfl
  | cons name rest => exact if_neg (hnames name List.mem_cons_self).2.1

lemma isName_of_mem_filter (hparts : ∀ part ∈ parts, '/' ∉ part.toList)
    (h : name ∈ parts.filter fun part => decide (part ≠ "" ∧ part ≠ ".")) : IsName name := by
  obtain ⟨hmem, hcounts⟩ := List.mem_filter.mp h
  obtain ⟨hempty, hdot⟩ := of_decide_eq_true hcounts
  exact ⟨hempty, hdot, hparts name hmem⟩

lemma significant_of_head (h : parts.head? ≠ some ".") :
    significant false parts = parts.filter fun part => decide (part ≠ "" ∧ part ≠ ".") := by
  cases parts with
  | nil => rfl
  | cons part rest =>
    have hdot : part ≠ "." := by
      simpa using h
    simp [significant, hdot]

lemma exists_components (path : String) : ∃ lead names, components path = lead ++ names ∧
    (lead = [] ∨ lead = ["/"] ∨ lead = ["."]) ∧ ∀ name ∈ names, IsName name := by
  have hparts : ∀ part ∈ (splitOnChar '/' path.toList).map String.ofList, '/' ∉ part.toList := by
    intro part hpart
    obtain ⟨piece, hpiece, rfl⟩ := List.mem_map.mp hpart
    rw [String.toList_ofList]
    exact not_mem_of_mem_splitOnChar hpiece
  rw [components_eq]
  generalize (splitOnChar '/' path.toList).map String.ofList = parts at hparts
  cases decide (path.toList.head? = some '/') with
  | true => exact ⟨["/"], _, rfl, .inr (.inl rfl), fun _ => isName_of_mem_filter hparts⟩
  | false =>
    by_cases hdot : parts.head? = some "."
    · obtain ⟨rest, rfl⟩ := List.head?_eq_some_iff.mp hdot
      exact ⟨["."], _, rfl, .inr (.inr rfl),
        fun _ => isName_of_mem_filter fun part h => hparts part (List.mem_cons_of_mem _ h)⟩
    · exact ⟨[], _, significant_of_head hdot, .inl rfl, fun _ => isName_of_mem_filter hparts⟩

lemma splitOnChar_names (hne : names ≠ []) (hnames : ∀ name ∈ names, IsName name) :
    (splitOnChar '/' ("/".intercalate names).toList).map String.ofList = names := by
  have hslash : "/".toList = ['/'] := rfl
  rw [String.toList_intercalate, hslash, splitOnChar_intercalate (by simpa using hne)
    (List.forall_mem_map.mpr fun name hname => (hnames name hname).2.2), List.map_map]
  simp [Function.comp_def]

lemma filter_names (hnames : ∀ name ∈ names, IsName name) :
    (names.filter fun name => decide (name ≠ "" ∧ name ≠ ".")) = names :=
  List.filter_eq_self.mpr fun name hname =>
    decide_eq_true ⟨(hnames name hname).1, (hnames name hname).2.1⟩

lemma components_intercalate {lead : List String} (hlead : lead = [] ∨ lead = ["/"])
    (hnames : ∀ name ∈ names, IsName name) :
    components ("/".intercalate (lead ++ names)) = lead ++ names := by
  cases names with
  | nil => rcases hlead with rfl | rfl <;> decide
  | cons name rest =>
    have hpieces := splitOnChar_names (List.cons_ne_nil name rest) hnames
    obtain ⟨hempty, hdot, hslash⟩ := hnames name List.mem_cons_self
    rcases hlead with rfl | rfl
    · have hhead : ("/".intercalate (name :: rest)).toList.head? ≠ some '/' := by
        have hname : name.toList ≠ [] := mt String.toList_eq_nil_iff.mp hempty
        intro h
        refine hslash (List.mem_of_head? ?_)
        cases rest with
        | nil => rwa [String.intercalate_singleton] at h
        | cons next rest =>
          rwa [String.intercalate_cons_cons, String.toList_append, String.toList_append,
            List.append_assoc, List.head?_append_of_ne_nil _ hname] at h
      rw [List.nil_append, components_eq, hpieces, decide_eq_false hhead,
        significant_of_head (by simpa using hdot), filter_names hnames]
    · have htext : ("/".intercalate (["/"] ++ name :: rest)).toList =
          '/' :: '/' :: ("/".intercalate (name :: rest)).toList := by
        rw [List.singleton_append, String.intercalate_cons_cons, String.toList_append,
          String.toList_append]
        rfl
      have hparts : (splitOnChar '/' ('/' :: '/' :: ("/".intercalate (name :: rest)).toList)).map
          String.ofList = "" :: "" :: name :: rest :=
        congrArg (fun l => "" :: "" :: l) hpieces
      rw [components_eq, htext, hparts]
      exact congrArg ("/" :: ·) (filter_names hnames)

lemma components_eq_nil_iff : components path = [] ↔ path = "" := by
  constructor
  · intro h
    by_contra hne
    obtain ⟨c, r, hpath⟩ := List.exists_cons_of_ne_nil (mt String.toList_eq_nil_iff.mp hne)
    rw [components_eq, hpath] at h
    by_cases hc : c = '/'
    · subst hc
      cases h
    · obtain ⟨w, ws, hpieces⟩ : ∃ w ws, splitOnChar '/' (c :: r) = (c :: w) :: ws := by
        rw [splitOnChar, splitWhere, if_neg (by simpa using hc)]
        cases splitWhere (· == '/') r with
        | nil => exact ⟨[], [], rfl⟩
        | cons w ws => exact ⟨w, ws, rfl⟩
      have hhead : (c :: r).head? ≠ some '/' := by
        simpa using hc
      have hempty : String.ofList (c :: w) ≠ "" := by
        simp
      rw [hpieces, decide_eq_false hhead, List.map_cons] at h
      by_cases hdot : String.ofList (c :: w) = "."
      · rw [hdot] at h
        cases h
      · rw [significant_of_head (by simpa using hdot)] at h
        exact List.filter_eq_nil_iff.mp h _ List.mem_cons_self (decide_eq_true ⟨hempty, hdot⟩)
  · rintro rfl
    decide

lemma exists_names (h : components path = components root ++ names) :
    ∃ lead rest, names = lead ++ rest ∧ (lead = [] ∨ root = "" ∧ (lead = ["/"] ∨ lead = ["."])) ∧
      ∀ name ∈ rest, IsName name := by
  obtain ⟨lead, rest, hpath, hlead, hrest⟩ := exists_components path
  rw [h] at hpath
  cases hroot : components root with
  | nil =>
    rw [hroot, List.nil_append] at hpath
    exact ⟨lead, rest, hpath, hlead.imp_right (⟨components_eq_nil_iff.mp hroot, ·⟩), hrest⟩
  | cons first others =>
    rw [hroot] at hpath
    refine ⟨[], names, rfl, .inl rfl, fun name hname => hrest name ?_⟩
    rcases hlead with rfl | rfl | rfl
    · obtain rfl : first :: others ++ names = rest := hpath
      simp [hname]
    · obtain rfl : others ++ names = rest := (List.cons.inj hpath).2
      simp [hname]
    · obtain rfl : others ++ names = rest := (List.cons.inj hpath).2
      simp [hname]

end Path

section Agreement

open Routewright.Path

variable {modulePath root d e path : String} {names others : List String}

def pathOf (modulePath : String) : List String → String
  | [] => modulePath
  | names => modulePath ++ "/" ++ "/".intercalate names

lemma importPath_eq (h : components d = components root ++ names) :
    importPath modulePath root d = pathOf modulePath (withoutDot names) := by
  obtain ⟨lead, rest, rfl, hlead, hrest⟩ := exists_names h
  have hself : rest.filter (· ≠ ".") = rest :=
    List.filter_eq_self.mpr fun name hname => decide_eq_true (hrest name hname).2.1
  have hnames : (lead ++ rest).filter (· ≠ ".") = withoutDot (lead ++ rest) := by
    rw [List.filter_append, hself]
    rcases hlead with rfl | ⟨-, rfl | rfl⟩
    · exact (withoutDot_names hrest).symm
    · rfl
    · rfl
  simp only [importPath, h, Loading.Place.relative_append, hnames]
  cases withoutDot (lead ++ rest) <;> rfl

lemma components_withoutDot (h : components d = components root ++ names) :
    components ("/".intercalate (withoutDot names)) = withoutDot names := by
  obtain ⟨lead, rest, rfl, hlead, hrest⟩ := exists_names h
  obtain ⟨start, hstart, heq⟩ : ∃ start, (start = [] ∨ start = ["/"]) ∧
      withoutDot (lead ++ rest) = start ++ rest := by
    rcases hlead with rfl | ⟨-, rfl | rfl⟩
    · exact ⟨[], .inl rfl, withoutDot_names hrest⟩
    · exact ⟨["/"], .inr rfl, rfl⟩
    · exact ⟨[], .inl rfl, rfl⟩
  rw [heq]
  exact components_intercalate hstart hrest

lemma pathOf_eq_iff : pathOf modulePath names = modulePath ↔ names = [] := by
  cases names with
  | nil => exact iff_of_true rfl rfl
  | cons name rest =>
    refine iff_of_false (fun h => ?_) (List.cons_ne_nil _ _)
    have hlength := congrArg String.length h
    have hslash : "/".length = 1 := rfl
    simp only [pathOf, String.length_append] at hlength
    omega

lemma pathOf_inj (h : pathOf modulePath names = pathOf modulePath others)
    (hnames : components ("/".intercalate names) = names)
    (hothers : components ("/".intercalate others) = others) : names = others := by
  cases names with
  | nil => exact (pathOf_eq_iff.mp h.symm).symm
  | cons name rest =>
    cases others with
    | nil => exact pathOf_eq_iff.mp h
    | cons other more =>
      have htext : "/".intercalate (name :: rest) = "/".intercalate (other :: more) := by
        have hlists := congrArg String.toList h
        simp only [pathOf, String.toList_append] at hlists
        exact String.toList_inj.mp (List.append_cancel_left hlists)
      rw [← hnames, ← hothers, htext]

lemma isProjectImport_iff : Program.isProjectImport path modulePath = true ↔
    path = modulePath ∨ ∃ rest, path = modulePath ++ "/" ++ rest := by
  rw [Program.isProjectImport]
  constructor
  · intro h
    cases hdrop : dropStart? modulePath.toList path.toList with
    | none =>
      rw [hdrop] at h
      cases h
    | some rest =>
      have htext : modulePath.toList ++ rest = path.toList :=
        dropStart?_eq_some_iff.mp hdrop
      simp only [hdrop, Bool.or_eq_true, List.isEmpty_iff, beq_iff_eq] at h
      rcases h with rfl | h
      · exact .inl (String.toList_inj.mp (by rw [← htext, List.append_nil]))
      · obtain ⟨rest, rfl⟩ := List.head?_eq_some_iff.mp h
        exact .inr ⟨.ofList rest, String.toList_inj.mp (by simp [← htext])⟩
  · rintro (rfl | ⟨rest, rfl⟩)
    · have hself := dropStart?_append path.toList []
      rw [List.append_nil] at hself
      rw [hself]
      rfl
    · rw [String.toList_append, String.toList_append, List.append_assoc, dropStart?_append]
      rfl

theorem importPath_agrees (modulePath : String) (hd : components d = components root ++ names)
    (he : components e = components root ++ others) :
    (importPath modulePath root d = importPath modulePath root e ↔
      withoutDot names = withoutDot others) ∧
    (importPath modulePath root d = modulePath ↔ withoutDot names = []) ∧
    (root ≠ "" → withoutDot names = names ∧ withoutDot others = others) ∧
    Program.isProjectImport (importPath modulePath root d) modulePath = true ∧
    ∀ path, Program.isProjectImport path modulePath = true ↔
      path = modulePath ∨ ∃ rest, path = modulePath ++ "/" ++ rest := by
  have hself : ∀ {path names}, components path = components root ++ names → root ≠ "" →
      withoutDot names = names := by
    intro path names h hroot
    obtain ⟨lead, rest, rfl, hlead, hrest⟩ := exists_names h
    obtain rfl := hlead.resolve_right fun hempty => hroot hempty.1
    exact withoutDot_names hrest
  refine ⟨⟨fun h => ?_, fun h => ?_⟩, ?_, fun hroot => ⟨hself hd hroot, hself he hroot⟩, ?_,
    fun path => isProjectImport_iff⟩
  · rw [importPath_eq hd, importPath_eq he] at h
    exact pathOf_inj h (components_withoutDot hd) (components_withoutDot he)
  · rw [importPath_eq hd, importPath_eq he, h]
  · rw [importPath_eq hd, pathOf_eq_iff]
  · rw [isProjectImport_iff, importPath_eq hd]
    cases withoutDot names with
    | nil => exact .inl rfl
    | cons name rest => exact .inr ⟨_, rfl⟩

theorem importPath_agrees_lib :
    importPath "app" "src/../lib/" "src/../lib//api/./v1" ≠
        importPath "app" "src/../lib/" "src/../lib/api" ∧
      Program.isProjectImport (importPath "app" "src/../lib/" "src/../lib//api/./v1") "app" = true := by
  have hd : components "src/../lib//api/./v1" = components "src/../lib/" ++ ["api", "v1"] := by
    decide +kernel
  have he : components "src/../lib/api" = components "src/../lib/" ++ ["api"] := by
    decide +kernel
  obtain ⟨hsame, -, -, hproject, -⟩ := importPath_agrees "app" hd he
  exact ⟨fun h => absurd (hsame.mp h) (by decide), hproject⟩

/-- Below the empty path, a dot in front is a component but no part of the import path. -/
theorem importPath_ignores_dot :
    components "a" = components "" ++ ["a"] ∧ components "./a" = components "" ++ [".", "a"] ∧
      importPath "app" "" "a" = importPath "app" "" "./a" := by
  decide +kernel

end Agreement

end Routewright
