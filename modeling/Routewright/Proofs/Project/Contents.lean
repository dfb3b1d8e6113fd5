import Mathlib.Data.List.Induction
import Routewright.Proofs.Project.Traversal

namespace Routewright

open FileTree Text

namespace FileTree

mutual

def hasPlainNames : FileTree → Bool
  | file _ _ => true
  | directory entries => allPlainNames entries

def allPlainNames : List (String × FileTree) → Bool
  | [] => true
  | (name, t) :: rest => Path.isPlainName name && t.hasPlainNames && allPlainNames rest

end

lemma isPlainName_of_child? {entries : List (String × FileTree)} {name : String} {t : FileTree}
    (h : allPlainNames entries = true) (hchild : child? entries name = some t) :
    Path.isPlainName name = true ∧ t.hasPlainNames = true := by
  induction entries with
  | nil => cases hchild
  | cons e entries ih =>
    obtain ⟨other, u⟩ := e
    simp only [allPlainNames, Bool.and_eq_true] at h
    obtain ⟨⟨hname, ht⟩, hrest⟩ := h
    rw [child?, List.find?_cons] at hchild
    cases heq : other == name with
    | true =>
      simp only [heq, Option.map_some, Option.some.injEq] at hchild
      rw [beq_iff_eq] at heq
      exact ⟨heq ▸ hname, hchild ▸ ht⟩
    | false =>
      simp only [heq] at hchild
      exact ih hrest hchild

lemma isPlainName_of_find {t u : FileTree} {names : List String} (h : t.hasPlainNames = true)
    (hfind : t.find names = .ok u) : ∀ name ∈ names, Path.isPlainName name = true := by
  induction names generalizing t with
  | nil => simp
  | cons name names ih =>
    cases t with
    | file content executable => cases hfind
    | directory entries =>
      obtain ⟨v, hchild, hfind⟩ := find_cons_eq_ok_iff.mp hfind
      obtain ⟨hname, hv⟩ := isPlainName_of_child? h hchild
      exact List.forall_mem_cons.mpr ⟨hname, ih hv hfind⟩

end FileTree

namespace Loading

namespace Place

variable {p : Place}

def sources (p : Place) : List (String × ByteArray) :=
  (FileTree.listing p.entries).entries.filterMap fun
    | (name, .file content _) => if isSource name then some (name, content) else none
    | _ => none

lemma sources_directory (root : String) (p : Place) :
    (p.directory root).sources =
      p.sources.map fun s => (Path.join (p.names.foldl Path.join root) s.1, s.2) := by
  rw [sources, List.map_filterMap, Directory.sources, Directory.listing]
  refine List.filterMap_congr ?_
  rintro ⟨name, t⟩ -
  cases t with
  | directory entries => rfl
  | file content executable =>
    dsimp only
    split_ifs <;> rfl

lemma mem_sources_iff {name : String} {content : ByteArray} : (name, content) ∈ p.sources ↔
    isSource name = true ∧ ∃ executable, child? p.entries name = some (.file content executable) := by
  rw [sources, List.mem_filterMap]
  constructor
  · rintro ⟨⟨other, t⟩, hmem, hs⟩
    have hchild := mem_listing_iff.mp hmem
    cases t with
    | directory entries => cases hs
    | file inner executable =>
      dsimp only at hs
      split_ifs at hs with hsource
      cases hs
      exact ⟨hsource, executable, hchild⟩
  · rintro ⟨hsource, executable, hchild⟩
    exact ⟨(name, .file content executable), mem_listing_iff.mpr hchild, by simp [hsource]⟩

lemma pairwise_sources (p : Place) : p.sources.Pairwise fun s s' => bytes s.1 < bytes s'.1 := by
  rw [sources, List.pairwise_filterMap]
  refine (FileTree.listing p.entries).sorted.imp ?_
  rintro ⟨x, t⟩ ⟨y, u⟩ hlt s hs s' hs'
  cases t with
  | directory entries => cases hs
  | file content executable =>
    cases u with
    | directory entries => cases hs'
    | file content' executable' =>
      dsimp only at hs hs'
      split_ifs at hs hs'
      cases hs
      cases hs'
      exact bytes_lt_iff.mpr hlt

end Place

section Scan

variable {read : FileReader}

structure Draft.Holds (read : FileReader) (sources : List (String × ByteArray)) (d : Draft) :
    Prop where
  files : List.Forall₂ (fun s file => read s.1 s.2 = .ok file) sources d.files
  package_eq : ∀ file ∈ d.files, file.package = d.name
  name_ne : d.files ≠ [] → d.name ≠ ""
  name_eq : d.files = [] → d.name = ""

lemma Draft.failure_fail_ne_none (d : Draft) (failure : Failure) :
    (d.fail failure).failure ≠ none := by
  cases h : d.failure <;> simp [fail, h]

lemma Draft.add_holds (hread : ∀ path content file, read path content = .ok file → file.package ≠ "")
    {directory : String} {sources : List (String × ByteArray)} {s : String × ByteArray} {d : Draft}
    (h : d.failure = none → d.Holds read sources)
    (hadd : (d.add directory s.1 (read s.1 s.2)).failure = none) :
    (d.add directory s.1 (read s.1 s.2)).Holds read (sources ++ [s]) := by
  cases hfile : read s.1 s.2 with
  | error failure =>
    rw [hfile] at hadd
    exact absurd hadd (failure_fail_ne_none d failure)
  | ok file =>
    rw [hfile] at hadd
    simp only [add] at hadd ⊢
    have hnamed : file.package ≠ "" := hread s.1 s.2 file hfile
    have hlast : List.Forall₂ (fun s file => read s.1 s.2 = .ok file) [s] [file] :=
      .cons hfile .nil
    split_ifs at hadd ⊢ with hempty heq
    · obtain ⟨hfiles, -, hne, -⟩ := h hadd
      -- A draft without a name has no files, since no file is without one.
      have hnone : d.files = [] := by
        by_contra hsome
        exact hne hsome (by simpa using hempty)
      exact ⟨List.rel_append hfiles hlast, by simp [hnone], fun _ => hnamed, by simp⟩
    · obtain ⟨hfiles, hpackage, -, -⟩ := h hadd
      exact ⟨List.rel_append hfiles hlast, by simpa [or_imp, forall_and, heq] using hpackage,
        fun _ => heq ▸ hnamed, by simp⟩
    · exact absurd hadd (failure_fail_ne_none d _)

lemma scan_holds (hread : ∀ path content file, read path content = .ok file → file.package ≠ "")
    {d : Directory} (h : (scan read d).failure = none) : (scan read d).Holds read d.sources := by
  rw [scan] at h ⊢
  generalize d.sources = sources at h ⊢
  induction sources using List.reverseRecOn with
  | nil => exact ⟨.nil, by simp, by simp, by simp⟩
  | append_singleton sources s ih =>
    rw [List.foldl_append] at h ⊢
    exact Draft.add_holds hread ih h

end Scan

end Loading

structure Package.Lists (read : FileReader) (modulePath root : String) (t : FileTree)
    (names : List String) (p : Package) : Prop where
  importPath_eq : p.importPath = "/".intercalate (modulePath :: names)
  directory_eq : p.directory = names.foldl Path.join root
  files : ∃ sources : List (String × ByteArray),
    (∀ name content, (name, content) ∈ sources ↔ Loading.isSource name = true ∧
      ∃ executable, t.view (names ++ [name]) = some (.file content executable)) ∧
    sources.Pairwise (fun s s' => bytes s.1 < bytes s'.1) ∧
    List.Forall₂ (fun s file => read (Path.join p.directory s.1) s.2 = .ok file) sources p.files
  package_eq : ∀ file ∈ p.files, file.package = p.name
  name_eq : p.files = [] → p.name = ""

namespace Loading

variable {read : FileReader} {root scratch : String} {t : FileTree}

lemma Place.mem_sources_iff_view {p : Place} (hp : t.find p.names = .ok (.directory p.entries))
    {name : String} {content : ByteArray} : (name, content) ∈ p.sources ↔ isSource name = true ∧
      ∃ executable, t.view (p.names ++ [name]) = some (.file content executable) := by
  simp only [mem_sources_iff, child?_eq_find hp, view_eq_file_iff]
  cases t.find (p.names ++ [name]) <;> simp [Except.toOption]

lemma package_lists
    (hread : ∀ path content file, read path content = .ok file → file.package ≠ "")
    (hplain : t.hasPlainNames = true) {p : Place}
    (hp : t.find p.names = .ok (.directory p.entries))
    (h : (scan read (p.directory root)).failure = none) (modulePath : String) :
    (package modulePath root (p.directory root) (scan read (p.directory root))).Lists read
      modulePath root t p.names := by
  obtain ⟨hfiles, hpackage, -, hname⟩ := scan_holds hread h
  rw [Place.sources_directory, List.forall₂_map_left_iff] at hfiles
  exact
    { importPath_eq := Place.importPath_foldl_join (isPlainName_of_find hplain hp) modulePath root
      directory_eq := rfl
      files := ⟨p.sources, fun _ _ => Place.mem_sources_iff_view hp, p.pairwise_sources, hfiles⟩
      package_eq := hpackage
      name_eq := hname }

lemma Earlier.ne {names names' : List String} (h : Earlier names names') : names ≠ names' := by
  rintro rfl
  obtain hlt | ⟨-, hlex⟩ := h
  · exact Nat.lt_irrefl _ hlt
  · exact List.lex_irrefl (fun x => List.lt_irrefl (bytes x)) names hlex

end Loading

open Loading

theorem Project.load_breadthFirst {read : FileReader} {tree t : FileTree} {root scratch : String}
    {project : Project} (hroot : tree.lookup root = .ok t) (hplain : t.hasPlainNames = true)
    (hread : ∀ path content file, read path content = .ok file → file.package ≠ "")
    (hload : Project.load read tree root scratch = .ok project) :
    Manifest.modulePath tree root = .ok project.modulePath ∧ project.root = root ∧
      ∃ places : List (List String),
        (∀ names, names ∈ places ↔
          Visible (some scratch) names ∧ t.view names = some .directory) ∧
        places.Nodup ∧ places.Pairwise Earlier ∧
        List.Forall₂ (Package.Lists read project.modulePath root t) places project.packages := by
  obtain ⟨modulePath, entries, hpath, hentries, hscan, rfl⟩ := Project.load_eq_ok_iff.mp hload
  obtain rfl : t = .directory entries := Except.ok.inj (hroot.symm.trans hentries)
  refine ⟨hpath, rfl, (Place.all scratch entries).map Place.names, fun names => ?_, ?_, ?_, ?_⟩
  · rw [view_eq_directory_iff, List.mem_map]
    constructor
    · rintro ⟨q, hq, rfl⟩
      obtain ⟨hvisible, hfind⟩ := Place.mem_all_iff.mp hq
      exact ⟨hvisible, q.entries, hfind⟩
    · rintro ⟨hvisible, inner, hfind⟩
      exact ⟨⟨names, inner⟩, Place.mem_all_iff.mpr ⟨hvisible, hfind⟩, rfl⟩
  · exact List.pairwise_map.mpr ((Place.pairwise_all scratch entries).imp Earlier.ne)
  · exact List.pairwise_map.mpr (Place.pairwise_all scratch entries)
  · simp only [Place.directories_eq, List.forall_mem_map] at hscan
    rw [Place.directories_eq, List.map_map, List.forall₂_map_left_iff, List.forall₂_map_right_iff,
      List.forall₂_same]
    exact fun p hp => package_lists hread hplain (Place.mem_all_iff.mp hp).2 (hscan p hp) modulePath

def Project.sampleTree : FileTree :=
  .directory
    [("go.mod", .file "module app\n".toUTF8 false), ("main_test.go", .file .empty false),
      ("main.go", .file .empty false), ("info.go", .file .empty false),
      ("pets", .directory
        [("matte", .directory []), ("testdata", .directory [("cat.go", .file .empty false)])]),
      ("matte", .directory [("app.go", .file .empty false)]),
      (".git", .directory []), ("_old", .directory [("main.go", .file .empty false)]),
      ("api", .directory [("v1", .directory []), ("api.go", .file .empty false)])]

def Project.sampleReader : FileReader := fun path _ =>
  .ok ⟨path, "app", [], []⟩

theorem Project.load_sampleTree : ∃ project : Project,
    Project.load sampleReader sampleTree "." "matte" = .ok project ∧
      project.packages.map (fun p => (p.importPath, p.files.map (·.path))) =
        [("app", ["./info.go", "./main.go"]), ("app/api", ["./api/api.go"]), ("app/pets", []),
          ("app/api/v1", []), ("app/pets/matte", [])] ∧
      ∃ places : List (List String),
        (∀ names, names ∈ places ↔
          Visible (some "matte") names ∧ sampleTree.view names = some .directory) ∧
        places.Nodup ∧ places.Pairwise Earlier ∧
        List.Forall₂ (Package.Lists sampleReader project.modulePath "." sampleTree) places
          project.packages := by
  have hpackages : (Project.load sampleReader sampleTree "." "matte").map (fun project =>
      project.packages.map fun p => (p.importPath, p.files.map (·.path))) =
        .ok [("app", ["./info.go", "./main.go"]), ("app/api", ["./api/api.go"]), ("app/pets", []),
          ("app/api/v1", []), ("app/pets/matte", [])] := by
    decide +kernel
  obtain ⟨project, hload, hlist⟩ := except_map_eq_ok_iff.mp hpackages
  have hread : ∀ path content file, sampleReader path content = .ok file → file.package ≠ "" := by
    rintro path content file ⟨⟩
    exact (by decide : "app" ≠ "")
  have hnames : sampleTree.names "." = .ok [] := by
    decide +kernel
  have hroot : sampleTree.lookup "." = .ok sampleTree :=
    lookup_of_names hnames
  obtain ⟨-, -, hplaces⟩ := Project.load_breadthFirst hroot (by decide +kernel) hread hload
  exact ⟨project, hload, hlist, hplaces⟩

end Routewright
