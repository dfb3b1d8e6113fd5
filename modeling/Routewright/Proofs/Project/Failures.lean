import Routewright.Proofs.Project.Contents
import Routewright.Proofs.Search

namespace Routewright

open Go Text

namespace Loading

section Scan

variable {read : FileReader} {directory : String} {draft : Draft}

def fault? (read : FileReader) (directory name : String) (s : String × ByteArray) :
    Option Failure :=
  match read s.1 s.2 with
  | .error failure => some failure
  | .ok file =>
    if file.package = name then none
    else some (.source s.1 (.mixedPackages name file.package directory))

def declared? (read : FileReader) (s : String × ByteArray) : Option String :=
  (read s.1 s.2).toOption.map (·.package)

def firstName (read : FileReader) (sources : List (String × ByteArray)) : String :=
  (sources.findSome? (declared? read)).getD ""

lemma Draft.add_named (read : FileReader) (directory : String) (hname : draft.name ≠ "")
    (s : String × ByteArray) :
    (draft.add directory s.1 (read s.1 s.2)).name = draft.name ∧
      (draft.add directory s.1 (read s.1 s.2)).failure =
        draft.failure.or (fault? read directory draft.name s) := by
  have hne : draft.name.isEmpty = false := by simpa using hname
  rw [fault?]
  cases read s.1 s.2 with
  | error failure => exact ⟨rfl, rfl⟩
  | ok file =>
    by_cases heq : draft.name = file.package
    · simp [add, heq]
    · simp [add, hne, heq, Ne.symm heq, fail]

lemma foldl_add_named (hname : draft.name ≠ "") (sources : List (String × ByteArray)) :
    (sources.foldl (fun draft s => draft.add directory s.1 (read s.1 s.2)) draft).failure =
      draft.failure.or (sources.findSome? (fault? read directory draft.name)) := by
  induction sources generalizing draft with
  | nil => simp
  | cons s sources ih =>
    obtain ⟨hsame, hfailure⟩ := Draft.add_named read directory hname s
    rw [List.foldl_cons, ih (hsame ▸ hname), hsame, hfailure, Option.or_assoc, List.findSome?_cons]
    cases fault? read directory draft.name s <;> rfl

lemma foldl_add_unnamed
    (hread : ∀ path content file, read path content = .ok file → file.package ≠ "")
    (hname : draft.name = "") (sources : List (String × ByteArray)) :
    (sources.foldl (fun draft s => draft.add directory s.1 (read s.1 s.2)) draft).failure =
      draft.failure.or (sources.findSome? (fault? read directory (firstName read sources))) := by
  induction sources generalizing draft with
  | nil => simp
  | cons s sources ih =>
    rw [List.foldl_cons, List.findSome?_cons]
    cases hs : read s.1 s.2 with
    | error failure =>
      have hfirst : firstName read (s :: sources) = firstName read sources := by
        simp [firstName, declared?, hs, Except.toOption]
      have hfault : fault? read directory (firstName read sources) s = some failure := by
        simp [fault?, hs]
      have hfail : (draft.add directory s.1 (.error failure)).name = "" := hname
      rw [ih hfail, hfirst, hfault]
      exact Option.or_assoc
    | ok file =>
      have hfirst : firstName read (s :: sources) = file.package := by
        simp [firstName, declared?, hs, Except.toOption]
      have hfault : fault? read directory file.package s = none := by
        simp [fault?, hs]
      have hadd : draft.add directory s.1 (.ok file) =
          { draft with name := file.package, files := draft.files ++ [file] } := by
        simp [Draft.add, hname]
      rw [hadd, foldl_add_named (hread _ _ _ hs), hfirst, hfault]

lemma scan_failure
    (hread : ∀ path content file, read path content = .ok file → file.package ≠ "")
    (d : Directory) : (scan read d).failure =
      d.sources.findSome? (fault? read d.path (firstName read d.sources)) :=
  foldl_add_unnamed hread rfl d.sources

end Scan

lemma Earlier.asymm {names names' : List String} (h : Earlier names names') :
    ¬Earlier names' names := by
  rcases h with hlt | ⟨hlength, hlex⟩
  · rintro (hgt | ⟨hlength, -⟩)
    · omega
    · omega
  · rintro (hgt | ⟨-, hlex'⟩)
    · omega
    · exact List.lex_asymm (fun hlt hgt => List.lt_asymm hlt hgt) hlex hlex'

structure Source where
  names : List String
  name : String
  content : ByteArray

namespace Source

def directory (root : String) (s : Source) : String :=
  s.names.foldl Path.join root

def path (root : String) (s : Source) : String :=
  Path.join (s.directory root) s.name

def file (read : FileReader) (root : String) (s : Source) : Except Failure SourceFile :=
  read (s.path root) s.content

structure IsLoaded (scratch : String) (t : FileTree) (s : Source) : Prop where
  visible : Visible (some scratch) s.names
  isSource : Loading.isSource s.name = true
  view_eq : ∃ executable, t.view (s.names ++ [s.name]) = some (.file s.content executable)

def Before (s s' : Source) : Prop :=
  Earlier s.names s'.names ∨ s.names = s'.names ∧ bytes s.name < bytes s'.name

def Leads (read : FileReader) (root scratch : String) (t : FileTree) (names : List String) :
    Source → Prop :=
  IsFirst Before fun s =>
    s.IsLoaded scratch t ∧ s.names = names ∧ ∃ file, s.file read root = .ok file

/-- What can be wrong with a file: it cannot be read, or it declares another name than the first
file of its directory that can be read. -/
inductive HasFault (read : FileReader) (root scratch : String) (t : FileTree) (s : Source) :
    Failure → Prop
  | unreadable {failure : Failure} (h : s.file read root = .error failure) :
      HasFault read root scratch t s failure
  | mixed {first : Source} {file file' : SourceFile}
      (hfirst : first.Leads read root scratch t s.names) (hfile : first.file read root = .ok file)
      (hfile' : s.file read root = .ok file') (hne : file.package ≠ file'.package) :
      HasFault read root scratch t s
        (.source (s.path root) (.mixedPackages file.package file'.package (s.directory root)))

def IsAtFault (read : FileReader) (root scratch : String) (t : FileTree) (s : Source) : Prop :=
  s.IsLoaded scratch t ∧ ∃ failure, s.HasFault read root scratch t failure

lemma Before.asymm {s s' : Source} (h : s.Before s') : ¬s'.Before s := by
  rcases h with h | ⟨hnames, hlt⟩
  · rintro (h' | ⟨hnames, -⟩)
    · exact h.asymm h'
    · exact h.ne hnames.symm
  · rintro (h' | ⟨-, hgt⟩)
    · exact h'.ne hnames.symm
    · exact List.lt_asymm hlt hgt

end Source

section Files

variable {scratch : String} {entries : List (String × FileTree)} {p : Place} {s : Source}

def Source.asRead (root : String) (s : Source) : String × ByteArray :=
  (s.path root, s.content)

def Place.files (p : Place) : List Source :=
  p.sources.map fun s => ⟨p.names, s.1, s.2⟩

def files (scratch : String) (entries : List (String × FileTree)) : List Source :=
  (Place.all scratch entries).flatMap Place.files

lemma Place.sources_eq_files (root : String) (p : Place) :
    (p.directory root).sources = p.files.map (Source.asRead root) := by
  rw [sources_directory, files, List.map_map]
  rfl

lemma Place.mem_files_iff : s ∈ p.files ↔ s.names = p.names ∧ (s.name, s.content) ∈ p.sources := by
  rw [files, List.mem_map]
  constructor
  · rintro ⟨x, hx, rfl⟩
    exact ⟨rfl, hx⟩
  · rintro ⟨hnames, hs⟩
    exact ⟨_, hs, by rw [← hnames]⟩

lemma Place.pairwise_files (p : Place) : p.files.Pairwise Source.Before := by
  rw [files, List.pairwise_map]
  exact p.pairwise_sources.imp fun hlt => .inr ⟨rfl, hlt⟩

lemma pairwise_files (scratch : String) (entries : List (String × FileTree)) :
    (files scratch entries).Pairwise Source.Before := by
  rw [files, List.pairwise_flatMap]
  refine ⟨fun p _ => p.pairwise_files, (Place.pairwise_all scratch entries).imp ?_⟩
  intro p q hearlier s hs s' hs'
  rw [← (Place.mem_files_iff.mp hs).1, ← (Place.mem_files_iff.mp hs').1] at hearlier
  exact .inl hearlier

lemma Place.mem_files_iff_isLoaded (hp : p ∈ Place.all scratch entries) :
    s ∈ p.files ↔ s.IsLoaded scratch (.directory entries) ∧ s.names = p.names := by
  obtain ⟨hvisible, hfind⟩ := Place.mem_all_iff.mp hp
  rw [Place.mem_files_iff, Place.mem_sources_iff_view hfind]
  constructor
  · rintro ⟨hnames, hsource, hview⟩
    rw [← hnames] at hvisible hview
    exact ⟨⟨hvisible, hsource, hview⟩, hnames⟩
  · rintro ⟨⟨-, hsource, hview⟩, hnames⟩
    rw [hnames] at hview
    exact ⟨hnames, hsource, hview⟩

lemma mem_files_iff : s ∈ files scratch entries ↔ s.IsLoaded scratch (.directory entries) := by
  rw [files, List.mem_flatMap]
  constructor
  · rintro ⟨p, hp, hs⟩
    exact ((Place.mem_files_iff_isLoaded hp).mp hs).1
  · intro h
    obtain ⟨executable, hview⟩ := h.view_eq
    -- What holds a file is a directory, so the file stands at a place.
    obtain ⟨inner, hinner⟩ := FileTree.view_eq_directory_iff.mp (FileTree.view_base_of_some hview)
    have hp : (⟨s.names, inner⟩ : Place) ∈ Place.all scratch entries :=
      Place.mem_all_iff.mpr ⟨h.visible, hinner⟩
    exact ⟨_, hp, (Place.mem_files_iff_isLoaded hp).mpr ⟨h, rfl⟩⟩

end Files

section Faults

variable {read : FileReader} {root scratch : String} {t : FileTree}
  {entries : List (String × FileTree)} {p : Place} {s : Source} {failure : Failure}

def nameAt (read : FileReader) (root : String) (t : FileTree) (names : List String) : String :=
  match t.find names with
  | .ok (.directory entries) =>
    firstName read ((⟨names, entries⟩ : Place).files.map (Source.asRead root))
  | _ => ""

def Source.fault? (read : FileReader) (root : String) (t : FileTree) (s : Source) :
    Option Failure :=
  Loading.fault? read (s.directory root) (nameAt read root t s.names) (s.asRead root)

lemma nameAt_of_mem (hp : p ∈ Place.all scratch entries) :
    nameAt read root (.directory entries) p.names =
      firstName read (p.files.map (Source.asRead root)) := by
  rw [nameAt, (Place.mem_all_iff.mp hp).2]

lemma Place.scan_failure
    (hread : ∀ path content file, read path content = .ok file → file.package ≠ "")
    (hp : p ∈ Place.all scratch entries) : (scan read (p.directory root)).failure =
      p.files.findSome? (Source.fault? read root (.directory entries)) := by
  rw [Loading.scan_failure hread, Place.sources_eq_files, List.findSome?_map]
  apply findSome?_congr
  intro s hs
  obtain ⟨hnames, -⟩ := Place.mem_files_iff.mp hs
  rw [Source.fault?, Source.directory, hnames, nameAt_of_mem hp]
  rfl

lemma findSome?_scan_failure
    (hread : ∀ path content file, read path content = .ok file → file.package ≠ "")
    (scratch : String) (entries : List (String × FileTree)) :
    (directories scratch root entries).findSome? (fun d => (scan read d).failure) =
      (files scratch entries).findSome? (Source.fault? read root (.directory entries)) := by
  rw [files, findSome?_flatMap, Place.directories_eq, List.findSome?_map]
  apply findSome?_congr
  exact fun p hp => Place.scan_failure hread hp

lemma declared?_eq_some_iff {name : String} : declared? read (s.asRead root) = some name ↔
    ∃ file, s.file read root = .ok file ∧ file.package = name := by
  rw [declared?, Option.map_eq_some_iff]
  refine exists_congr fun file => and_congr_left fun _ => ?_
  rw [Source.asRead, Source.file]
  cases read (s.path root) s.content <;> simp [Except.toOption]

lemma Source.leads_iff (hp : p ∈ Place.all scratch entries) :
    s.Leads read root scratch (.directory entries) p.names ↔
      IsFirst Before
        (fun s => s ∈ p.files ∧ ∃ name, declared? read (s.asRead root) = some name) s := by
  have hsame : (fun s : Source => s.IsLoaded scratch (.directory entries) ∧ s.names = p.names ∧
      ∃ file, s.file read root = .ok file) =
        fun s => s ∈ p.files ∧ ∃ name, declared? read (s.asRead root) = some name := by
    funext s
    simp only [Place.mem_files_iff_isLoaded hp, declared?_eq_some_iff, and_assoc]
    simp
  rw [Leads, hsame]

lemma nameAt_eq_iff (hp : p ∈ Place.all scratch entries) (name : String)
    (hsome : ∃ s ∈ p.files, ∃ file, s.file read root = .ok file) :
    nameAt read root (.directory entries) p.names = name ↔
      ∃ first : Source, first.Leads read root scratch (.directory entries) p.names ∧
        ∃ file, first.file read root = .ok file ∧ file.package = name := by
  have hfound : ((p.files.map (Source.asRead root)).findSome? (declared? read)).isSome = true := by
    obtain ⟨s, hs, file, hfile⟩ := hsome
    refine List.findSome?_isSome_iff.mpr ⟨_, List.mem_map_of_mem hs, ?_⟩
    rw [declared?_eq_some_iff.mpr ⟨file, hfile, rfl⟩]
    rfl
  obtain ⟨found, hfound⟩ := Option.isSome_iff_exists.mp hfound
  have hfirst : found = name ↔
      p.files.findSome? (declared? read ∘ Source.asRead root) = some name := by
    rw [← List.findSome?_map, hfound, Option.some.injEq]
  rw [nameAt_of_mem hp, firstName, hfound, Option.getD_some, hfirst,
    findSome?_eq_some_iff_isFirst (fun _ _ => Source.Before.asymm) p.pairwise_files]
  refine exists_congr fun first => ?_
  rw [Source.leads_iff hp, Function.comp_apply, declared?_eq_some_iff]
  rfl

lemma Source.fault?_of_error (h : s.file read root = .error failure) :
    s.fault? read root t = some failure := by
  rw [file] at h
  simp [fault?, Loading.fault?, asRead, h]

lemma Source.fault?_of_ok {file : SourceFile} (h : s.file read root = .ok file) :
    s.fault? read root t =
      if file.package = nameAt read root t s.names then none
      else some (.source (s.path root)
        (.mixedPackages (nameAt read root t s.names) file.package (s.directory root))) := by
  rw [Source.file] at h
  simp [fault?, Loading.fault?, asRead, h]

lemma Source.fault?_eq_some_iff (hs : s.IsLoaded scratch (.directory entries)) :
    s.fault? read root (.directory entries) = some failure ↔
      s.HasFault read root scratch (.directory entries) failure := by
  obtain ⟨p, hp, hmem⟩ := List.mem_flatMap.mp (mem_files_iff.mpr hs)
  obtain ⟨hnames, -⟩ := Place.mem_files_iff.mp hmem
  cases hfile : s.file read root with
  | error cause =>
    rw [fault?_of_error hfile, Option.some.injEq]
    constructor
    · rintro rfl
      exact .unreadable hfile
    · rintro (h | ⟨-, -, hfile', -⟩)
      · exact Except.error.inj (hfile.symm.trans h)
      · cases hfile.symm.trans hfile'
  | ok file =>
    -- The file itself can be read, so one file of its directory leads.
    have hname := fun name => nameAt_eq_iff hp name ⟨s, hmem, file, hfile⟩
    rw [fault?_of_ok hfile, hnames]
    constructor
    · intro h
      split_ifs at h with hne
      obtain ⟨first, hfirst, other, hother, hsame⟩ := (hname _).mp rfl
      rw [← hsame] at h hne
      rw [← Option.some.inj h]
      exact .mixed (hnames ▸ hfirst) hother hfile (Ne.symm hne)
    · rintro (h | ⟨hfirst, hother, hfile', hne⟩)
      · cases hfile.symm.trans h
      · obtain rfl := Except.ok.inj (hfile.symm.trans hfile')
        rw [(hname _).mpr ⟨_, hnames ▸ hfirst, _, hother, rfl⟩, if_neg (Ne.symm hne)]

end Faults

end Loading

open Loading

variable {read : FileReader} {tree : FileTree} {root scratch modulePath : String}
  {entries : List (String × FileTree)}

lemma Project.load_eq_error_iff {failure : Failure}
    (hmanifest : Manifest.modulePath tree root = .ok modulePath)
    (hroot : tree.lookup root = .ok (.directory entries))
    (hread : ∀ path content file, read path content = .ok file → file.package ≠ "") :
    Project.load read tree root scratch = .error failure ↔
      (files scratch entries).findSome? (Source.fault? read root (.directory entries)) =
        some failure := by
  rw [Project.load, hmanifest, except_ok_bind, hroot, ← findSome?_scan_failure hread]
  simp only [List.findSome?_map, Function.comp_def]
  cases (directories scratch root entries).findSome? fun d => (scan read d).failure <;> simp

theorem Project.load_firstFailure
    (hmanifest : Manifest.modulePath tree root = .ok modulePath)
    (hroot : tree.lookup root = .ok (.directory entries))
    (hread : ∀ path content file, read path content = .ok file → file.package ≠ "") :
    ((∃ failure, Project.load read tree root scratch = .error failure) ↔
      ∃ s : Source, s.IsAtFault read root scratch (.directory entries)) ∧
    (∀ failure, Project.load read tree root scratch = .error failure ↔
      ∃ s : Source,
        IsFirst Source.Before (Source.IsAtFault read root scratch (.directory entries)) s ∧
          s.HasFault read root scratch (.directory entries) failure) ∧
    ∀ file first second directory,
      (Failure.source file (.mixedPackages first second directory)).message =
        "parse error in " ++
          s!"{file}:1:1: found packages {first} and {second} in {directory}" := by
  have hfault : ∀ s : Source,
      (s ∈ files scratch entries ∧
        ∃ failure, s.fault? read root (.directory entries) = some failure) ↔
          s.IsAtFault read root scratch (.directory entries) := by
    intro s
    rw [mem_files_iff]
    exact and_congr_right fun hs => exists_congr fun failure => Source.fault?_eq_some_iff hs
  simp only [Project.load_eq_error_iff hmanifest hroot hread]
  refine ⟨?_, fun failure => ?_, fun _ _ _ _ => rfl⟩
  · rw [← Option.isSome_iff_exists, List.findSome?_isSome_iff]
    simp only [Option.isSome_iff_exists, hfault]
  · rw [findSome?_eq_some_iff_isFirst (fun _ _ => Source.Before.asymm)
      (pairwise_files scratch entries)]
    simp only [hfault]
    exact exists_congr fun s => and_congr_right fun hs => Source.fault?_eq_some_iff hs.1.1

def Project.faultyTree : FileTree :=
  .directory
    [("go.mod", .file "module app\n".toUTF8 false), ("main.go", .file .empty false),
      ("zoo", .directory [("bad.go", .file .empty false)]),
      ("api", .directory
        [("aa", .directory [("bad.go", .file .empty false)]), ("a.go", .file .empty false),
          ("bad.go", .file .empty false), ("b.go", .file .empty false)])]

def Project.faultyReader : FileReader := fun path _ =>
  if path ∈ ["./zoo/bad.go", "./api/aa/bad.go", "./api/bad.go"] then
    .error (.source path .malformed)
  else .ok ⟨path, if path = "./api/b.go" then "other" else "api", [], []⟩

theorem Project.load_faultyTree :
    Project.load faultyReader faultyTree "." "matte" =
      .error (.source "./api/b.go" (.mixedPackages "api" "other" "./api")) ∧
    ∃ s : Source, IsFirst Source.Before (Source.IsAtFault faultyReader "." "matte" faultyTree) s ∧
      s.HasFault faultyReader "." "matte" faultyTree
        (.source "./api/b.go" (.mixedPackages "api" "other" "./api")) := by
  have hfailure : (Project.load faultyReader faultyTree "." "matte").map (fun _ => ()) =
      .error (.source "./api/b.go" (.mixedPackages "api" "other" "./api")) := by
    decide +kernel
  have hload := except_map_eq_error_iff.mp hfailure
  have hread : ∀ path content file, faultyReader path content = .ok file → file.package ≠ "" := by
    intro path content file h
    rw [faultyReader] at h
    split_ifs at h
    · obtain rfl := Except.ok.inj h
      exact (by decide : "other" ≠ "")
    · obtain rfl := Except.ok.inj h
      exact (by decide : "api" ≠ "")
  have hnames : faultyTree.names "." = .ok [] := by
    decide +kernel
  have hmanifest : Manifest.modulePath faultyTree "." = .ok "app" := by
    decide +kernel
  have hroot : faultyTree.lookup "." = .ok faultyTree :=
    FileTree.lookup_of_names hnames
  exact ⟨hload, ((Project.load_firstFailure hmanifest hroot hread).2.1 _).mp hload⟩

end Routewright
