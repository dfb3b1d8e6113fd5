import Routewright.Proofs.Build.Pipeline
import Routewright.Proofs.Go.LanguageVersion

namespace Routewright

open FileTree Go.Manifest Text

namespace Project.Manifest

variable {t : FileTree} {root path : String} {bytes : ByteArray} {v : Version}

def IsRecent (v : Version) : Prop :=
  1 < v.major ∨ v.major = 1 ∧ 22 ≤ v.minor

instance (v : Version) : Decidable (IsRecent v) :=
  inferInstanceAs (Decidable (_ ∨ _))

def Admits (bytes : ByteArray) (path : String) : Prop :=
  modulePath? bytes = some path ∧ ∃ v, version? bytes = some v ∧ IsRecent v

lemma atLeast_oldestVersion_iff : v.atLeast oldestVersion = true ↔ IsRecent v := by
  rw [Version.atLeast, Bool.or_eq_true, Bool.and_eq_true, decide_eq_true_iff, decide_eq_true_iff,
    beq_iff_eq]
  exact Iff.rfl

lemma read_of_ok (h : t.read (pathIn root) = .ok bytes) : read t root = .ok bytes := by
  rw [read, h]

lemma version_of_some (h : t.read (pathIn root) = .ok bytes) (hv : version? bytes = some v) :
    version t root =
      if IsRecent v then .ok v
      else .error (.configuration (.oldVersion (pathIn root) v oldestVersion)) := by
  rw [version, read_of_ok h, except_ok_bind, hv]
  simp only [atLeast_oldestVersion_iff]

lemma version_of_none (h : t.read (pathIn root) = .ok bytes) (hv : version? bytes = none) :
    version t root = .error (.configuration (.noVersion (pathIn root) oldestVersion)) := by
  rw [version, read_of_ok h, except_ok_bind, hv]

lemma version_eq_ok_iff (h : t.read (pathIn root) = .ok bytes) :
    version t root = .ok v ↔ version? bytes = some v ∧ IsRecent v := by
  cases hv : version? bytes with
  | none => simp [version_of_none h hv]
  | some u =>
    rw [version_of_some h hv]
    split_ifs with hrecent
    · refine ⟨?_, ?_⟩
      · rintro ⟨⟩
        exact ⟨rfl, hrecent⟩
      · rintro ⟨⟨⟩, -⟩
        rfl
    · refine ⟨nofun, ?_⟩
      rintro ⟨⟨⟩, hv⟩
      exact absurd ‹IsRecent _› hrecent

lemma modulePath_eq_ok_iff (h : t.read (pathIn root) = .ok bytes) :
    modulePath t root = .ok path ↔ modulePath? bytes = some path := by
  rw [modulePath, read_of_ok h, except_ok_bind]
  cases modulePath? bytes <;> simp

lemma admits_iff (h : t.read (pathIn root) = .ok bytes) :
    Admits bytes path ↔ modulePath t root = .ok path ∧ ∃ v, version t root = .ok v := by
  simp only [Admits, modulePath_eq_ok_iff h, version_eq_ok_iff h]

lemma usableModule_eq (t : FileTree) (root : String) : usableModule t root =
    if t.isDirectoryAt root then do
      let path ← modulePath t root
      let _ ← version t root
      return path
    else .error (.configuration (.notDirectory root)) := by
  rw [usableModule]
  cases t.isDirectoryAt root with
  | false => rfl
  | true => cases modulePath t root <;> cases version t root <;> rfl

lemma isDirectoryAt_iff (h : t.read (pathIn root) = .ok bytes) :
    t.isDirectoryAt root = true ↔ root ≠ "" := by
  have hnames : t.names (pathIn root) = (t.namesFrom [] (Path.components root)).map (· ++ [fileName]) :=
    names_join t (by decide) root
  by_cases hroot : root = ""
  · subst hroot
    have hnowhere : t.lookup "" = .error .notFound := lookup_of_error rfl
    rw [isDirectoryAt, hnowhere]
    simp
  · simp only [FileTree.read, except_bind_eq_ok_iff] at h
    obtain ⟨file, hlookup, hfile⟩ := h
    cases hbase : t.namesFrom [] (Path.components root) with
    | error cause =>
      rw [lookup_of_error (by rw [hnames, hbase]; rfl)] at hlookup
      cases hlookup
    | ok base =>
      rw [lookup_of_names (by rw [hnames, hbase]; rfl)] at hlookup
      have hview : t.view (base ++ [fileName]) = some file.node := by
        rw [view, hlookup]
      obtain ⟨entries, hfind⟩ := view_eq_directory_iff.mp (view_base_of_some hview)
      have hdirectory : t.names root = .ok base := by
        rw [names, if_neg (by simpa using hroot), hbase]
      rw [isDirectoryAt, lookup_of_names hdirectory, hfind]
      exact iff_of_true rfl hroot

lemma usableModule_eq_ok_iff (h : t.read (pathIn root) = .ok bytes) :
    usableModule t root = .ok path ↔ root ≠ "" ∧ Admits bytes path := by
  rw [admits_iff h, usableModule_eq, ← isDirectoryAt_iff h]
  split_ifs with hdirectory
  · simp only [except_bind_eq_ok_iff, hdirectory, true_and]
    constructor
    · rintro ⟨path, hpath, v, hv, ⟨⟩⟩
      exact ⟨hpath, v, hv⟩
    · rintro ⟨hpath, v, hv⟩
      exact ⟨path, hpath, v, hv, rfl⟩
  · simp [hdirectory]

end Project.Manifest

namespace Build

open Project.Manifest

def produce (read : FileReader) (compiler : Compiler) (env : Environment) (o : BuildOptions)
    (modulePath : String) : Work BuildReport := do
  Scratch.clean (Scratch.pathIn o.root)
  let s ← settings o (← Work.tree)
  let d ← draft read o s (← Work.tree) modulePath
  conclude compiler env o s d

variable {read : FileReader} {compiler : Compiler} {env : Environment} {o : BuildOptions}
  {w : Workspace} {bytes : ByteArray} {path : String}

lemma outcome_run_of_admits (hread : w.tree.read (pathIn o.root) = .ok bytes)
    (h : Admits bytes path) :
    Work.outcome (run read compiler env o) w =
      Work.outcome (produce read compiler env o path) w := by
  obtain ⟨hpath, v, hversion⟩ := (admits_iff hread).mp h
  rw [run, Work.outcome_bind_of_ok (Work.outcome_tree w),
    Work.outcome_bind_of_ok (Work.outcome_lift_of_ok hpath w),
    Work.outcome_bind_of_ok (Work.outcome_tree w),
    Work.outcome_bind_of_ok (Work.outcome_discard_lift_of_ok hversion w)]
  rfl

lemma outcome_run_of_not_admits (hread : w.tree.read (pathIn o.root) = .ok bytes)
    (h : ∀ path, ¬Admits bytes path) :
    ∃ failure, (modulePath w.tree o.root = .error failure ∨ version w.tree o.root = .error failure) ∧
      Work.outcome (run read compiler env o) w = (.error failure, w) := by
  rw [run, Work.outcome_bind_of_ok (Work.outcome_tree w)]
  cases hpath : modulePath w.tree o.root with
  | error failure =>
    exact ⟨failure, .inl rfl, Work.outcome_bind_of_error (Work.outcome_lift_of_error rfl w) _⟩
  | ok path =>
    cases hversion : version w.tree o.root with
    | error failure =>
      refine ⟨failure, .inr rfl, ?_⟩
      rw [Work.outcome_bind_of_ok (Work.outcome_lift_of_ok rfl w),
        Work.outcome_bind_of_ok (Work.outcome_tree w)]
      exact Work.outcome_bind_of_error (Work.outcome_discard_lift_of_error hversion w) _
    | ok v => exact absurd ((admits_iff hread).mpr ⟨hpath, v, hversion⟩) (h path)

/-- The version that a manifest asks for is read and decides whether it is accepted, a manifest that
asks for none is refused, and a build and a check of the project go on exactly with the manifests that
also declare a module path. -/
theorem version_gate {t : FileTree} {root : String} (hread : t.read (pathIn root) = .ok bytes) :
    (∀ (major minor : ℕ) (earlier : List (List Char)) (l later : List Char),
      major < 2 ^ 32 → minor < 2 ^ 32 → (∀ e ∈ earlier, '\n' ∉ e ∧ IsForeign e) →
      Asks major minor l → AtLineEnd later →
      Utf8.decodeLossy bytes = ['\n'].intercalate (earlier ++ [l]) ++ later →
      version? bytes = some ⟨major, minor⟩ ∧
        version t root = if 1 < major ∨ major = 1 ∧ 22 ≤ minor then .ok ⟨major, minor⟩
          else .error (.configuration (.oldVersion (pathIn root) ⟨major, minor⟩ oldestVersion))) ∧
    ((∀ l ∈ lines (Utf8.decodeLossy bytes), IsForeign l) →
      version t root = .error (.configuration (.noVersion (pathIn root) oldestVersion))) ∧
    (∀ path, usableModule t root = .ok path ↔ root ≠ "" ∧ Admits bytes path) ∧
    ∀ (read : FileReader) (compiler : Compiler) (env : Environment) (o : BuildOptions)
      (w : Workspace), w.tree = t → o.root = root →
      (∀ path, Admits bytes path →
        Work.outcome (run read compiler env o) w =
          Work.outcome (produce read compiler env o path) w) ∧
      ((∀ path, ¬Admits bytes path) →
        ∃ failure, (modulePath t root = .error failure ∨ version t root = .error failure) ∧
          Work.outcome (run read compiler env o) w = (.error failure, w)) := by
  refine ⟨?_, fun hforeign => ?_, fun path => usableModule_eq_ok_iff hread, ?_⟩
  · intro major minor earlier l later hmajor hminor hearlier hl hlater hbytes
    have hversion : version? bytes = some ⟨major, minor⟩ := by
      rw [version?, hbytes]
      exact versionOfText_of_asks hearlier hl hmajor hminor hlater
    exact ⟨hversion, version_of_some hread hversion⟩
  · exact version_of_none hread
      (List.findSome?_eq_none_iff.mpr fun l hl => (hforeign l hl).versionOfLine?_eq)
  · rintro read compiler env o w rfl rfl
    exact ⟨fun path => outcome_run_of_admits hread, outcome_run_of_not_admits hread⟩

def early : FileTree :=
  .directory [("go.mod", .file "module app\r\n\tgo 1.22rc1 // beta\n".toUTF8 false)]

theorem version_gate_early :
    version early "." = .ok ⟨1, 22⟩ ∧ usableModule early "." = .ok "app" ∧
      Work.outcome (run Go.SourceFile.ofBytes sampleCompiler {} { root := "." }) ⟨early, []⟩ =
        Work.outcome (produce Go.SourceFile.ofBytes sampleCompiler {} { root := "." } "app")
          ⟨early, []⟩ := by
  have hread : early.read (pathIn ".") = .ok "module app\r\n\tgo 1.22rc1 // beta\n".toUTF8 := by
    decide +kernel
  obtain ⟨hasks, -, husable, hrun⟩ := version_gate hread
  have hline : Asks 1 22 (['\t'] ++ (goKeyword ++ ([' '] ++ (versionText 1 22 ++
      "rc1 // beta".toList)))) :=
    .line (by decide) (by decide) (by decide) (by decide +kernel) (by rintro c ⟨⟩; decide)
  have htext : "module app\r\n\tgo 1.22rc1 // beta\n".toList =
      ['\n'].intercalate (["module app\r".toList] ++ [['\t'] ++ (goKeyword ++ ([' '] ++
        (versionText 1 22 ++ "rc1 // beta".toList)))]) ++ ['\n'] := by
    decide +kernel
  obtain ⟨hversion, hgate⟩ := hasks 1 22 ["module app\r".toList] _ ['\n'] (by decide) (by decide)
    (by decide +kernel) hline (.inr (.inl rfl)) ((Utf8.decodeLossy_toUTF8 _).trans htext)
  have hadmits : Admits "module app\r\n\tgo 1.22rc1 // beta\n".toUTF8 "app" :=
    ⟨by decide +kernel, _, hversion, by decide⟩
  exact ⟨hgate, (husable "app").mpr ⟨by decide, hadmits⟩,
    (hrun Go.SourceFile.ofBytes sampleCompiler {} { root := "." } ⟨early, []⟩ rfl rfl).1 "app" hadmits⟩

end Build

end Routewright
