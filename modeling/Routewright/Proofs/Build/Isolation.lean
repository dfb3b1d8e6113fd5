import Routewright.Proofs.Build.Pipeline
import Routewright.Proofs.Project.Loading

namespace Routewright

open FileTree

namespace Scratch

/-- Two trees of one project, which its path leads to in both of them, that are the same but for
the scratch directory. -/
structure Apart (root : String) (base : List String) (t u : FileTree) : Prop where
  left_root : t.namesFrom [] (Path.components root) = .ok base
  right_root : u.namesFrom [] (Path.components root) = .ok base
  outside : ∀ names, ¬base ++ [directoryName] <+: names → t.view names = u.view names
  left_scratch : ∀ content executable,
    t.view (base ++ [directoryName]) ≠ some (.file content executable)
  right_scratch : ∀ content executable,
    u.view (base ++ [directoryName]) ≠ some (.file content executable)

variable {root : String} {base : List String} {t u : FileTree}

lemma Apart.symm (h : Apart root base t u) : Apart root base u t :=
  ⟨h.right_root, h.left_root, fun names hnames => (h.outside names hnames).symm, h.right_scratch,
    h.left_scratch⟩

lemma Apart.left (h : Apart root base t u) : Apart root base t t :=
  ⟨h.left_root, h.left_root, fun _ _ => rfl, h.left_scratch, h.left_scratch⟩

lemma Apart.right (h : Apart root base t u) : Apart root base u u :=
  h.symm.left

lemma names_pathIn_of_root (hroot : t.namesFrom [] (Path.components root) = .ok base) :
    t.names (pathIn root) = .ok (base ++ [directoryName]) := by
  rw [names_pathIn, hroot]
  rfl

lemma Apart.lookup_ne_file (h : Apart root base t u) (content : ByteArray) (executable : Bool) :
    t.lookup (pathIn root) ≠ .ok (.file content executable) := by
  intro hfile
  rw [lookup_of_names (names_pathIn_of_root h.left_root)] at hfile
  refine h.left_scratch content executable ?_
  rw [view, hfile]
  rfl

lemma Apart.cleared_eq (h : Apart root base t u) : cleared t root = cleared u root := by
  rw [cleared, cleared, names_pathIn_of_root h.left_root, names_pathIn_of_root h.right_root]
  funext names
  simp only [View.without]
  split_ifs with hunder
  · rfl
  · exact h.outside names hunder

lemma Apart.manifest_eq (h : Apart root base t u) :
    t.read (Project.Manifest.pathIn root) = u.read (Project.Manifest.pathIn root) := by
  have hnames : ∀ v : FileTree, v.namesFrom [] (Path.components root) = .ok base →
      v.names (Project.Manifest.pathIn root) = .ok (base ++ [Project.Manifest.fileName]) := by
    intro v hroot
    rw [Project.Manifest.pathIn, names_join v (by decide), hroot]
    rfl
  refine read_eq_of_names (hnames t h.left_root) (hnames u h.right_root) fun place hplace => ?_
  refine h.outside place fun hunder => ?_
  have hsame := (hunder.trans hplace).eq_of_length (by simp)
  exact absurd (List.append_cancel_left hsame) (by decide)

def filled (v : View) (scratch : List String) (source : String) : View :=
  View.put (View.put v scratch .directory) (scratch ++ [programName])
    (.file source.toUTF8 false)

lemma filled_scratch (v : View) (scratch : List String) (source : String) :
    filled v scratch source scratch = some .directory := by
  simp [filled, View.put]

lemma filled_program (v : View) (scratch : List String) (source : String) :
    filled v scratch source (scratch ++ [programName]) = some (.file source.toUTF8 false) := by
  simp [filled, View.put]

lemma filled_of_not_isPrefix {v : View} {scratch names : List String} (source : String)
    (h : ¬scratch <+: names) : filled v scratch source names = v names := by
  have hprogram : names ≠ scratch ++ [programName] := by
    rintro rfl
    exact h (List.prefix_append _ _)
  have hself : names ≠ scratch := by
    rintro rfl
    exact h (List.prefix_refl _)
  rw [filled, View.put, if_neg hprogram, View.put, if_neg hself]

lemma filled_eq_directory {scratch names : List String} (source : String)
    (habsent : t.view scratch = none) (h : t.view names = some .directory) :
    filled t.view scratch source names = some .directory := by
  rw [filled_of_not_isPrefix source, h]
  intro hunder
  rw [view_of_isPrefix habsent hunder] at h
  cases h

lemma Apart.of_filled {v : View} {source : String} (h : Apart root base t t)
    (hroot : u.namesFrom [] (Path.components root) = .ok base)
    (hv : v = cleared t root) (hu : u.view = filled v (base ++ [directoryName]) source) :
    Apart root base t u where
  left_root := h.left_root
  right_root := hroot
  outside names hnames := by
    rw [hu, filled_of_not_isPrefix source hnames, hv, cleared, names_pathIn_of_root h.left_root]
    exact (if_neg hnames).symm
  left_scratch := h.left_scratch
  right_scratch content executable := by
    rw [hu, filled_scratch]
    intro hfile
    cases hfile

lemma read_program {source : String} (hroot : t.namesFrom [] (Path.components root) = .ok base)
    (hview : t.view (base ++ [directoryName] ++ [programName]) =
      some (.file source.toUTF8 false)) :
    t.read (Path.join (pathIn root) programName) = .ok source.toUTF8 := by
  have hnames : t.names (Path.join (pathIn root) programName) =
      .ok (base ++ [directoryName] ++ [programName]) := by
    rw [names_join t (by decide), pathIn, Path.components_join (by decide),
      namesFrom_append_plain t (by decide), hroot]
    rfl
  rw [read_eq_content, lookup_of_names hnames]
  rw [view] at hview
  cases hfind : t.find (base ++ [directoryName] ++ [programName]) with
  | error cause =>
    rw [hfind] at hview
    cases hview
  | ok v =>
    rw [hfind, Option.some.injEq] at hview
    simp only [Except.map, hview]
    rfl

end Scratch

namespace Build

variable {read : FileReader} {compiler : Compiler} {env : Environment} {o : BuildOptions}
  {w w' : Workspace} {base : List String}

lemma plan_eq_of_view {t u : FileTree} (h : t.view = u.view) (modulePath : String) :
    plan read o t modulePath = plan read o u modulePath := by
  have hmarkdown : ∀ s, markdown o s t = markdown o s u := by
    intro s
    rw [markdown, markdown, funext (MarkdownDirectory.ofTree_eq_of_view h)]
  have hdraft : ∀ s, draft read o s t modulePath = draft read o s u modulePath := by
    intro s
    simp only [draft, hmarkdown, Project.load_eq_of_view h]
  simp only [plan, settings, Settings.load_eq_of_view h, hdraft]

lemma outcome_run_of_no_module {failure : Failure}
    (h : Project.Manifest.modulePath w.tree o.root = .error failure) :
    Work.outcome (run read compiler env o) w = (.error failure, w) := by
  rw [run, Work.outcome_bind_of_ok (Work.outcome_tree w)]
  exact Work.outcome_bind_of_error (Work.outcome_lift_of_error h w) _

lemma outcome_run_of_no_version {modulePath : String} {failure : Failure}
    (hpath : Project.Manifest.modulePath w.tree o.root = .ok modulePath)
    (h : Project.Manifest.version w.tree o.root = .error failure) :
    Work.outcome (run read compiler env o) w = (.error failure, w) := by
  rw [run, Work.outcome_bind_of_ok (Work.outcome_tree w),
    Work.outcome_bind_of_ok (Work.outcome_lift_of_ok hpath w),
    Work.outcome_bind_of_ok (Work.outcome_tree w)]
  exact Work.outcome_bind_of_error (Work.outcome_discard_lift_of_error h w) _

def written (o : BuildOptions) (d : Draft) : BuildReport :=
  ⟨Path.join (Scratch.pathIn o.root) Scratch.programName, none, d.handlers⟩

def left (base : List String) (v : View) : Except Failure (Settings × Draft) → View
  | .error _ => v
  | .ok (_, d) => Scratch.filled v (base ++ [Scratch.directoryName]) d.source

lemma outcome_run_of_root {modulePath : String} {v : Go.Manifest.Version}
    (honly : o.onlyWrite = true) (h : Scratch.Apart o.root base w.tree w.tree)
    (hpath : Project.Manifest.modulePath w.tree o.root = .ok modulePath)
    (hversion : Project.Manifest.version w.tree o.root = .ok v) :
    ∃ t : FileTree, t.view = Scratch.cleared w.tree o.root ∧
      (Work.outcome (run read compiler env o) w).1 =
        (plan read o t modulePath).map (fun x => written o x.2) ∧
      (Work.outcome (run read compiler env o) w).2.tree.view =
        left base t.view (plan read o t modulePath) ∧
      ∀ x, plan read o t modulePath = .ok x →
        (Work.outcome (run read compiler env o) w).2.tree.namesFrom [] (Path.components o.root) =
          .ok base := by
  obtain ⟨u, hclean, hview⟩ := Scratch.outcome_clean h.lookup_ne_file
  have hrun : Work.outcome (run read compiler env o) w = _ :=
    outcome_run_of_usable hpath hversion hclean
  refine ⟨u.tree, hview, ?_⟩
  cases hplan : plan read o u.tree modulePath with
  | error failure =>
    rw [hplan] at hrun
    rw [hrun]
    exact ⟨rfl, rfl, fun x hx => nomatch hx⟩
  | ok x =>
    obtain ⟨s, d⟩ := x
    rw [hplan] at hrun
    have hscratch := Scratch.names_pathIn_of_root h.left_root
    obtain ⟨base', hnames, hroot, hbase, habsent⟩ :=
      root_of_reaches hview (plan_eq_ok_iff.mp hplan)
    obtain rfl : base' = base :=
      List.append_cancel_right (Except.ok.inj (hnames.symm.trans hscratch))
    obtain ⟨v, hconclude, hwritten⟩ :=
      @outcome_conclude compiler env o u s d base' hroot hbase habsent
    have hend : Work.outcome (run read compiler env o) w = ending compiler env o s d v :=
      hrun.trans hconclude
    rw [hend, ending, if_pos honly]
    refine ⟨rfl, hwritten, fun _ _ => ?_⟩
    refine namesFrom_of_directories (fun names hdirectory => ?_) hroot
    exact (congrFun hwritten names).trans
      (Scratch.filled_eq_directory d.source habsent hdirectory)

lemma outcome_run_apart (read : FileReader) (compiler : Compiler) (env : Environment)
    (honly : o.onlyWrite = true)
    (h : Scratch.Apart o.root base w.tree w'.tree) :
    (Work.outcome (run read compiler env o) w).1 = (Work.outcome (run read compiler env o) w').1 ∧
      (¬Project.Manifest.Unusable w.tree o.root →
        (Work.outcome (run read compiler env o) w).2.tree.view =
          (Work.outcome (run read compiler env o) w').2.tree.view) := by
  have hpaths := Project.Manifest.modulePath_eq_of_read h.manifest_eq
  have hversions := Project.Manifest.version_eq_of_read h.manifest_eq
  cases hpath : Project.Manifest.modulePath w.tree o.root with
  | error failure =>
    rw [outcome_run_of_no_module hpath, outcome_run_of_no_module (hpaths ▸ hpath)]
    refine ⟨rfl, fun husable => ?_⟩
    obtain ⟨modulePath, v, hok, -⟩ := Project.Manifest.ok_of_usable husable
    rw [hpath] at hok
    cases hok
  | ok modulePath =>
    cases hversion : Project.Manifest.version w.tree o.root with
    | error failure =>
      rw [outcome_run_of_no_version hpath hversion,
        outcome_run_of_no_version (hpaths ▸ hpath) (hversions ▸ hversion)]
      refine ⟨rfl, fun husable => ?_⟩
      obtain ⟨modulePath, v, -, hok⟩ := Project.Manifest.ok_of_usable husable
      rw [hversion] at hok
      cases hok
    | ok v =>
      obtain ⟨t, ht, hresult, hview, -⟩ := outcome_run_of_root honly h.left hpath hversion
      obtain ⟨t', ht', hresult', hview', -⟩ :=
        outcome_run_of_root honly h.right (hpaths ▸ hpath) (hversions ▸ hversion)
      have htrees : t.view = t'.view := by
        rw [ht, ht', h.cleared_eq]
      rw [hresult, hresult', hview, hview', htrees, plan_eq_of_view htrees]
      exact ⟨rfl, fun _ => rfl⟩

lemma outcome_run_eq_ok {report : BuildReport} (honly : o.onlyWrite = true)
    (h : Scratch.Apart o.root base w.tree w.tree)
    (hrun : (Work.outcome (run read compiler env o) w).1 = .ok report) :
    ¬Project.Manifest.Unusable w.tree o.root ∧
      Scratch.Apart o.root base w.tree (Work.outcome (run read compiler env o) w).2.tree ∧
      ∃ source,
        (Work.outcome (run read compiler env o) w).2.tree.read report.program = .ok source := by
  have husable : ¬Project.Manifest.Unusable w.tree o.root := by
    intro hunusable
    obtain ⟨failure, hfails⟩ := @outcome_run_of_unusable read compiler env o w hunusable
    rw [hfails] at hrun
    cases hrun
  obtain ⟨modulePath, v, hpath, hversion⟩ := Project.Manifest.ok_of_usable husable
  obtain ⟨t, ht, hresult, hview, hroot⟩ :=
    @outcome_run_of_root read compiler env o w base modulePath v honly h hpath hversion
  obtain ⟨⟨s, d⟩, hplan, rfl⟩ := except_map_eq_ok_iff.mp (hresult.symm.trans hrun)
  rw [hplan] at hview
  have hbase := hroot _ hplan
  refine ⟨husable, h.of_filled hbase ht hview, d.source.toUTF8, ?_⟩
  exact Scratch.read_program hbase ((congrFun hview _).trans (Scratch.filled_program ..))

theorem run_ignores_scratch (read : FileReader) (compiler : Compiler) (env : Environment)
    (honly : o.onlyWrite = true)
    (h : Scratch.Apart o.root base w.tree w'.tree) :
    let first := Work.outcome (run read compiler env o) w
    let second := Work.outcome (run read compiler env o) w'
    first.1 = second.1 ∧
      (¬Project.Manifest.Unusable w.tree o.root → first.2.tree.view = second.2.tree.view) ∧
      ∀ report, first.1 = .ok report →
        let again := Work.outcome (run read compiler env o) first.2
        again.1 = .ok report ∧ again.2.tree.view = first.2.tree.view ∧
          ∃ program, first.2.tree.read report.program = .ok program ∧
            second.2.tree.read report.program = .ok program ∧
              again.2.tree.read report.program = .ok program := by
  intro first second
  obtain ⟨hresult, hviews⟩ := outcome_run_apart read compiler env honly h
  refine ⟨hresult, hviews, ?_⟩
  intro report hreport again
  obtain ⟨husable, happart, program, hprogram⟩ := outcome_run_eq_ok honly h.left hreport
  obtain ⟨hagain, hagainView⟩ := outcome_run_apart read compiler env honly happart
  have hviewAgain : again.2.tree.view = first.2.tree.view := (hagainView husable).symm
  refine ⟨hagain.symm.trans hreport, hviewAgain, program, hprogram, ?_, ?_⟩
  · rw [← hprogram]
    exact read_eq_of_view (hviews husable).symm report.program
  · rw [← hprogram]
    exact read_eq_of_view hviewAgain report.program

def sampleWith (others : List (String × FileTree)) : Workspace where
  tree := .directory
    ([("go.mod", .file "module app\n\ngo 1.22\n".toUTF8 false),
      ("main.go",
        .file "package main\nfunc GeneralAPIInfo() \x7b\n\treturn\n\x7d\n".toUTF8 false)] ++ others)

def staleScratch : FileTree := .directory [("old.go", .file "packag".toUTF8 false)]

lemma sampleWith_apart :
    Scratch.Apart "." [] (sampleWith [("matte", staleScratch)]).tree (sampleWith []).tree where
  left_root := by decide +kernel
  right_root := by decide +kernel
  outside names hnames := by
    cases names with
    | nil => rfl
    | cons name rest =>
      have hname : ("matte" == name) = false := by
        refine beq_false_of_ne ?_
        rintro rfl
        exact hnames (by simp [Scratch.directoryName])
      simp [sampleWith, view_directory_cons, child?, List.find?_cons, hname]
  left_scratch content executable h := by cases h
  right_scratch content executable h := by cases h

theorem sampleWith_ignores_scratch :
    let o : BuildOptions := { root := ".", onlyWrite := true }
    let build := Work.outcome (run Go.SourceFile.ofBytes sampleCompiler {} o)
    let first := build (sampleWith [("matte", staleScratch)])
    let second := build (sampleWith [])
    let again := build first.2
    first.1 = .ok ⟨"./matte/app.go", none, []⟩ ∧ second.1 = .ok ⟨"./matte/app.go", none, []⟩ ∧
      again.1 = .ok ⟨"./matte/app.go", none, []⟩ ∧ first.2.tree.view = second.2.tree.view ∧
        again.2.tree.view = first.2.tree.view ∧
          ∃ program, first.2.tree.read "./matte/app.go" = .ok program ∧
            second.2.tree.read "./matte/app.go" = .ok program ∧
              again.2.tree.read "./matte/app.go" = .ok program := by
  intro o build first second again
  have hfirst : first.1 = .ok ⟨"./matte/app.go", none, []⟩ := by
    decide +kernel
  have husable := (outcome_run_eq_ok rfl sampleWith_apart.left hfirst).1
  obtain ⟨hsecond, hviews, hreport⟩ :=
    run_ignores_scratch Go.SourceFile.ofBytes sampleCompiler {} (o := o) rfl sampleWith_apart
  obtain ⟨hagain, hviewAgain, hprogram⟩ := hreport _ hfirst
  exact ⟨hfirst, hsecond.symm.trans hfirst, hagain, hviews husable, hviewAgain, hprogram⟩

end Build

end Routewright
