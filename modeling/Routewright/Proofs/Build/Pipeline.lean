import Routewright.Go.FileParser
import Routewright.Proofs.Build.Scratch
import Routewright.Proofs.Build.Stages
import Routewright.Proofs.Project.Loading

namespace Routewright

open FileTree

namespace Project.Manifest

def Unusable (t : FileTree) (root : String) : Prop :=
  match t.read (pathIn root) with
  | .error _ => True
  | .ok bytes =>
    Go.Manifest.modulePath? bytes = none ∨
      ∀ v, Go.Manifest.version? bytes = some v → v.atLeast oldestVersion = false

lemma read_of_error {t : FileTree} {root : String} {cause : OsError}
    (h : t.read (pathIn root) = .error cause) : ∃ failure, read t root = .error failure := by
  rw [read, h]
  cases cause <;> exact ⟨_, rfl⟩

lemma failure_of_unusable {t : FileTree} {root : String} (h : Unusable t root) :
    (∃ failure, modulePath t root = .error failure) ∨
      ∃ path failure, modulePath t root = .ok path ∧ version t root = .error failure := by
  rw [Unusable] at h
  cases hread : t.read (pathIn root) with
  | error cause =>
    obtain ⟨failure, hfailure⟩ := read_of_error hread
    exact .inl ⟨failure, by rw [modulePath, hfailure]; rfl⟩
  | ok bytes =>
    have hbytes : read t root = .ok bytes := by
      rw [read, hread]
    rw [hread] at h
    rw [modulePath, version, hbytes]
    simp only [bind, Except.bind]
    cases hpath : Go.Manifest.modulePath? bytes with
    | none => exact .inl ⟨_, rfl⟩
    | some path =>
      refine .inr ⟨path, ?_⟩
      cases hversion : Go.Manifest.version? bytes with
      | none => exact ⟨_, rfl, rfl⟩
      | some v =>
        have hold := (h.resolve_left (by simp [hpath])) v hversion
        exact ⟨_, rfl, by simp only [hold]; rfl⟩

lemma ok_of_usable {t : FileTree} {root : String} (h : ¬Unusable t root) :
    ∃ path v, modulePath t root = .ok path ∧ version t root = .ok v := by
  rw [Unusable] at h
  cases hread : t.read (pathIn root) with
  | error cause => simp [hread] at h
  | ok bytes =>
    have hbytes : read t root = .ok bytes := by
      rw [read, hread]
    rw [hread] at h
    obtain ⟨hpath, hversion⟩ := not_or.mp h
    obtain ⟨path, hpath⟩ := Option.ne_none_iff_exists'.mp hpath
    push Not at hversion
    obtain ⟨v, hversion, hnew⟩ := hversion
    refine ⟨path, v, ?_, ?_⟩
    · rw [modulePath, hbytes]
      simp only [bind, Except.bind, hpath]
    · rw [version, hbytes]
      simp only [bind, Except.bind, hversion]
      exact if_pos (Bool.of_not_eq_false hnew)

end Project.Manifest

namespace Build

variable {read : FileReader} {compiler : Compiler} {env : Environment} {o : BuildOptions}
  {w : Workspace}

lemma outcome_run_of_unusable (h : Project.Manifest.Unusable w.tree o.root) :
    ∃ failure, Work.outcome (run read compiler env o) w = (.error failure, w) := by
  rw [run, Work.outcome_bind_of_ok (Work.outcome_tree w)]
  rcases Project.Manifest.failure_of_unusable h with
    ⟨failure, hpath⟩ | ⟨path, failure, hpath, hversion⟩
  · exact ⟨failure, Work.outcome_bind_of_error (Work.outcome_lift_of_error hpath w) _⟩
  · refine ⟨failure, ?_⟩
    rw [Work.outcome_bind_of_ok (Work.outcome_lift_of_ok hpath w),
      Work.outcome_bind_of_ok (Work.outcome_tree w)]
    exact Work.outcome_bind_of_error (Work.outcome_discard_lift_of_error hversion w) _

def conclude (compiler : Compiler) (env : Environment) (o : BuildOptions) (s : Settings)
    (d : Draft) : Work BuildReport := do
  let program ← Scratch.writeProgram (Scratch.pathIn o.root) d.source
  if o.onlyWrite then return ⟨program, none, d.handlers⟩
  let binary ← compiler.compile (invocation env o s)
  return ⟨program, some binary, d.handlers⟩

lemma outcome_run_of_usable {u : Workspace} {modulePath : String} {v : Go.Manifest.Version}
    (hpath : Project.Manifest.modulePath w.tree o.root = .ok modulePath)
    (hversion : Project.Manifest.version w.tree o.root = .ok v)
    (hclean : Work.outcome (Scratch.clean (Scratch.pathIn o.root)) w = (.ok (), u)) :
    Work.outcome (run read compiler env o) w =
      match plan read o u.tree modulePath with
      | .error failure => (.error failure, u)
      | .ok (s, d) => Work.outcome (conclude compiler env o s d) u := by
  rw [run, Work.outcome_bind_of_ok (Work.outcome_tree w),
    Work.outcome_bind_of_ok (Work.outcome_lift_of_ok hpath w),
    Work.outcome_bind_of_ok (Work.outcome_tree w),
    Work.outcome_bind_of_ok (Work.outcome_discard_lift_of_ok hversion w),
    Work.outcome_bind_of_ok hclean, Work.outcome_bind_of_ok (Work.outcome_tree u), plan]
  cases hsettings : settings o u.tree with
  | error failure =>
    rw [Work.outcome_bind_of_error (Work.outcome_lift_of_error rfl u)]
    rfl
  | ok s =>
    rw [Work.outcome_bind_of_ok (Work.outcome_lift_of_ok rfl u),
      Work.outcome_bind_of_ok (Work.outcome_tree u), except_ok_bind]
    cases hdraft : draft read o s u.tree modulePath with
    | error failure =>
      rw [Work.outcome_bind_of_error (Work.outcome_lift_of_error rfl u)]
      rfl
    | ok d =>
      rw [Work.outcome_bind_of_ok (Work.outcome_lift_of_ok rfl u)]
      rfl

lemma outcome_compile {i : Invocation} {entries : List (String × FileTree)}
    (h : w.tree.lookup i.directory = .ok (directory entries)) :
    Work.outcome (compiler.compile i) w =
      match compiler i w.tree with
      | .error cause => (.error (.io .run i.program cause), w)
      | .ok e =>
        (if e.succeeded then .ok (Path.join i.directory i.output)
          else .error (.compiler (.ofList e.diagnostics)), { w with tree := e.tree }) := by
  have hstart : compiler.start i w.tree = compiler i w.tree := by
    rw [Compiler.start, FileTree.entries, h]
    rfl
  rw [Compiler.compile, Work.outcome_bind_of_ok (Work.outcome_tree w), hstart]
  cases hcompiler : compiler i w.tree with
  | error cause => rfl
  | ok e =>
    simp only
    rw [Work.outcome_bind_of_ok (Work.outcome_modify _ w)]
    cases hsucceeded : e.succeeded
    · simp only [Bool.false_eq_true, if_false]
      rfl
    · simp only [if_true, Work.outcome_pure]

def ending (compiler : Compiler) (env : Environment) (o : BuildOptions) (s : Settings) (d : Draft)
    (w : Workspace) : Except Failure BuildReport × Workspace :=
  let program := Path.join (Path.join o.root "matte") "app.go"
  let i : Invocation :=
    ⟨((o.compiler.or env.compiler).or s.compiler).getD "go", Path.join o.root "matte",
      (o.output.or s.output).getD "app"⟩
  if o.onlyWrite then (.ok ⟨program, none, d.handlers⟩, w)
  else
    match compiler i w.tree with
    | .error cause => (.error (.io .run i.program cause), w)
    | .ok e =>
      (if e.succeeded then .ok ⟨program, some (Path.join i.directory i.output), d.handlers⟩
        else .error (.compiler (.ofList e.diagnostics)), { w with tree := e.tree })

lemma outcome_conclude {s : Settings} {d : Draft} {base : List String}
    (hroot : w.tree.namesFrom [] (Path.components o.root) = .ok base)
    (hbase : w.tree.view base = some .directory)
    (habsent : w.tree.view (base ++ [Scratch.directoryName]) = none) :
    ∃ u, Work.outcome (conclude compiler env o s d) w = ending compiler env o s d u ∧
      u.tree.view = View.put (View.put w.tree.view (base ++ [Scratch.directoryName]) .directory)
        (base ++ [Scratch.directoryName] ++ [Scratch.programName])
        (.file d.source.toUTF8 false) := by
  obtain ⟨u, hwrite, hview, entries, hlookup⟩ :=
    Scratch.outcome_writeProgram hroot hbase habsent d.source
  refine ⟨u, ?_, hview⟩
  let i := invocation env o s
  let program := Path.join (Scratch.pathIn o.root) Scratch.programName
  have hending : ending compiler env o s d u =
      if o.onlyWrite then (.ok ⟨program, none, d.handlers⟩, u)
      else
        match compiler i u.tree with
        | .error cause => (.error (.io .run i.program cause), u)
        | .ok e =>
          (if e.succeeded then .ok ⟨program, some (Path.join i.directory i.output), d.handlers⟩
            else .error (.compiler (.ofList e.diagnostics)), { u with tree := e.tree }) :=
    rfl
  rw [conclude, Work.outcome_bind_of_ok hwrite, hending]
  cases honly : o.onlyWrite
  · have hcompile : Work.outcome (compiler.compile (invocation env o s)) u = _ :=
      outcome_compile hlookup
    simp only [Bool.false_eq_true, if_false]
    cases hcompiler : compiler (invocation env o s) u.tree with
    | error cause =>
      rw [hcompiler] at hcompile
      exact Work.outcome_bind_of_error hcompile _
    | ok e =>
      rw [hcompiler] at hcompile
      cases hsucceeded : e.succeeded
      · simp only [hsucceeded, Bool.false_eq_true, if_false] at hcompile ⊢
        exact Work.outcome_bind_of_error hcompile _
      · simp only [hsucceeded, if_true] at hcompile ⊢
        exact Work.outcome_bind_of_ok hcompile _
  · rfl

lemma directory_of_cleared {t : FileTree} {root : String} {names : List String}
    (h : Scratch.cleared t root names = some .directory) : t.view names = some .directory := by
  cases hnames : t.names (Scratch.pathIn root) with
  | error cause =>
    rw [Scratch.cleared, hnames] at h
    exact h
  | ok scratch =>
    rw [Scratch.cleared, hnames] at h
    simp only [View.without] at h
    split_ifs at h
    exact h

lemma root_of_reaches {t : FileTree} {modulePath : String} {s : Settings} {d : Draft}
    (hview : t.view = Scratch.cleared w.tree o.root)
    (h : Reaches read o t modulePath (.program s d)) :
    ∃ base, w.tree.names (Scratch.pathIn o.root) = .ok (base ++ [Scratch.directoryName]) ∧
      t.namesFrom [] (Path.components o.root) = .ok base ∧ t.view base = some .directory ∧
      t.view (base ++ [Scratch.directoryName]) = none := by
  obtain ⟨p, hp⟩ := h.loads
  obtain ⟨path, entries, -, hlookup, -⟩ := Project.load_eq_ok_iff.mp hp
  simp only [lookup, except_bind_eq_ok_iff] at hlookup
  obtain ⟨base, hnames, hfind⟩ := hlookup
  have hroot : t.namesFrom [] (Path.components o.root) = .ok base := by
    rw [names] at hnames
    split_ifs at hnames
    exact hnames
  have hscratch : w.tree.names (Scratch.pathIn o.root) =
      .ok (base ++ [Scratch.directoryName]) := by
    have hdirectories : ∀ names, t.view names = some .directory →
        w.tree.view names = some .directory := fun names h =>
      directory_of_cleared (hview ▸ h)
    rw [Scratch.names_pathIn, namesFrom_of_directories hdirectories hroot]
    rfl
  refine ⟨base, hscratch, hroot, view_eq_directory_iff.mpr ⟨entries, hfind⟩, ?_⟩
  rw [hview, Scratch.cleared, hscratch]
  exact if_pos (List.prefix_refl _)

/-- A build leaves a project that cannot be worked with as it is. Any other project loses its
scratch directory, and gets a new one only together with the program. -/
theorem run_leaves (read : FileReader) (compiler : Compiler) (env : Environment)
    (o : BuildOptions) (w : Workspace)
    (hscratch : ∀ content executable,
      w.tree.lookup (Path.join o.root "matte") ≠ .ok (.file content executable)) :
    (Project.Manifest.Unusable w.tree o.root →
      ∃ failure, Work.outcome (run read compiler env o) w = (.error failure, w)) ∧
    (¬Project.Manifest.Unusable w.tree o.root →
      ∃ modulePath u, Project.Manifest.modulePath w.tree o.root = .ok modulePath ∧
        u.tree.view = Scratch.cleared w.tree o.root ∧
        ((∃ failure, Stops read o u.tree modulePath failure) ∨
          ∃ s d, Reaches read o u.tree modulePath (.program s d)) ∧
        (∀ failure, Stops read o u.tree modulePath failure →
          Work.outcome (run read compiler env o) w = (.error failure, u)) ∧
        ∀ s d, Reaches read o u.tree modulePath (.program s d) →
          ∃ names v, w.tree.names (Path.join o.root "matte") = .ok names ∧
            v.tree.view = Scratch.holding w.tree names d.source ∧
            Work.outcome (run read compiler env o) w = ending compiler env o s d v) := by
  refine ⟨outcome_run_of_unusable, fun husable => ?_⟩
  obtain ⟨modulePath, version, hpath, hversion⟩ := Project.Manifest.ok_of_usable husable
  obtain ⟨u, hclean, hview⟩ := Scratch.outcome_clean hscratch
  have hrun : Work.outcome (run read compiler env o) w = _ :=
    outcome_run_of_usable hpath hversion hclean
  refine ⟨modulePath, u, hpath, hview, stops_or_reaches read o u.tree modulePath,
    fun failure hstops => ?_, fun s d hreaches => ?_⟩
  · rw [hrun, plan_of_stops hstops]
  · obtain ⟨base, hnames, hroot, hbase, habsent⟩ := root_of_reaches hview hreaches
    obtain ⟨v, hconclude, hwritten⟩ := outcome_conclude hroot hbase habsent
    refine ⟨_, v, hnames, ?_, ?_⟩
    · rw [hwritten, hview, Scratch.cleared, hnames]
      rfl
    · rw [hrun, plan_of_reaches hreaches]
      exact hconclude

def sample : Workspace where
  tree := .directory
    [("go.mod", .file "module app\n\ngo 1.22\n".toUTF8 false),
      ("main.go",
        .file "package main\nfunc GeneralAPIInfo() \x7b\n\treturn\n\x7d\n".toUTF8 false),
      ("items", .directory [("items.go", .file ("package items\n// @Router /items [get]\n" ++
        "func List(w http.ResponseWriter, r *http.Request) \x7b\n\x7d\n").toUTF8 false)]),
      ("matte", .directory [("old.go", .file "package main".toUTF8 false)])]

def sampleCompiler : Compiler := fun _ t => .ok ⟨true, .empty, .empty, t⟩

lemma sample_names : sample.tree.names (Path.join "." "matte") = .ok ["matte"] := by
  decide +kernel

lemma sample_scratch (content : ByteArray) (executable : Bool) :
    sample.tree.lookup (Path.join "." "matte") ≠ .ok (.file content executable) := by
  intro h
  rw [lookup_of_names sample_names] at h
  cases h

lemma sample_modulePath : Project.Manifest.modulePath sample.tree "." = .ok "app" := by
  decide +kernel

lemma sample_usable : ¬Project.Manifest.Unusable sample.tree "." := by
  have hversion : Project.Manifest.version sample.tree "." = .ok ⟨1, 22⟩ := by
    decide +kernel
  intro h
  rcases Project.Manifest.failure_of_unusable h with ⟨failure, hno⟩ | ⟨path, failure, -, hno⟩
  · rw [sample_modulePath] at hno
    cases hno
  · rw [hversion] at hno
    cases hno

theorem sample_leaves :
    (∃ (s : Settings) (d : Draft) (u v : Workspace),
      u.tree.view = View.without sample.tree.view ["matte"] ∧
      Reaches Go.SourceFile.ofBytes { root := "." } u.tree "app" (.program s d) ∧
      d.handlers = [⟨.http, "app/items.List", [⟨.get, "/items"⟩]⟩] ∧
      v.tree.view = Scratch.holding sample.tree ["matte"] d.source ∧
      Work.outcome (run Go.SourceFile.ofBytes sampleCompiler {} { root := "." }) sample =
        (.ok ⟨"./matte/app.go", some "./matte/app", d.handlers⟩, v)) ∧
    ∃ u : Workspace, u.tree.view = View.without sample.tree.view ["matte"] ∧
      Work.outcome (run Go.SourceFile.ofBytes sampleCompiler {}
        { root := ".", frameworks := some ["gin"] }) sample =
          (.error (.configuration (.unknownFramework "gin" ["http", "params"])), u) := by
  have hcleared : Scratch.cleared sample.tree "." = View.without sample.tree.view ["matte"] := by
    rw [Scratch.cleared, Scratch.pathIn, Scratch.directoryName, sample_names]
  constructor
  · have hreport : (Work.outcome (run Go.SourceFile.ofBytes sampleCompiler {} { root := "." })
        sample).1 = .ok ⟨"./matte/app.go", some "./matte/app",
          [⟨.http, "app/items.List", [⟨.get, "/items"⟩]⟩]⟩ := by
      decide +kernel
    obtain ⟨modulePath, u, hpath, hview, hends, hstops, hreaches⟩ :=
      (run_leaves Go.SourceFile.ofBytes sampleCompiler {} { root := "." } sample
        sample_scratch).2 sample_usable
    obtain rfl : "app" = modulePath := Except.ok.inj (sample_modulePath.symm.trans hpath)
    rcases hends with ⟨failure, hfails⟩ | ⟨s, d, hprogram⟩
    · rw [hstops failure hfails] at hreport
      cases hreport
    · obtain ⟨names, v, hnames, hholding, hrun⟩ := hreaches s d hprogram
      obtain rfl : ["matte"] = names := Except.ok.inj (sample_names.symm.trans hnames)
      have hresult : Work.outcome (run Go.SourceFile.ofBytes sampleCompiler {} { root := "." })
          sample = (.ok ⟨_, some _, d.handlers⟩, v) := hrun
      rw [hresult, Except.ok.injEq, BuildReport.mk.injEq] at hreport
      obtain ⟨hwritten, hbinary, hhandlers⟩ := hreport
      exact ⟨s, d, u, v, hview.trans hcleared, hprogram, hhandlers, hholding,
        by rw [hresult, hwritten, hbinary]⟩
  · have hfailure : (Work.outcome (run Go.SourceFile.ofBytes sampleCompiler {}
        { root := ".", frameworks := some ["gin"] }) sample).1 =
          .error (.configuration (.unknownFramework "gin" ["http", "params"])) := by
      decide +kernel
    obtain ⟨modulePath, u, -, hview, hends, hstops, hreaches⟩ :=
      (run_leaves Go.SourceFile.ofBytes sampleCompiler {}
        { root := ".", frameworks := some ["gin"] } sample sample_scratch).2 sample_usable
    refine ⟨u, hview.trans hcleared, ?_⟩
    rcases hends with ⟨failure, hfails⟩ | ⟨s, d, hprogram⟩
    · rw [hstops failure hfails, Except.error.injEq] at hfailure
      rw [hstops failure hfails, hfailure]
    · obtain ⟨names, v, -, -, hrun⟩ := hreaches s d hprogram
      have hsucceeds : (Work.outcome (run Go.SourceFile.ofBytes sampleCompiler {}
          { root := ".", frameworks := some ["gin"] }) sample).1 =
            .ok ⟨_, some _, d.handlers⟩ :=
        congrArg Prod.fst hrun
      rw [hsucceeds] at hfailure
      cases hfailure

end Build

end Routewright
