import Routewright.Build.Pipeline
import Routewright.Proofs.Except

/-! The stages of a build between the removal of the scratch directory and the new program. Each
works on what those before it gave, and the first that fails ends the build. -/

namespace Routewright.Build

inductive Stage
  | settings (s : Settings)
  | frameworks (s : Settings) (fresh : List Framework)
  | project (s : Settings) (fresh : List Framework) (p : Project)
  | values (s : Settings) (fresh : List Framework) (p : Project) (values : List ConfigValue)
  | configured (s : Settings) (p : Project) (configured : List Framework)
  | registered (s : Settings) (handlers : List Registered) (bound : List Framework)
  | program (s : Settings) (d : Draft)

section

variable (read : FileReader) (o : BuildOptions) (t : FileTree) (modulePath : String)

/-- What is worked out between the removal of the scratch directory and the new program. -/
def plan : Except Failure (Settings × Draft) := do
  let s ← settings o t
  let d ← draft read o s t modulePath
  return (s, d)

def texts (s : Settings) : Option MarkdownDirectory :=
  (o.markdownDirectory.or (s.markdownDirectory.map (Path.join o.root))).map
    (MarkdownDirectory.ofTree t)

inductive Reaches : Stage → Prop
  | settings {found : Option Settings} : Settings.load t o.root = .ok found →
    Reaches (.settings (found.getD {}))
  | frameworks {s fresh} : Reaches (.settings s) →
    Frameworks.ofNames ((o.frameworks.or s.frameworks).getD ["http", "params"]) = .ok fresh →
    Reaches (.frameworks s fresh)
  | project {s fresh p} : Reaches (.frameworks s fresh) →
    Project.load read t o.root "matte" = .ok p → Reaches (.project s fresh p)
  | values {s fresh p values} : Reaches (.project s fresh p) → p.configValues = .ok values →
    Reaches (.values s fresh p values)
  | configured {s fresh p values configured} : Reaches (.values s fresh p values) →
    Frameworks.configureAll fresh values = (.ok (), configured) →
    Reaches (.configured s p configured)
  | registered {s p configured handlers bound} : Reaches (.configured s p configured) →
    Frameworks.registerProject (texts o t s) configured p = (.ok handlers, bound) →
    Reaches (.registered s handlers bound)
  | program {s handlers bound source} : Reaches (.registered s handlers bound) →
    Program.synthesize bound modulePath = .ok source → Reaches (.program s ⟨source, handlers⟩)

inductive Stops (failure : Failure) : Prop
  | settings : Settings.load t o.root = .error failure → Stops failure
  | frameworks {s} : Reaches read o t modulePath (.settings s) →
    Frameworks.ofNames ((o.frameworks.or s.frameworks).getD ["http", "params"]) = .error failure →
    Stops failure
  | project {s fresh} : Reaches read o t modulePath (.frameworks s fresh) →
    Project.load read t o.root "matte" = .error failure → Stops failure
  | values {s fresh p} : Reaches read o t modulePath (.project s fresh p) →
    p.configValues = .error failure → Stops failure
  | configuration {s fresh p values frameworks} :
    Reaches read o t modulePath (.values s fresh p values) →
    Frameworks.configureAll fresh values = (.error failure, frameworks) → Stops failure
  | registration {s p configured frameworks} :
    Reaches read o t modulePath (.configured s p configured) →
    Frameworks.registerProject (texts o t s) configured p = (.error failure, frameworks) →
    Stops failure
  | synthesis {s handlers bound} : Reaches read o t modulePath (.registered s handlers bound) →
    Program.synthesize bound modulePath = .error failure → Stops failure

end

variable {read : FileReader} {o : BuildOptions} {t : FileTree} {modulePath : String}

lemma plan_of_settings {found : Option Settings} (hs : Settings.load t o.root = .ok found) :
    plan read o t modulePath =
      (draft read o (found.getD {}) t modulePath).map fun d => (found.getD {}, d) := by
  rw [plan, settings, hs]
  rfl

lemma draft_of_project {s : Settings} {fresh : List Framework} {p : Project}
    (hf : Frameworks.ofNames ((o.frameworks.or s.frameworks).getD ["http", "params"]) = .ok fresh)
    (hp : Project.load read t o.root "matte" = .ok p) :
    draft read o s t modulePath = do
      let values ← p.configValues
      let (outcome, configured) := Frameworks.configureAll fresh values
      outcome
      let (outcome, bound) := Frameworks.registerProject (texts o t s) configured p
      let handlers ← outcome
      return ⟨← Program.synthesize bound modulePath, handlers⟩ := by
  have hfresh : frameworks o s = .ok fresh := hf
  rw [draft, hfresh, except_ok_bind, Scratch.directoryName, hp]
  rfl

lemma plan_of_stops {failure : Failure} :
    Stops read o t modulePath failure → plan read o t modulePath = .error failure
  | .settings hs => by
    rw [plan, settings, hs]
    rfl
  | .frameworks (.settings hs) hf => by
    have hfresh : frameworks o _ = .error failure := hf
    rw [plan_of_settings hs, draft, hfresh]
    rfl
  | .project (.frameworks (.settings hs) hf) hp => by
    have hfresh : frameworks o _ = .ok _ := hf
    rw [plan_of_settings hs, draft, hfresh, except_ok_bind, Scratch.directoryName, hp]
    rfl
  | .values (.project (.frameworks (.settings hs) hf) hp) hv => by
    rw [plan_of_settings hs, draft_of_project hf hp, hv]
    rfl
  | .configuration (.values (.project (.frameworks (.settings hs) hf) hp) hv) hc => by
    rw [plan_of_settings hs, draft_of_project hf hp, hv, except_ok_bind, hc]
    rfl
  | .registration (.configured (.values (.project (.frameworks (.settings hs) hf) hp) hv) hc)
      hr => by
    rw [plan_of_settings hs, draft_of_project hf hp, hv, except_ok_bind, hc]
    simp only [hr, except_ok_bind]
    rfl
  | .synthesis (.registered (.configured (.values (.project (.frameworks (.settings hs) hf) hp) hv)
      hc) hr) hsource => by
    rw [plan_of_settings hs, draft_of_project hf hp, hv, except_ok_bind, hc]
    simp only [hr, except_ok_bind, hsource]
    rfl

lemma plan_of_reaches {s : Settings} {d : Draft} :
    Reaches read o t modulePath (.program s d) → plan read o t modulePath = .ok (s, d)
  | .program (.registered (.configured (.values (.project (.frameworks (.settings hs) hf) hp) hv)
      hc) hr) hsource => by
    rw [plan_of_settings hs, draft_of_project hf hp, hv, except_ok_bind, hc]
    simp only [hr, except_ok_bind, hsource]
    rfl

lemma Reaches.loads {s : Settings} {d : Draft} :
    Reaches read o t modulePath (.program s d) → ∃ p, Project.load read t o.root "matte" = .ok p
  | .program (.registered (.configured (.values (.project _ hp) _) _) _) _ => ⟨_, hp⟩

lemma stops_or_reaches (read : FileReader) (o : BuildOptions) (t : FileTree) (modulePath : String) :
    (∃ failure, Stops read o t modulePath failure) ∨
      ∃ s d, Reaches read o t modulePath (.program s d) := by
  cases hs : Settings.load t o.root with
  | error failure => exact .inl ⟨failure, .settings hs⟩
  | ok found =>
  have settings : Reaches read o t modulePath _ := .settings hs
  cases hf : Frameworks.ofNames ((o.frameworks.or (found.getD {}).frameworks).getD
      ["http", "params"]) with
  | error failure => exact .inl ⟨failure, .frameworks settings hf⟩
  | ok fresh =>
  have frameworks := settings.frameworks hf
  cases hp : Project.load read t o.root "matte" with
  | error failure => exact .inl ⟨failure, .project frameworks hp⟩
  | ok p =>
  have project := frameworks.project hp
  cases hv : p.configValues with
  | error failure => exact .inl ⟨failure, .values project hv⟩
  | ok values =>
  have values := project.values hv
  rcases hc : Frameworks.configureAll fresh _ with ⟨failure | _, configured⟩
  · exact .inl ⟨failure, .configuration values hc⟩
  have configured := values.configured hc
  rcases hr : Frameworks.registerProject (texts o t _) _ p with ⟨failure | handlers, bound⟩
  · exact .inl ⟨failure, .registration configured hr⟩
  have registered := configured.registered hr
  cases hsource : Program.synthesize bound modulePath with
  | error failure => exact .inl ⟨failure, .synthesis registered hsource⟩
  | ok source => exact .inr ⟨_, _, registered.program hsource⟩

lemma plan_eq_ok_iff {s : Settings} {d : Draft} :
    plan read o t modulePath = .ok (s, d) ↔ Reaches read o t modulePath (.program s d) := by
  refine ⟨fun h => ?_, plan_of_reaches⟩
  rcases stops_or_reaches read o t modulePath with ⟨failure, hstops⟩ | ⟨s', d', hreaches⟩
  · rw [plan_of_stops hstops] at h
    cases h
  · rw [plan_of_reaches hreaches] at h
    cases h
    exact hreaches

end Routewright.Build
