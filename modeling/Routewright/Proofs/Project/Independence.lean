import Routewright.Proofs.Project.Rearrangement

namespace Routewright

namespace Frameworks

variable {frameworks after after' : List Framework} {markdown : Option MarkdownDirectory}
  {p q : Project}

def entriesOf (markdown : Option MarkdownDirectory) (frameworks : List Framework) (p : Project) :
    List Entry :=
  ((Declaration.ofProject p).map Declaration.offer).filterMap
    (Offer.asked? markdown (frameworks.map Framework.kind))

lemma entriesOf_perm (h : p.Rearranged q) :
    (entriesOf markdown frameworks p).Perm (entriesOf markdown frameworks q) :=
  (Declaration.ofProject_perm h).filterMap _

lemma registerProject_fails_or_accepts (markdown : Option MarkdownDirectory)
    (hb : Built frameworks) (p : Project) :
    ((∃ failure, (registerProject markdown frameworks p).1 = .error failure) ∧
        ¬Offer.Acceptable markdown frameworks
          ((Declaration.ofProject p).map Declaration.offer)) ∨
      (Offer.Acceptable markdown frameworks ((Declaration.ofProject p).map Declaration.offer) ∧
        ∃ after, registerProject markdown frameworks p =
            (.ok ((entriesOf markdown frameworks p).map Entry.registered), after) ∧
          tables after = extended (entriesOf markdown frameworks p) frameworks ∧
            ∀ f ∈ after, f.Settled) :=
  registerAll_fails_or_accepts hb.kinds_nodup hb.settled (Declaration.isOffered_of_mem_ofProject p)

lemma forall₂_rearranged {entries entries' : List Entry} (hperm : entries.Perm entries')
    (h : tables after = extended entries frameworks)
    (h' : tables after' = extended entries' frameworks) :
    List.Forall₂ Framework.Rearranged after after' := by
  have hextended : List.Forall₂
      (fun x y => x.1 = y.1 ∧ x.2.1 = y.2.1 ∧ x.2.2.Perm y.2.2)
      (extended entries frameworks) (extended entries' frameworks) := by
    rw [extended, extended, List.forall₂_map_left_iff, List.forall₂_map_right_iff,
      List.forall₂_same]
    exact fun f _ => ⟨rfl, rfl, (Offer.added_perm hperm f.kind).append_left _⟩
  rw [← h, ← h', tables, tables, List.forall₂_map_left_iff, List.forall₂_map_right_iff]
    at hextended
  exact hextended.imp fun f g hfg => ⟨hfg.1, hfg.2.1, hfg.2.2⟩

lemma flatMap_imports_eq (h : List.Forall₂ Framework.Rearranged after after')
    (hs : ∀ f ∈ after, f.Settled) (hs' : ∀ f ∈ after', f.Settled)
    (hnames : ∀ f ∈ after, f.NamesPackages) :
    ((after.filter Framework.isActive).map Framework.bootstrap).flatMap Bootstrap.imports =
      ((after'.filter Framework.isActive).map Framework.bootstrap).flatMap Bootstrap.imports := by
  induction h with
  | nil => rfl
  | @cons f g fs gs hfg _ ih =>
    obtain ⟨hf, hfs⟩ := List.forall_mem_cons.mp hs
    obtain ⟨hg, hgs⟩ := List.forall_mem_cons.mp hs'
    obtain ⟨hname, hnames⟩ := List.forall_mem_cons.mp hnames
    have hrest := ih hfs hgs hnames
    rw [List.filter_cons, List.filter_cons, ← hfg.isActive_eq]
    split_ifs
    · simp only [List.map_cons, List.flatMap_cons, hrest,
        hfg.bootstrap_imports_eq hf hg hname]
    · exact hrest

theorem registerProject_rearranged (hb : Built frameworks) (h : p.Rearranged q) :
    let first := registerProject markdown frameworks p
    let second := registerProject markdown frameworks q
    ((∃ report, first.1 = .ok report) ↔ ∃ report, second.1 = .ok report) ∧
      ∀ report report', first.1 = .ok report → second.1 = .ok report' →
        report.Perm report' ∧ List.Forall₂ Framework.Rearranged first.2 second.2 ∧
          ((∀ f ∈ first.2, f.NamesPackages) → ∀ modulePath,
            ((∃ source, Program.synthesize first.2 modulePath = .ok source) ↔
                ∃ source, Program.synthesize second.2 modulePath = .ok source) ∧
              ∀ source source', Program.synthesize first.2 modulePath = .ok source →
                Program.synthesize second.2 modulePath = .ok source' →
                  Program.importBlock source = Program.importBlock source') := by
  intro first second
  have hoffers := Declaration.ofProject_perm h
  rcases registerProject_fails_or_accepts markdown hb p with
    ⟨⟨failure, hfails⟩, hnot⟩ | ⟨ha, after, hrun, ht, hs⟩
  all_goals
    rcases registerProject_fails_or_accepts markdown hb q with
      ⟨⟨failure', hfails'⟩, hnot'⟩ | ⟨ha', after', hrun', ht', hs'⟩
  · simp [first, second, hfails, hfails']
  · exact absurd (ha'.perm hoffers.symm) hnot
  · exact absurd (ha.perm hoffers) hnot'
  · have hfirst : first = (.ok ((entriesOf markdown frameworks p).map Entry.registered), after) :=
      hrun
    have hsecond : second =
        (.ok ((entriesOf markdown frameworks q).map Entry.registered), after') := hrun'
    rw [hfirst, hsecond]
    have hentries : (entriesOf markdown frameworks p).Perm (entriesOf markdown frameworks q) :=
      entriesOf_perm h
    have hall := forall₂_rearranged hentries ht ht'
    refine ⟨⟨fun _ => ⟨_, rfl⟩, fun _ => ⟨_, rfl⟩⟩, ?_⟩
    rintro report report' hreport hreport'
    obtain rfl := Except.ok.inj hreport
    obtain rfl := Except.ok.inj hreport'
    exact ⟨hentries.map _, hall, fun hnames modulePath =>
      Program.render_congr (flatMap_imports_eq hall hs hs' hnames) modulePath⟩

end Frameworks

def Go.FuncDecl.routed (name comment : String) : Go.FuncDecl :=
  ⟨name, false, some [comment], ⟨[⟨["id"], .ident "int"⟩]⟩, [], 1⟩

def Package.routed (name : String) (functions : List Go.FuncDecl) : Package :=
  ⟨"app/" ++ name, name, name, [⟨name ++ ".go", name, [], functions⟩]⟩

def Project.routed (first second : Package) : Project :=
  ⟨"app", "app", [⟨"app", "main", "", []⟩, first, second]⟩

def Project.inOrder : Project :=
  .routed (.routed "items" [.routed "Get" "@path(\"GET\", \"/i\")",
    .routed "Put" "@path(\"PUT\", \"/i/x\")"])
    (.routed "users" [.routed "Get" "@path(\"GET\", \"/u\")"])

def Project.outOfOrder : Project :=
  .routed (.routed "users" [.routed "Get" "@path(\"GET\", \"/u\")"])
    (.routed "items" [.routed "Put" "@path(\"PUT\", \"/i/x\")",
      .routed "Get" "@path(\"GET\", \"/i\")"])

lemma Project.inOrder_rearranged : inOrder.Rearranged outOfOrder where
  root := .some ⟨rfl, rfl, .refl _⟩
  others := ⟨_, .swap _ _ _,
    .cons ⟨rfl, rfl, .refl _⟩ (.cons ⟨rfl, rfl, .swap _ _ _⟩ .nil)⟩

theorem Frameworks.outOfOrder_registered :
    let first := registerProject none [.new .http, .new .params] Project.inOrder
    let second := registerProject none [.new .http, .new .params] Project.outOfOrder
    first.1 = .ok [⟨.params, "app/items.Get", [⟨.get, "/i"⟩]⟩,
        ⟨.params, "app/items.Put", [⟨.put, "/i/x"⟩]⟩, ⟨.params, "app/users.Get", [⟨.get, "/u"⟩]⟩] ∧
      second.1 = .ok [⟨.params, "app/users.Get", [⟨.get, "/u"⟩]⟩,
        ⟨.params, "app/items.Put", [⟨.put, "/i/x"⟩]⟩, ⟨.params, "app/items.Get", [⟨.get, "/i"⟩]⟩] ∧
      List.Forall₂ Framework.Rearranged first.2 second.2 ∧
      ∃ source source', Program.synthesize first.2 "app" = .ok source ∧
        Program.synthesize second.2 "app" = .ok source' ∧
          Program.importBlock source = Program.importBlock source' := by
  intro first second
  have hb : Built [.new .http, .new .params] := @Built.fresh ["http", "params"] _ rfl
  have hfirst : first.1 = .ok [⟨.params, "app/items.Get", [⟨.get, "/i"⟩]⟩,
      ⟨.params, "app/items.Put", [⟨.put, "/i/x"⟩]⟩, ⟨.params, "app/users.Get", [⟨.get, "/u"⟩]⟩] := by
    decide +kernel
  have hsecond : second.1 = .ok [⟨.params, "app/users.Get", [⟨.get, "/u"⟩]⟩,
      ⟨.params, "app/items.Put", [⟨.put, "/i/x"⟩]⟩, ⟨.params, "app/items.Get", [⟨.get, "/i"⟩]⟩] := by
    decide +kernel
  have hnames : ∀ f ∈ first.2, f.NamesPackages := by
    unfold Framework.NamesPackages
    decide +kernel
  have hok : (Program.synthesize first.2 "app").isOk = true := by
    decide +kernel
  obtain ⟨-, hruns⟩ := registerProject_rearranged hb Project.inOrder_rearranged
  obtain ⟨-, hall, hprograms⟩ := hruns _ _ hfirst hsecond
  obtain ⟨hiff, hblocks⟩ := hprograms hnames "app"
  cases hsource : Program.synthesize first.2 "app" with
  | error failure =>
    rw [hsource] at hok
    cases hok
  | ok source =>
    obtain ⟨source', hsource'⟩ := hiff.mp ⟨source, hsource⟩
    exact ⟨hfirst, hsecond, hall, source, source', rfl, hsource',
      hblocks source source' hsource hsource'⟩

end Routewright
