import Routewright.Proofs.Program.ImportBlock
import Routewright.Proofs.Program.ImportTable
import Routewright.Proofs.Program.SourceLines
import Routewright.Proofs.Program.Usage
import Routewright.Proofs.Server.Locals

namespace Routewright

open Go Text

namespace Program

open Frameworks

def declared (source : String) : List String :=
  ((linesOf source).dropWhile (· != ")".toList)).flatMap declaredOn

/-- Names that a program declares and that no list reserves: types, variables and functions of the
program, a variable of its main function, and the variables of a request value. -/
def exposed (frameworks : List Framework) : List String :=
  ["ShutDowner", "ServerRunner", "serverRunners", "osSignal", "serverErr"] ++
    ((bootstraps frameworks).map Bootstrap.functionName ++ frameworks.flatMap Framework.valueVars)

section Names

variable {frameworks : List Framework} {names : List String} {modulePath source : String}
  {groups : ImportGroups}

lemma declared_of_eq_ofList {t : String} {l : List Char} (ht : t = .ofList l)
    (h : (splitOnChar '\n' l).flatMap declaredOn = names) :
    (linesOf t).flatMap declaredOn = names := by
  rwa [linesOf_eq_ofList ht]

lemma declared_types : (linesOf supervisorTypes).flatMap declaredOn =
    ["ShutDowner", "ServerRunner", "serverRunners"] := by
  apply declared_of_eq_ofList
  · unfold supervisorTypes
    simp only [String.append_assoc, -String.reduceAppend]
    iterate 6 apply append_eq_ofList
    rfl
  · decide +kernel

lemma declared_main : (linesOf supervisorMain).flatMap declaredOn =
    ["osSignal", "signals", "main", "signals", "serveErrs", "shutDowners", "run", "serverErr",
      "shutDown", "serverErr", "err", "sig", "errs", "shutDown", "err", "err"] := by
  apply declared_of_eq_ofList
  · unfold supervisorMain
    simp only [String.append_assoc, -String.reduceAppend]
    iterate 32 apply append_eq_ofList
    rfl
  · decide +kernel

lemma declared_declarations : (linesOf supervisorDeclarations).flatMap declaredOn =
    ["ShutDowner", "ServerRunner", "serverRunners"] := by
  have hopening : [[], ")".toList].flatMap declaredOn = [] := by
    decide
  rw [← declared_types, linesOf_types, List.flatMap_append, hopening, List.nil_append]

lemma declaredOn_entry (kind : FrameworkKind) :
    declaredOn ("\t" ++ kind.bootstrap ++ ",").toList = [] := by
  cases kind <;> decide

lemma declared_closingLines (frameworks : List Framework) :
    (closingLines (bootstraps frameworks)).flatMap declaredOn =
      ["ShutDowner", "ServerRunner", "serverRunners"] ++
        ((bootstraps frameworks).flatMap (fun b => (linesOf b.body).flatMap declaredOn) ++
          (linesOf supervisorMain).flatMap declaredOn) := by
  have hbrace : declaredOn "\x7d".toList = [] := by
    decide
  have hentries : ∀ b ∈ bootstraps frameworks,
      declaredOn ("\t" ++ b.functionName ++ ",").toList = [] :=
    List.forall_mem_map.mpr fun f _ => declaredOn_entry f.kind
  rw [flatMap_closingLines rfl hbrace hentries, declared_declarations]

lemma mem_bodies {n : String} :
    n ∈ (bootstraps frameworks).flatMap (fun b => (linesOf b.body).flatMap declaredOn) ↔
      ∃ f ∈ frameworks, f.isActive = true ∧ n ∈ (linesOf f.bootstrap.body).flatMap declaredOn :=
  List.mem_flatMap.trans exists_bootstrap_iff

lemma mem_functionNames {n : String} : n ∈ (bootstraps frameworks).map Bootstrap.functionName ↔
    ∃ f ∈ frameworks, f.isActive = true ∧ f.kind.bootstrap = n :=
  List.mem_map.trans exists_bootstrap_iff

lemma reserved_or_exposed (hb : Built frameworks)
    (hnamed : ∀ f ∈ frameworks, ∀ b ∈ f.mux.bindings, b.handler.IsNamed) :
    ∀ n ∈ (closingLines (bootstraps frameworks)).flatMap declaredOn,
      n ∈ reservedNames ∨ n ∈ exposed frameworks := by
  have hmain : ∀ n ∈ (linesOf supervisorMain).flatMap declaredOn,
      n ∈ reservedNames ∨ n ∈ ["osSignal", "serverErr"] := by
    rw [declared_main]
    decide
  have hlocals : ∀ n ∈ Framework.bootstrapLocals, n ∈ reservedNames := by
    decide
  rw [declared_closingLines]
  refine List.forall_mem_append.mpr
    ⟨fun n hn => .inr ?_, List.forall_mem_append.mpr ⟨fun n hn => ?_, fun n hn => ?_⟩⟩
  · exact List.mem_append_left _ (List.mem_append_left ["osSignal", "serverErr"] hn)
  · obtain ⟨f, hf, ha, hn⟩ := mem_bodies.mp hn
    rcases Framework.declared_bootstrap (hb.consistent f hf) (hnamed f hf) n hn with hn | hn | hn
    · exact .inl (hlocals n hn)
    · refine .inr (List.mem_append_right _ (List.mem_append_left _ ?_))
      exact mem_functionNames.mpr ⟨f, hf, ha, hn.symm⟩
    · refine .inr (List.mem_append_right _ (List.mem_append_right _ ?_))
      exact List.mem_flatMap.mpr ⟨f, hf, hn⟩
  · refine (hmain n hn).imp_right fun hn => List.mem_append_left _ ?_
    exact List.mem_append_right ["ShutDowner", "ServerRunner", "serverRunners"] hn

lemma mem_closingLines_of_exposed (hb : Built frameworks)
    (hnamed : ∀ f ∈ frameworks, ∀ b ∈ f.mux.bindings, b.handler.IsNamed) :
    ∀ n ∈ exposed frameworks, n ∈ (closingLines (bootstraps frameworks)).flatMap declaredOn := by
  have hbody : ∀ f ∈ frameworks, f.isActive = true → ∀ n ∈ f.kind.bootstrap :: f.valueVars,
      n ∈ (bootstraps frameworks).flatMap fun b => (linesOf b.body).flatMap declaredOn :=
    fun f hf ha n hn => mem_bodies.mpr
      ⟨f, hf, ha, Framework.mem_declared_bootstrap (hb.consistent f hf) (hnamed f hf) n hn⟩
  rw [declared_closingLines]
  refine List.forall_mem_append.mpr
    ⟨?_, List.forall_mem_append.mpr ⟨fun n hn => ?_, fun n hn => ?_⟩⟩
  · rw [declared_main]
    simp
  · obtain ⟨f, hf, ha, rfl⟩ := mem_functionNames.mp hn
    have hn := hbody f hf ha _ List.mem_cons_self
    exact List.mem_append_right _ (List.mem_append_left _ hn)
  · obtain ⟨f, hf, hn⟩ := List.mem_flatMap.mp hn
    obtain ⟨b, hmem, -⟩ := List.mem_flatMap.mp hn
    have hn := hbody f hf (Framework.isActive_of_mem hmem) n (List.mem_cons_of_mem _ hn)
    exact List.mem_append_right _ (List.mem_append_left _ hn)

lemma isReadable_of_importGroups (hb : Built frameworks)
    (hnamed : ∀ f ∈ frameworks, ∀ b ∈ f.mux.bindings, b.handler.IsNamed)
    (h : importGroups (bootstraps frameworks) modulePath = .ok groups) :
    ∀ i ∈ groups.standard ++ groups.project, IsReadable i := by
  refine forall_mem_importGroups h fun i hi _ => ?_
  rcases List.mem_append.mp hi with hi | hi
  · obtain ⟨path, -, rfl⟩ := List.mem_map.mp hi
    exact .inl rfl
  obtain ⟨b, hmem, hi⟩ := List.mem_flatMap.mp hi
  obtain ⟨f, hf, rfl⟩ := List.mem_map.mp hmem
  have hf := List.mem_of_mem_filter hf
  rcases List.mem_append.mp hi with hi | hi
  · obtain ⟨path, -, rfl⟩ := List.mem_map.mp hi
    exact .inl rfl
  · obtain ⟨e, he, rfl⟩ := List.mem_map.mp hi
    have hentry := (f.mux.imports.mem_entries_iff e.1 e.2).mp he
    rw [(hb.settled f hf).imports_eq] at hentry
    refine .inr (Dict.forall_mem_ofList (p := fun _ name => Pattern.isIdentifier name.toList = true)
      (List.forall_mem_map.mpr fun b hb => (hnamed f hf b hb).package) e.1 e.2 hentry)

lemma mem_project_iff (h : importGroups (bootstraps frameworks) modulePath = .ok groups)
    {i : GoImport} (hi : i ∈ groups.standard ++ groups.project) :
    i ∈ groups.project ↔ isProjectImport i.path modulePath = true := by
  obtain ⟨t, -, hstandard, hproject, -⟩ := importGroups_eq_ok h
  have hknown : t.names.get? i.path = some i.name := by
    rcases List.mem_append.mp hi with hi | hi
    · exact ((hstandard i).mp hi).1
    · exact ((hproject i).mp hi).1
  rw [hproject, hknown]
  simp

lemma declared_text (h : ∀ i ∈ groups.standard ++ groups.project, IsReadable i) :
    declared (text groups (bootstraps frameworks)) =
      (closingLines (bootstraps frameworks)).flatMap declaredOn := by
  have hnames : ∀ b ∈ bootstraps frameworks, IsLine b.functionName := by
    refine List.forall_mem_map.mpr fun f _ => ?_
    change IsLine f.kind.bootstrap
    cases f.kind <;> decide
  have hclose : declaredOn ")".toList = [] := by
    decide
  rw [declared, linesOf_text h hnames, List.dropWhile_append_of_pos openingLines_ne,
    List.dropWhile_cons_of_neg (by simp), List.flatMap_cons, hclose, List.nil_append]

lemma mem_declared_of_exposed (hb : Built frameworks)
    (hnamed : ∀ f ∈ frameworks, ∀ b ∈ f.mux.bindings, b.handler.IsNamed)
    (h : importGroups (bootstraps frameworks) modulePath = .ok groups) :
    ∀ n ∈ exposed frameworks, n ∈ declared (text groups (bootstraps frameworks)) := by
  rw [declared_text (isReadable_of_importGroups hb hnamed h)]
  exact mem_closingLines_of_exposed hb hnamed

theorem synthesize_names (hb : Built frameworks)
    (hnamed : ∀ f ∈ frameworks, ∀ b ∈ f.mux.bindings, b.handler.IsNamed)
    (hs : synthesize frameworks modulePath = .ok source) :
    ∃ groups : ImportGroups, importsOf source = groups.standard ++ groups.project ∧
      (∀ i ∈ groups.standard ++ groups.project,
        i ∈ groups.project ↔ isProjectImport i.path modulePath = true) ∧
      (∀ n ∈ exposed frameworks, n ∈ declared source) ∧
      ∀ i ∈ groups.project, i.name ∈ declared source → i.name ∈ exposed frameworks := by
  obtain ⟨groups, hgroups, rfl⟩ := synthesize_eq_ok_iff.mp hs
  have hread := isReadable_of_importGroups hb hnamed hgroups
  refine ⟨groups, importsOf_text hread _, fun i hi => mem_project_iff hgroups hi,
    mem_declared_of_exposed hb hnamed hgroups, fun i hi hmem => ?_⟩
  rw [declared_text hread] at hmem
  exact (reserved_or_exposed hb hnamed _ hmem).resolve_left
    (not_reserved_of_importGroups hgroups i hi)

def signalShop : List Framework :=
  ([Framework.new .http, .new .params].modify 0
      fun f => (f.call (.bind ⟨.get, "/"⟩ ⟨"app/osSignal", "osSignal", "Notify", []⟩)).2).modify 1
    fun f => (f.call (.bind ⟨.get, "/items/\x7bid\x7d"⟩
      ⟨"app/items", "items", "Find", [⟨"id", .ident "int", true, .path⟩]⟩)).2

lemma signalShop_built : Built signalShop :=
  .call 1 _ (.call 0 _ (@Built.fresh ["http", "params"] _ rfl))

lemma signalShop_evaluated : signalShop.flatMap (·.mux.bindings) =
      [⟨⟨.get, "/"⟩, ⟨"app/osSignal", "osSignal", "Notify", []⟩⟩, ⟨⟨.get, "/items/\x7bid\x7d"⟩,
        ⟨"app/items", "items", "Find", [⟨"id", .ident "int", true, .path⟩]⟩⟩] ∧
    (importGroups (bootstraps signalShop) "app").map (·.project) =
      .ok [⟨"app/items", "items"⟩, ⟨"app/osSignal", "osSignal"⟩] ∧
    isProjectImport "app/osSignal" "app" = true ∧
    ∀ n ∈ ["osSignal", "idVal"], n ∈ exposed signalShop := by
  decide +kernel

lemma signalShop_named : ∀ f ∈ signalShop, ∀ b ∈ f.mux.bindings, b.handler.IsNamed := by
  intro f hf b hb
  have hmem : b ∈ signalShop.flatMap (·.mux.bindings) := List.mem_flatMap.mpr ⟨f, hf, hb⟩
  rw [signalShop_evaluated.1, List.mem_cons, List.mem_singleton] at hmem
  rcases hmem with rfl | rfl
  · exact ⟨by decide, by decide, by simp⟩
  · exact ⟨by decide, by decide, by simp [TypeExpr.IsNamed]; decide⟩

lemma signalShop_groups : ∃ groups, importGroups (bootstraps signalShop) "app" = .ok groups ∧
    groups.project = [⟨"app/items", "items"⟩, ⟨"app/osSignal", "osSignal"⟩] := by
  have hproject := signalShop_evaluated.2.1
  cases hgroups : importGroups (bootstraps signalShop) "app" with
  | error issue =>
    rw [hgroups] at hproject
    cases hproject
  | ok groups =>
    rw [hgroups] at hproject
    exact ⟨groups, rfl, Except.ok.inj hproject⟩

theorem signalShop_names : Built signalShop ∧
    (∀ f ∈ signalShop, ∀ b ∈ f.mux.bindings, b.handler.IsNamed) ∧
    ∃ source, ∃ groups : ImportGroups, synthesize signalShop "app" = .ok source ∧
      importsOf source = groups.standard ++ groups.project ∧ "idVal" ∈ declared source ∧
        ∀ i ∈ groups.project, i.name ∈ declared source → i.name ∈ exposed signalShop := by
  obtain ⟨groups, hgroups, -⟩ := signalShop_groups
  have hsource := synthesize_eq_ok_iff.mpr ⟨groups, hgroups, rfl⟩
  obtain ⟨groups, himports, -, hexposed, hproject⟩ :=
    synthesize_names signalShop_built signalShop_named hsource
  have hvalue := signalShop_evaluated.2.2.2 "idVal" (by simp)
  exact ⟨signalShop_built, signalShop_named, _, groups, hsource, himports, hexposed _ hvalue,
    hproject⟩

theorem signalShop_clash : Built signalShop ∧
    (∀ f ∈ signalShop, ∀ b ∈ f.mux.bindings, b.handler.IsNamed) ∧
    ∃ source, synthesize signalShop "app" = .ok source ∧ ∃ i ∈ importsOf source,
      isProjectImport i.path "app" = true ∧ i.name ∈ declared source := by
  obtain ⟨groups, hgroups, hproject⟩ := signalShop_groups
  have hread := isReadable_of_importGroups signalShop_built signalShop_named hgroups
  obtain ⟨-, -, hpath, hexposed⟩ := signalShop_evaluated
  refine ⟨signalShop_built, signalShop_named, _, synthesize_eq_ok_iff.mpr ⟨groups, hgroups, rfl⟩,
    ⟨"app/osSignal", "osSignal"⟩, ?_, hpath, ?_⟩
  · rw [importsOf_text hread, hproject]
    simp
  · exact mem_declared_of_exposed signalShop_built signalShop_named hgroups _
      (hexposed "osSignal" (by simp))

end Names

end Program

end Routewright
