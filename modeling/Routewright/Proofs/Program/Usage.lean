import Routewright.Proofs.Program.Decoding
import Routewright.Proofs.Program.ImportTable
import Routewright.Proofs.Program.Selectors
import Routewright.Proofs.Server.Selectors

namespace Routewright

open Go Text

namespace Frameworks

def NamePackages (frameworks : List Framework) : Prop :=
  ∀ f ∈ frameworks, ∀ b ∈ f.mux.bindings, ∀ g ∈ frameworks, ∀ c ∈ g.mux.bindings,
    b.handler.importPath = c.handler.importPath → b.handler.package = c.handler.package

/-- The standard packages that a program needs: those of its main function, those of a server if
there is one, and the decoder if some registered function decodes a request value. -/
def NeedPackage (frameworks : List Framework) (path : String) : Prop :=
  path ∈ Program.supervisorImports ∨
    (path ∈ ["context", "net/http"] ∧ ∃ f ∈ frameworks, f.isActive = true) ∨
      (path = "encoding/json" ∧ ∃ f ∈ frameworks, f.kind = .params ∧
        ∃ b ∈ f.mux.bindings, anyDecodes (Verifier.body b.handler) = true)

end Frameworks

namespace Framework

variable {f : Framework} {i : GoImport}

def codeLines (f : Framework) : List (List Char) :=
  ("func " ++ f.kind.bootstrap ++ "() (chan error, ShutDowner) \x7b").toList ::
    "\tmux := http.NewServeMux()".toList ::
      ((f.mux.bindings.map fun b => registration f.kind b.route b.handler).flatMap linesOf ++
        [] :: ("\tserver := &http.Server\x7bAddr: " ++ quote f.mux.listenAddr ++
          ", Handler: mux\x7d").toList :: serverLines.map String.toList)

lemma linesOf_bootstrap_eq (hf : f.Consistent) : linesOf f.bootstrap.body = f.codeLines := by
  have hserver : ("\tserver := &http.Server\x7bAddr: " ++ quote f.mux.listenAddr ++
      ", Handler: mux\x7d").toList =
        RouteTable.serverMark ++
          (quoteChars f.mux.listenAddr.toList ++ ", Handler: mux\x7d".toList) := by
    rw [String.toList_append, String.toList_append, toList_quote, List.append_assoc]
    rfl
  rw [linesOf_bootstrap, hf.registrations_eq, codeLines, hserver]

lemma isActive_of_mem {b : Binding} (hb : b ∈ f.mux.bindings) : f.isActive = true := by
  rw [isActive, Bool.or_eq_true]
  refine .inr ?_
  cases hbindings : f.mux.bindings with
  | nil => simp [hbindings] at hb
  | cons c rest => rfl

lemma get?_imports (hf : f.Settled) (hnames : f.NamesPackages) {path name : String} :
    f.mux.imports.get? path = some name ↔
      ∃ b ∈ f.mux.bindings, b.handler.importPath = path ∧ b.handler.package = name := by
  have hkeys : ∀ x ∈ f.mux.bindings.map fun b => (b.handler.importPath, b.handler.package),
      ∀ y ∈ f.mux.bindings.map fun b => (b.handler.importPath, b.handler.package),
        x.1 = y.1 → x.2 = y.2 := by
    intro x hx y hy
    obtain ⟨b, hb, rfl⟩ := List.mem_map.mp hx
    obtain ⟨c, hc, rfl⟩ := List.mem_map.mp hy
    exact hnames b hb c hc
  rw [hf.imports_eq, Dict.get?_ofList hkeys, List.mem_map]
  simp only [Prod.mk.injEq]

lemma mem_bootstrap_imports (hf : f.Settled) (hnames : f.NamesPackages) :
    i ∈ f.bootstrap.imports ↔
      (∃ path ∈ MuxTable.serverImports ++ (if f.needsJson then ["encoding/json"] else []),
        i = .standard path) ∨
      ∃ b ∈ f.mux.bindings, i = ⟨b.handler.importPath, b.handler.package⟩ := by
  have hentries : i ∈ f.mux.imports.entries.map (fun e => (⟨e.1, e.2⟩ : GoImport)) ↔
      f.mux.imports.get? i.path = some i.name := by
    rw [← Dict.mem_entries_iff, List.mem_map]
    constructor
    · rintro ⟨e, he, rfl⟩
      exact he
    · exact fun hi => ⟨_, hi, rfl⟩
  rw [bootstrap, MuxTable.bootstrap, List.mem_append, hentries, get?_imports hf hnames,
    List.mem_map]
  refine or_congr ⟨?_, ?_⟩ (exists_congr fun b => and_congr_right fun _ => ?_)
  · rintro ⟨path, hpath, rfl⟩
    exact ⟨path, hpath, rfl⟩
  · rintro ⟨path, hpath, rfl⟩
    exact ⟨path, hpath, rfl⟩
  · constructor
    · rintro ⟨hpath, hname⟩
      rw [hpath, hname]
    · rintro rfl
      exact ⟨rfl, rfl⟩

end Framework

namespace Frameworks

open Program

variable {frameworks : List Framework} {i : GoImport}

def bootstraps (frameworks : List Framework) : List Bootstrap :=
  (frameworks.filter Framework.isActive).map Framework.bootstrap

lemma exists_bootstrap_iff {p : Bootstrap → Prop} : (∃ b ∈ bootstraps frameworks, p b) ↔
    ∃ f ∈ frameworks, f.isActive = true ∧ p f.bootstrap := by
  simp only [bootstraps, List.mem_map, List.mem_filter, ← and_assoc]
  constructor
  · rintro ⟨_, ⟨f, hf, rfl⟩, hp⟩
    exact ⟨f, hf, hp⟩
  · rintro ⟨f, hf, hp⟩
    exact ⟨_, ⟨f, hf, rfl⟩, hp⟩

lemma NamePackages.namesPackages (h : NamePackages frameworks) :
    ∀ f ∈ frameworks, f.NamesPackages :=
  fun f hf b hb c hc => h f hf b hb f hf c hc

lemma needsJson_iff {f : Framework} (hf : f.Consistent) : f.needsJson = true ↔
    f.kind = .params ∧ ∃ b ∈ f.mux.bindings, anyDecodes (Verifier.body b.handler) = true := by
  simp only [hf.needsJson_iff, Verifier.anyDecodes_body, Handler.needsDecoding, List.any_eq_true,
    Bool.not_eq_true']

lemma needPackage_iff (hb : Built frameworks) (path : String) : NeedPackage frameworks path ↔
    path ∈ supervisorImports ∨ ∃ f ∈ frameworks, f.isActive = true ∧
      path ∈ MuxTable.serverImports ++ (if f.needsJson then ["encoding/json"] else []) := by
  constructor
  · rintro (hpath | ⟨hpath, f, hf, hactive⟩ | ⟨rfl, f, hf, hkind, b, hmem, hdecodes⟩)
    · exact .inl hpath
    · have hserver : ∀ path ∈ ["context", "net/http"], path ∈ MuxTable.serverImports := by
        decide
      exact .inr ⟨f, hf, hactive, List.mem_append_left _ (hserver path hpath)⟩
    · have hjson : f.needsJson = true :=
        (needsJson_iff (hb.consistent f hf)).mpr ⟨hkind, b, hmem, hdecodes⟩
      refine .inr ⟨f, hf, Framework.isActive_of_mem hmem, List.mem_append_right _ ?_⟩
      rw [if_pos hjson]
      exact List.mem_singleton_self _
  · rintro (hpath | ⟨f, hf, hactive, hpath⟩)
    · exact .inl hpath
    · rcases List.mem_append.mp hpath with hpath | hpath
      · have hserver : ∀ path ∈ MuxTable.serverImports,
            path ∈ supervisorImports ∨ path ∈ ["context", "net/http"] := by
          decide
        exact (hserver path hpath).imp_right fun hpath => .inl ⟨hpath, f, hf, hactive⟩
      · split_ifs at hpath with hjson
        · obtain rfl := List.mem_singleton.mp hpath
          obtain ⟨hkind, hdecodes⟩ := (needsJson_iff (hb.consistent f hf)).mp hjson
          exact .inr (.inr ⟨rfl, f, hf, hkind, hdecodes⟩)
        · cases hpath

lemma mem_allImports (hb : Built frameworks) (hnames : NamePackages frameworks) :
    i ∈ allImports (bootstraps frameworks) ↔
      (NeedPackage frameworks i.path ∧ i = .standard i.path) ∨
        ∃ f ∈ frameworks, ∃ b ∈ f.mux.bindings, i = ⟨b.handler.importPath, b.handler.package⟩ := by
  have hactive : i ∈ (bootstraps frameworks).flatMap Bootstrap.imports ↔
      ∃ f ∈ frameworks, f.isActive = true ∧ i ∈ f.bootstrap.imports :=
    List.mem_flatMap.trans exists_bootstrap_iff
  have himports : ∀ f ∈ frameworks, (i ∈ f.bootstrap.imports ↔ _) := fun f hf =>
    Framework.mem_bootstrap_imports (hb.settled f hf) (hnames.namesPackages f hf)
  rw [allImports, List.mem_append, hactive, List.mem_map, needPackage_iff hb]
  constructor
  · rintro (⟨path, hpath, rfl⟩ | ⟨f, hf, ha, hi⟩)
    · exact .inl ⟨.inl hpath, rfl⟩
    · rcases (himports f hf).mp hi with ⟨path, hpath, rfl⟩ | ⟨b, hmem, rfl⟩
      · exact .inl ⟨.inr ⟨f, hf, ha, hpath⟩, rfl⟩
      · exact .inr ⟨f, hf, b, hmem, rfl⟩
  · rintro (⟨hpath | ⟨f, hf, ha, hpath⟩, hi⟩ | ⟨f, hf, b, hmem, rfl⟩)
    · exact .inl ⟨i.path, hpath, hi.symm⟩
    · exact .inr ⟨f, hf, ha, (himports f hf).mpr (.inl ⟨i.path, hpath, hi⟩)⟩
    · exact .inr ⟨f, hf, Framework.isActive_of_mem hmem, (himports f hf).mpr (.inr ⟨b, hmem, rfl⟩)⟩

structure Importable (frameworks : List Framework) (modulePath : String) : Prop where
  names : NamePackages frameworks
  project : ∀ f ∈ frameworks, ∀ b ∈ f.mux.bindings,
    isProjectImport b.handler.importPath modulePath = true
  standard : ∀ path, NeedPackage frameworks path → isProjectImport path modulePath = false

variable {modulePath : String}

lemma Importable.path_ne (h : Importable frameworks modulePath) {path : String}
    (hpath : NeedPackage frameworks path) {f : Framework} (hf : f ∈ frameworks) {b : Binding}
    (hb : b ∈ f.mux.bindings) : path ≠ b.handler.importPath := by
  rintro rfl
  have hproject := h.project f hf b hb
  rw [h.standard _ hpath] at hproject
  cases hproject

lemma Importable.unambiguous (h : Importable frameworks modulePath) (hb : Built frameworks) :
    ∀ i ∈ allImports (bootstraps frameworks), ∀ j ∈ allImports (bootstraps frameworks),
      i.path = j.path → i.name = j.name := by
  intro i hi j hj hpath
  rcases (mem_allImports hb h.names).mp hi with ⟨hneed, hi⟩ | ⟨f, hf, b, hmem, rfl⟩
  · rcases (mem_allImports hb h.names).mp hj with ⟨-, hj⟩ | ⟨f, hf, b, hmem, rfl⟩
    · rw [hi, hj, hpath]
    · exact absurd hpath (h.path_ne hneed hf hmem)
  · rcases (mem_allImports hb h.names).mp hj with ⟨hneed, -⟩ | ⟨g, hg, c, hmem', rfl⟩
    · exact absurd hpath.symm (h.path_ne hneed hf hmem)
    · exact h.names f hf b hmem g hg c hmem' hpath

end Frameworks

namespace Program

open Frameworks

variable {frameworks : List Framework} {modulePath source : String} {groups : ImportGroups}

structure ImportGroups.AreNeeded (groups : ImportGroups) (frameworks : List Framework) : Prop where
  standard_iff : ∀ i, i ∈ groups.standard ↔ NeedPackage frameworks i.path ∧ i = .standard i.path
  project_iff : ∀ i, i ∈ groups.project ↔ ∃ f ∈ frameworks, ∃ b ∈ f.mux.bindings,
    i = ⟨b.handler.importPath, b.handler.package⟩
  standard_sorted : groups.standard.Pairwise (·.path < ·.path)
  project_sorted : groups.project.Pairwise (·.path < ·.path)

lemma importGroups_areNeeded (hb : Built frameworks) (h : Importable frameworks modulePath)
    (hgroups : importGroups (bootstraps frameworks) modulePath = .ok groups) :
    groups.AreNeeded frameworks := by
  have hmem := mem_importGroups hgroups (h.unambiguous hb)
  obtain ⟨-, -, -, -, hstandard, hproject⟩ := importGroups_eq_ok hgroups
  refine ⟨fun i => ?_, fun i => ?_, hstandard, hproject⟩
  · rw [(hmem i).1, mem_allImports hb h.names]
    constructor
    · rintro ⟨hneed | ⟨f, hf, b, hmem, rfl⟩, hpath⟩
      · exact hneed
      · rw [h.project f hf b hmem] at hpath
        cases hpath
    · exact fun hneed => ⟨.inl hneed, h.standard _ hneed.1⟩
  · rw [(hmem i).2, mem_allImports hb h.names]
    constructor
    · rintro ⟨⟨hneed, -⟩ | hbound, hpath⟩
      · rw [h.standard _ hneed] at hpath
        cases hpath
      · exact hbound
    · rintro ⟨f, hf, b, hmem, rfl⟩
      exact ⟨.inr ⟨f, hf, b, hmem, rfl⟩, h.project f hf b hmem⟩

lemma ImportGroups.AreNeeded.named {p : String → Prop} (h : groups.AreNeeded frameworks)
    (hnames : ∀ f ∈ frameworks, ∀ b ∈ f.mux.bindings, p b.handler.package) :
    ∀ i ∈ groups.standard ++ groups.project, GoImport.lastElement i.path = i.name ∨ p i.name := by
  refine List.forall_mem_append.mpr ⟨fun i hi => .inl ?_, fun i hi => .inr ?_⟩
  · exact (congrArg GoImport.name ((h.standard_iff i).mp hi).2).symm
  · obtain ⟨f, hf, b, hb, rfl⟩ := (h.project_iff i).mp hi
    exact hnames f hf b hb

lemma ImportGroups.AreNeeded.isReadable (h : groups.AreNeeded frameworks)
    (hnames : ∀ f ∈ frameworks, ∀ b ∈ f.mux.bindings,
      Pattern.isIdentifier b.handler.package.toList = true) :
    ∀ i ∈ groups.standard ++ groups.project, IsReadable i :=
  @named _ _ (Pattern.isIdentifier ·.toList = true) h hnames

lemma synthesize_eq_ok_iff : synthesize frameworks modulePath = .ok source ↔
    ∃ groups, importGroups (bootstraps frameworks) modulePath = .ok groups ∧
      source = text groups (bootstraps frameworks) := by
  rw [synthesize, render, ← bootstraps]
  cases importGroups (bootstraps frameworks) modulePath with
  | error issue => simp
  | ok groups => simp [eq_comm]

section Text

/-- Whether the text of a program uses the packages that it imports, under the names that it imports
them under. The variables of the servers are no packages. -/
structure ImportGroups.AreUsed (groups : ImportGroups) (frameworks : List Framework)
    (source : String) : Prop where
  decodes_iff : .standard "encoding/json" ∈ groups.standard ↔
    ∃ line ∈ linesOf source, opensDecoding line = true
  called : ∀ f ∈ frameworks, ∀ b ∈ f.mux.bindings,
    ⟨b.handler.package, b.handler.name⟩ ∈ Selector.all source
  typed : ∀ f ∈ frameworks, f.kind = .params → ∀ b ∈ f.mux.bindings, ∀ p ∈ b.handler.params,
    ∀ type, p.type.Names type → isPredeclared type = false →
      ⟨b.handler.package, type⟩ ∈ Selector.all source
  used_iff : ∀ name ∉ ["mux", "server", "r"],
    (∃ member, ⟨name, member⟩ ∈ Selector.all source) ↔ ∃ i ∈ importsOf source, i.name = name

lemma codeLines_isInfix (hb : Built frameworks) {f : Framework} (hf : f ∈ frameworks)
    (ha : f.isActive = true) :
    f.codeLines <:+: linesOf (text groups (bootstraps frameworks)) := by
  rw [← Framework.linesOf_bootstrap_eq (hb.consistent f hf)]
  exact linesOf_body_isInfix (List.mem_map_of_mem (List.mem_filter.mpr ⟨hf, ha⟩))

variable (hspelled : ∀ f ∈ frameworks, ∀ b ∈ f.mux.bindings, b.handler.IsSpelled)

include hspelled

lemma ImportGroups.AreNeeded.isName (h : groups.AreNeeded frameworks) :
    ∀ i ∈ groups.standard ++ groups.project,
      GoImport.lastElement i.path = i.name ∨ IsName i.name :=
  @named _ _ IsName h fun f hf b hb => (hspelled f hf b hb).package

lemma decodes_text_iff (hb : Built frameworks) (h : groups.AreNeeded frameworks) :
    (∃ line ∈ linesOf (text groups (bootstraps frameworks)), opensDecoding line = true) ↔
      ∃ f ∈ frameworks, f.kind = .params ∧
        ∃ b ∈ f.mux.bindings, anyDecodes (Verifier.body b.handler) = true := by
  have hentries : ∀ b ∈ bootstraps frameworks, IsLine b.functionName ∧
      opensDecoding ("\t" ++ b.functionName ++ ",").toList = false := by
    have hkinds : ∀ kind : FrameworkKind, IsLine kind.bootstrap ∧
        opensDecoding ("\t" ++ kind.bootstrap ++ ",").toList = false := by
      intro kind
      cases kind <;> decide
    exact List.forall_mem_map.mpr fun f _ => hkinds f.kind
  have hbody : ∀ f ∈ frameworks, (linesOf f.bootstrap.body).any opensDecoding = true ↔
      f.kind = .params ∧ ∃ b ∈ f.mux.bindings, anyDecodes (Verifier.body b.handler) = true := by
    intro f hf
    rw [Framework.any_opensDecoding_bootstrap (hb.consistent f hf) (hspelled f hf)]
    simp only [Verifier.anyDecodes_body, Bool.and_eq_true, beq_iff_eq, List.any_eq_true]
  rw [← List.any_eq_true, any_opensDecoding_text (h.isName hspelled) hentries, List.any_eq_true,
    exists_bootstrap_iff]
  constructor
  · rintro ⟨f, hf, -, hb⟩
    exact ⟨f, hf, (hbody f hf).mp hb⟩
  · rintro ⟨f, hf, hkind, b, hmem, hdecodes⟩
    exact ⟨f, hf, Framework.isActive_of_mem hmem, (hbody f hf).mpr ⟨hkind, b, hmem, hdecodes⟩⟩

lemma mem_selectors_text (hb : Built frameworks) (h : groups.AreNeeded frameworks)
    {s : Selector} : s ∈ Selector.all (text groups (bootstraps frameworks)) ↔
      s ∈ mainSelectors ∨ ∃ f ∈ frameworks, f.isActive = true ∧
        (s ∈ ⟨"http", "NewServeMux"⟩ :: Framework.serverSelectors ∨
          ∃ b ∈ f.mux.bindings, s ∈ Framework.handlerSelectors f.kind b.handler) := by
  have hentries : ∀ b ∈ bootstraps frameworks, IsLine b.functionName ∧
      Selector.onLine ("\t" ++ b.functionName ++ ",").toList = [] := by
    have hkinds : ∀ kind : FrameworkKind, IsLine kind.bootstrap ∧
        Selector.onLine ("\t" ++ kind.bootstrap ++ ",").toList = [] := by
      intro kind
      cases kind <;>
        exact ⟨by decide, Selector.onLine_of_areIn (Selector.areIn_of_ascii (by decide))⟩
    exact List.forall_mem_map.mpr fun f _ => hkinds f.kind
  have hread : ∀ i ∈ groups.standard ++ groups.project,
      GoImport.lastElement i.path = i.name ∨ isIdentifier i.name.toList = true := fun i hi =>
    (h.isName hspelled i hi).imp_right And.left
  have hbody : ∀ f ∈ frameworks, (s ∈ (linesOf f.bootstrap.body).flatMap Selector.onLine ↔
      s ∈ ⟨"http", "NewServeMux"⟩ :: Framework.serverSelectors ∨
        ∃ b ∈ f.mux.bindings, s ∈ Framework.handlerSelectors f.kind b.handler) := by
    intro f hf
    rw [Framework.selectors_bootstrap (hb.consistent f hf) (hspelled f hf), List.mem_cons,
      List.mem_append, List.mem_flatMap, List.mem_cons, or_assoc]
    exact or_congr_right or_comm
  rw [selectors_text hread hentries, List.mem_append, List.mem_flatMap, exists_bootstrap_iff,
    or_comm]
  refine or_congr_right (exists_congr fun f => and_congr_right fun hf => ?_)
  exact and_congr_right fun _ => hbody f hf

omit hspelled in
lemma ImportGroups.AreNeeded.exists_standard (h : groups.AreNeeded frameworks) {path : String}
    (hpath : NeedPackage frameworks path) :
    ∃ i ∈ groups.standard ++ groups.project, i.name = GoImport.lastElement path :=
  ⟨.standard path, List.mem_append_left _ ((h.standard_iff _).mpr ⟨hpath, rfl⟩), rfl⟩

lemma exists_import_of_mem_selectors (hb : Built frameworks) (h : groups.AreNeeded frameworks)
    {s : Selector} (hs : s ∈ Selector.all (text groups (bootstraps frameworks)))
    (hoperand : s.operand ∉ ["mux", "server", "r"]) :
    ∃ i ∈ groups.standard ++ groups.project, i.name = s.operand := by
  have hmain : ∀ s ∈ mainSelectors, ∃ path ∈ supervisorImports,
      GoImport.lastElement path = s.operand := by
    decide
  have hserver : ∀ s ∈ ⟨"http", "NewServeMux"⟩ :: Framework.serverSelectors,
      s.operand ∈ ["mux", "server", "r"] ∨ ∃ path ∈ supervisorImports ++ ["context", "net/http"],
        GoImport.lastElement path = s.operand := by
    decide
  rcases (mem_selectors_text hspelled hb h).mp hs with hs | ⟨f, hf, ha, hs | ⟨b, hmem, hs⟩⟩
  · obtain ⟨path, hpath, hname⟩ := hmain s hs
    rw [← hname]
    exact h.exists_standard (.inl hpath)
  · obtain ⟨path, hpath, hname⟩ := (hserver s hs).resolve_left hoperand
    rw [← hname]
    refine h.exists_standard ((List.mem_append.mp hpath).imp_right fun hpath => ?_)
    exact .inl ⟨hpath, f, hf, ha⟩
  · rcases Framework.operand_of_mem_handler hs with hs | hs | ⟨hs, hkind, hdecodes⟩
    · have hhttp : ∀ name ∈ ["mux", "r", "http"], name ∉ ["mux", "server", "r"] →
          name = "http" := by
        decide
      have hname : GoImport.lastElement "net/http" = "http" := by
        decide
      rw [hhttp _ hs hoperand, ← hname]
      exact h.exists_standard (.inr (.inl ⟨by decide, f, hf, ha⟩))
    · exact ⟨⟨b.handler.importPath, b.handler.package⟩,
        List.mem_append_right _ ((h.project_iff _).mpr ⟨f, hf, b, hmem, rfl⟩), hs.symm⟩
    · have hname : GoImport.lastElement "encoding/json" = "json" := by
        decide
      rw [hs, ← hname]
      rw [← Verifier.anyDecodes_body] at hdecodes
      exact h.exists_standard (.inr (.inr ⟨rfl, f, hf, hkind, b, hmem, hdecodes⟩))

lemma exists_selector_of_mem_imports (hb : Built frameworks) (h : groups.AreNeeded frameworks)
    {i : GoImport} (hi : i ∈ groups.standard ++ groups.project) :
    ∃ member, ⟨i.name, member⟩ ∈ Selector.all (text groups (bootstraps frameworks)) := by
  have hmain : ∀ path ∈ supervisorImports, ∃ s ∈ mainSelectors,
      s.operand = GoImport.lastElement path := by
    decide
  have hserver : ∀ path ∈ ["context", "net/http"], ∃ s ∈ Framework.serverSelectors,
      s.operand = GoImport.lastElement path := by
    decide
  have hmem := fun s => (@mem_selectors_text _ _ hspelled hb h s).mpr
  -- The text of the program is long, and not to be opened.
  generalize Selector.all (text groups (bootstraps frameworks)) = selectors at hmem ⊢
  have hfound : ∀ s ∈ selectors, s.operand = i.name → ∃ member, ⟨i.name, member⟩ ∈ selectors := by
    rintro ⟨operand, member⟩ hs rfl
    exact ⟨member, hs⟩
  rcases List.mem_append.mp hi with hi | hi
  · obtain ⟨hpath | ⟨hpath, f, hf, ha⟩ | ⟨hpath, f, hf, hkind, b, hb, hdecodes⟩, hstandard⟩ :=
      (h.standard_iff i).mp hi
    · obtain ⟨s, hs, hname⟩ := hmain i.path hpath
      exact hfound s (hmem s (.inl hs)) (by rw [hname, hstandard]; rfl)
    · obtain ⟨s, hs, hname⟩ := hserver i.path hpath
      exact hfound s (hmem s (.inr ⟨f, hf, ha, .inl (List.mem_cons_of_mem _ hs)⟩))
        (by rw [hname, hstandard]; rfl)
    · rw [Verifier.anyDecodes_body] at hdecodes
      obtain ⟨p, hp, hstring⟩ := List.any_eq_true.mp hdecodes
      have hjson : ⟨"json", "Unmarshal"⟩ ∈ Framework.handlerSelectors f.kind b.handler := by
        rw [hkind]
        refine Framework.mem_handlerSelectors_of_param hp (List.mem_append_right _ ?_)
        rw [Param.decodeSelectors, if_neg (by simpa using hstring)]
        exact List.mem_singleton_self _
      refine hfound _ (hmem _ (.inr ⟨f, hf, Framework.isActive_of_mem hb, .inr ⟨b, hb, hjson⟩⟩)) ?_
      have hname : GoImport.lastElement "encoding/json" = "json" := by
        decide
      rw [hstandard, hpath, GoImport.standard, hname]
  · obtain ⟨f, hf, b, hb, rfl⟩ := (h.project_iff i).mp hi
    exact ⟨b.handler.name, hmem _ (.inr ⟨f, hf, Framework.isActive_of_mem hb,
      .inr ⟨b, hb, Framework.mem_handlerSelectors f.kind b.handler⟩⟩)⟩

lemma importGroups_areUsed (hb : Built frameworks) (h : groups.AreNeeded frameworks) :
    groups.AreUsed frameworks (text groups (bootstraps frameworks)) where
  decodes_iff := by
    have hmain : "encoding/json" ∉ supervisorImports ∧
        "encoding/json" ∉ ["context", "net/http"] := by
      decide
    rw [decodes_text_iff hspelled hb h, h.standard_iff]
    constructor
    · rintro ⟨hpath | ⟨hpath, -⟩ | ⟨-, hdecodes⟩, -⟩
      · exact absurd hpath hmain.1
      · exact absurd hpath hmain.2
      · exact hdecodes
    · exact fun hdecodes => ⟨.inr (.inr ⟨rfl, hdecodes⟩), rfl⟩
  called f hf b hmem := by
    refine (mem_selectors_text hspelled hb h).mpr (.inr ⟨f, hf, Framework.isActive_of_mem hmem, ?_⟩)
    exact .inr ⟨b, hmem, Framework.mem_handlerSelectors f.kind b.handler⟩
  typed f hf hkind b hmem p hp type hnames hown := by
    have htype : ⟨b.handler.package, type⟩ ∈ Framework.handlerSelectors f.kind b.handler := by
      rw [hkind]
      refine Framework.mem_handlerSelectors_of_param hp (List.mem_append_left _ ?_)
      simp [Param.typeSelectors, Param.valueType_of_names hnames, hown]
    exact (mem_selectors_text hspelled hb h).mpr
      (.inr ⟨f, hf, Framework.isActive_of_mem hmem, .inr ⟨b, hmem, htype⟩⟩)
  used_iff name hname := by
    have hread : ∀ i ∈ groups.standard ++ groups.project, IsReadable i := fun i hi =>
      (h.isName hspelled i hi).imp_right fun hname => isIdentifier_of_go hname.1
    rw [importsOf_text hread]
    constructor
    · rintro ⟨member, hs⟩
      exact exists_import_of_mem_selectors hspelled hb h hs hname
    · rintro ⟨i, hi, rfl⟩
      exact exists_selector_of_mem_imports hspelled hb h hi

end Text

/-- A page, and a lookup by number in a package that is not named like its directory; a third
package has lost its path to the lookup. -/
def shop : List Framework :=
  (([Framework.new .http, .new .params].modify 0
      fun f => (f.call (.bind ⟨.get, "/"⟩ ⟨"app/web", "web", "Home", []⟩)).2).modify 1
      fun f => (f.call (.bind ⟨.get, "/items/\x7bid\x7d"⟩
        ⟨"app/items/v1", "items", "Find", [⟨"id", .ident "int", true, .path⟩]⟩)).2).modify 1
    fun f => (f.call (.bind ⟨.put, "/items/\x7bno\x7d"⟩
      ⟨"app/stock", "stock", "Put", [⟨"no", .ident "Number", true, .path⟩]⟩)).2

lemma shop_bindings : shop.flatMap (·.mux.bindings) =
    [⟨⟨.get, "/"⟩, ⟨"app/web", "web", "Home", []⟩⟩,
      ⟨⟨.get, "/items/\x7bid\x7d"⟩,
        ⟨"app/items/v1", "items", "Find", [⟨"id", .ident "int", true, .path⟩]⟩⟩] := by
  decide +kernel

lemma shop_spelled : ∀ f ∈ shop, ∀ b ∈ f.mux.bindings, b.handler.IsSpelled := by
  intro f hf b hb
  have hmem : b ∈ shop.flatMap (·.mux.bindings) := List.mem_flatMap.mpr ⟨f, hf, hb⟩
  rw [shop_bindings, List.mem_cons, List.mem_singleton] at hmem
  rcases hmem with rfl | rfl
  · exact ⟨isName_of_ascii (by decide) (by decide), isIdentifier_of_ascii (by decide), by simp,
      by simp⟩
  · exact ⟨isName_of_ascii (by decide) (by decide), isIdentifier_of_ascii (by decide),
      List.forall_mem_singleton.mpr (isIdentifier_of_ascii (by decide)),
      List.forall_mem_singleton.mpr ⟨"int", .inl rfl, isIdentifier_of_ascii (by decide)⟩⟩

end Program

end Routewright
