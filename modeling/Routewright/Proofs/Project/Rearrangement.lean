import Mathlib.Data.List.Forall2
import Mathlib.Logic.Relation
import Routewright.Proofs.Program.ImportBlock
import Routewright.Proofs.Project.Offer

namespace Routewright

structure Package.Rearranged (p q : Package) : Prop where
  importPath_eq : p.importPath = q.importPath
  name_eq : p.name = q.name
  functions_perm : (p.functions.map Prod.snd).Perm (q.functions.map Prod.snd)

structure Project.Rearranged (p q : Project) : Prop where
  root : Option.Rel Package.Rearranged p.packages.head? q.packages.head?
  others : Relation.Comp List.Perm (List.Forall₂ Package.Rearranged) p.packages.tail
    q.packages.tail

namespace Declaration

variable {p q : Package}

lemma map_offer_ofPackage (p : Package) :
    (ofPackage p).map offer =
      ((p.functions.map Prod.snd).filter fun f => !f.hasReceiver && f.doc.isSome).map
        (Offer.mk p.importPath p.name) := by
  simp only [ofPackage, List.filter_map, List.map_map]
  rfl

lemma ofPackage_perm (h : p.Rearranged q) :
    ((ofPackage p).map offer).Perm ((ofPackage q).map offer) := by
  rw [map_offer_ofPackage, map_offer_ofPackage, h.importPath_eq, h.name_eq]
  exact (h.functions_perm.filter _).map _

lemma flatMap_ofPackage_perm {ps qs : List Package} (h : List.Forall₂ Package.Rearranged ps qs) :
    ((ps.flatMap ofPackage).map offer).Perm ((qs.flatMap ofPackage).map offer) := by
  induction h with
  | nil => rfl
  | cons hpq _ ih =>
    rw [List.flatMap_cons, List.flatMap_cons, List.map_append, List.map_append]
    exact (ofPackage_perm hpq).append ih

lemma map_offer_ofProject {p : Project} {root : Package} {rest : List Package}
    (h : p.packages = root :: rest) :
    (ofProject p).map offer =
      ((ofPackage root).map offer).filter (·.function.name != infoFunction) ++
        (rest.flatMap ofPackage).map offer := by
  rw [ofProject, h, List.map_append, List.filter_map]
  rfl

lemma ofProject_perm {p q : Project} (h : p.Rearranged q) :
    ((ofProject p).map offer).Perm ((ofProject q).map offer) := by
  obtain ⟨between, hperm, hforall⟩ := h.others
  have hroot := h.root
  cases hp : p.packages with
  | nil =>
    rw [hp] at hroot
    cases hq : q.packages with
    | nil => rw [ofProject, ofProject, hp, hq]
    | cons root' rest' =>
      rw [hq] at hroot
      cases hroot
  | cons root rest =>
    cases hq : q.packages with
    | nil =>
      rw [hp, hq] at hroot
      cases hroot
    | cons root' rest' =>
      rw [hp, hq] at hroot
      rw [hp] at hperm
      rw [hq] at hforall
      cases hroot with
      | some hroot =>
        rw [map_offer_ofProject hp, map_offer_ofProject hq]
        have hrest := ((hperm.flatMap_right ofPackage).map offer).trans
          (flatMap_ofPackage_perm hforall)
        exact ((ofPackage_perm hroot).filter _).append hrest

end Declaration

namespace Offer

variable {markdown : Option MarkdownDirectory} {frameworks : List Framework}

lemma added_perm {entries entries' : List Entry} (h : entries.Perm entries')
    (kind : FrameworkKind) :
    (Frameworks.added entries kind).Perm (Frameworks.added entries' kind) :=
  (h.filter _).flatMap_right _

lemma Acceptable.perm {os os' : List Offer} (ha : Acceptable markdown frameworks os)
    (h : os.Perm os') : Acceptable markdown frameworks os' := by
  refine ⟨fun o ho => ha.sound o (h.mem_iff.mpr ho), fun x hx => ?_⟩
  obtain ⟨f, hf, rfl⟩ := List.mem_map.mp hx
  exact (ha.compatible _ (List.mem_map_of_mem hf)).perm
    ((added_perm (h.filterMap _) f.kind).append_left f.mux.bindings)

end Offer

namespace Framework

structure Rearranged (f g : Framework) : Prop where
  kind_eq : f.kind = g.kind
  addr_eq : f.mux.addr = g.mux.addr
  bindings_perm : f.mux.bindings.Perm g.mux.bindings

variable {f g : Framework}

lemma Rearranged.isActive_eq (h : f.Rearranged g) : f.isActive = g.isActive := by
  have hempty : f.mux.bindings.isEmpty = g.mux.bindings.isEmpty := by
    rw [Bool.eq_iff_iff, List.isEmpty_iff, List.isEmpty_iff]
    exact ⟨fun hf => List.nil_perm.mp (hf ▸ h.bindings_perm),
      fun hg => List.perm_nil.mp (hg ▸ h.bindings_perm)⟩
  rw [isActive, isActive, isConfigured, isConfigured, MuxTable.isConfigured,
    MuxTable.isConfigured, h.addr_eq, hempty]

lemma Rearranged.needsJson_eq (h : f.Rearranged g) (hf : f.Consistent) (hg : g.Consistent) :
    f.needsJson = g.needsJson := by
  rw [Bool.eq_iff_iff, hf.needsJson_iff, hg.needsJson_iff, h.kind_eq]
  simp only [h.bindings_perm.mem_iff]

lemma Rearranged.imports_eq (h : f.Rearranged g) (hf : f.Settled) (hg : g.Settled)
    (hnames : f.NamesPackages) : f.mux.imports = g.mux.imports := by
  rw [hf.imports_eq, hg.imports_eq]
  refine Dict.ofList_perm (h.bindings_perm.map _) fun x hx y hy hpath => ?_
  obtain ⟨b, hb, rfl⟩ := List.mem_map.mp hx
  obtain ⟨c, hc, rfl⟩ := List.mem_map.mp hy
  exact hnames b hb c hc hpath

lemma Rearranged.bootstrap_imports_eq (h : f.Rearranged g) (hf : f.Settled) (hg : g.Settled)
    (hnames : f.NamesPackages) : f.bootstrap.imports = g.bootstrap.imports := by
  rw [bootstrap, bootstrap, h.needsJson_eq hf.consistent hg.consistent, MuxTable.bootstrap,
    MuxTable.bootstrap, h.imports_eq hf hg hnames]

end Framework

end Routewright
