import Routewright.Proofs.Project.Report
import Routewright.Proofs.Server.Matching

namespace Routewright

open Go Text

structure Handler.Referable (kind : FrameworkKind) (h : Handler) : Prop where
  package_ne : h.package ≠ "main"
  name_exported : isExported h.name = true
  params_nameable : kind = .params → ∀ p ∈ h.params, Nameable p.type

lemma exists_left_of_mem {α β : Type} {R : α → β → Prop} {l : List α} {m : List β}
    (h : List.Forall₂ R l m) : ∀ b ∈ m, ∃ a ∈ l, R a b := by
  induction h with
  | nil => simp
  | @cons a b l m hab _ ih =>
    refine List.forall_mem_cons.mpr ⟨⟨a, List.mem_cons_self, hab⟩, fun b hb => ?_⟩
    obtain ⟨a, ha, hab⟩ := ih b hb
    exact ⟨a, List.mem_cons_of_mem _ ha, hab⟩

section Params

variable {positions : List Position} {i : ℕ} {params : List Param}

lemma Shape.paramsFrom_nameable (h : paramsFrom i positions = .ok params) :
    ∀ p ∈ params, Nameable p.type := by
  intro p hp
  obtain ⟨position, -, hstands⟩ := exists_left_of_mem (paramsFrom_eq_ok_iff.mp h) p hp
  exact hstands.type_eq ▸ hstands.nameable

lemma HandlerDoc.applySources_nameable (doc : HandlerDoc) {h : Handler}
    (hparams : ∀ p ∈ h.params, Nameable p.type) : ∀ p ∈ (doc.applySources h).params, Nameable p.type :=
  List.forall_mem_map.mpr fun p hp => hparams p hp

end Params

section Entries

variable {markdown : Option MarkdownDirectory} {kinds : List FrameworkKind} {d : Declaration}
  {e : Entry}

lemma Declaration.Leads.handler_package (h : d.Leads markdown kinds e) :
    e.handler.package = d.package.name := by
  obtain ⟨lines, doc, params, -, -, -, hhandler, -⟩ := h.handler_eq
  rw [hhandler]
  rfl

lemma Declaration.Leads.handler_name (h : d.Leads markdown kinds e) :
    e.handler.name = d.function.name := by
  obtain ⟨lines, doc, params, -, -, -, hhandler, -⟩ := h.handler_eq
  rw [hhandler]
  rfl

lemma Declaration.Leads.params_nameable (h : d.Leads markdown kinds e) (hkind : e.kind = .params) :
    ∀ p ∈ e.handler.params, Nameable p.type := by
  obtain ⟨lines, doc, params, -, -, hdescribe, hhandler, -⟩ := h.handler_eq
  rw [hkind] at hdescribe
  rw [hhandler]
  exact doc.applySources_nameable (Shape.paramsFrom_nameable hdescribe)

lemma Declaration.Leads.kind_mem (h : d.Leads markdown kinds e) : e.kind ∈ kinds := by
  obtain ⟨before, after, hkinds, -⟩ := h.first_kind
  rw [hkinds]
  exact List.mem_append_right before List.mem_cons_self

end Entries

section Packages

variable {frameworks after : List Framework} {markdown : Option MarkdownDirectory}
  {d : Declaration}

lemma Candidate.of_package {p : Package} {f : FuncDecl} {c : Candidate}
    (h : of frameworks markdown p f = .ok (some c)) : p.name ≠ "main" := by
  rw [of] at h
  split at h
  · cases h
  · split at h
    · cases h
    · split at h
      · cases h
      · dsimp only at h
        split at h
        · cases h
        · split at h
          · cases h
          · rw [ofDoc] at h
            split at h
            · cases h
            · split at h
              · cases h
              · rename_i hmain
                exact hmain

lemma Frameworks.register_package {outcome : Option Registered} (ho : d.isOffered = true)
    (hr : register frameworks markdown d.package d.function = (.ok outcome, after))
    (hw : d.isWanted markdown (frameworks.map Framework.kind) = true) : d.package.name ≠ "main" := by
  rw [register] at hr
  split at hr
  · cases hr
  · rename_i hnone
    rcases Candidate.of_eq_ok ho hnone with ⟨-, hnot⟩ | ⟨f, e, he, -⟩
    · rw [hw] at hnot
      cases hnot
    · cases he
  · rename_i c hc
    exact Candidate.of_package hc

lemma Frameworks.registerAll_package {ds : List Declaration} {report : List Registered}
    (hn : (frameworks.map Framework.kind).Nodup) (ho : ∀ d ∈ ds, d.isOffered = true)
    (hr : registerAll markdown frameworks ds = (.ok report, after)) :
    ∀ d ∈ ds, d.isWanted markdown (frameworks.map Framework.kind) = true →
      d.package.name ≠ "main" := by
  induction ds generalizing frameworks report with
  | nil => simp
  | cons d ds ih =>
    obtain ⟨hod, ho⟩ := List.forall_mem_cons.mp ho
    rw [registerAll] at hr
    split at hr
    · cases hr
    · rename_i outcome next hd
      -- Which declarations are wanted is asked of the kinds, and a step does not change those.
      have hkinds : next.map Framework.kind = frameworks.map Framework.kind := by
        rcases register_ok hn hod hd with ⟨-, rfl, -⟩ | ⟨e, -, htables, -⟩
        · rfl
        · exact tables_kinds htables
      obtain ⟨hout, rfl⟩ := Prod.mk.inj hr
      obtain ⟨tail, htail, -⟩ := except_map_eq_ok_iff.mp hout
      refine List.forall_mem_cons.mpr ⟨register_package hod hd, ?_⟩
      rw [← hkinds]
      exact ih (hkinds ▸ hn) ho (Prod.ext htail rfl)

end Packages

namespace Frameworks

def newBindings (before after : List Framework) : List (FrameworkKind × Binding) :=
  (before.zip after).flatMap fun x =>
    (x.2.mux.bindings.drop x.1.mux.bindings.length).map fun b => (x.1.kind, b)

section Bindings

variable {frameworks after : List Framework} {entries : List Entry}

lemma forall₂_of_tables (h : tables after = extended entries frameworks) :
    List.Forall₂ (fun f g => g.kind = f.kind ∧
      g.mux.bindings = f.mux.bindings ++ added entries f.kind) frameworks after := by
  rw [tables, extended] at h
  have hrows := List.forall₂_map_left_iff.mp (List.forall₂_map_right_iff.mp
    (List.forall₂_eq_eq_eq ▸ h : List.Forall₂ Eq _ _))
  exact hrows.flip.imp fun f g hrow => ⟨(Prod.mk.inj hrow).1, (Prod.mk.inj (Prod.mk.inj hrow).2).2⟩

lemma newBindings_eq (h : tables after = extended entries frameworks) :
    newBindings frameworks after =
      frameworks.flatMap fun f => (added entries f.kind).map fun b => (f.kind, b) := by
  have hrows := forall₂_of_tables h
  clear h
  rw [newBindings]
  induction hrows with
  | nil => rfl
  | @cons f g fs gs hrow _ ih =>
    rw [List.zip_cons_cons, List.flatMap_cons, List.flatMap_cons, ih, hrow.2, List.drop_left]

lemma mem_newBindings_iff (h : tables after = extended entries frameworks)
    (hkinds : ∀ e ∈ entries, e.kind ∈ frameworks.map Framework.kind)
    {x : FrameworkKind × Binding} :
    x ∈ newBindings frameworks after ↔ ∃ e ∈ entries, x.1 = e.kind ∧ x.2 ∈ e.bindings := by
  obtain ⟨kind, b⟩ := x
  rw [newBindings_eq h, List.mem_flatMap]
  constructor
  · rintro ⟨f, -, hx⟩
    obtain ⟨c, hc, heq⟩ := List.mem_map.mp hx
    obtain ⟨rfl, rfl⟩ := Prod.mk.inj heq
    obtain ⟨e, he, hb⟩ := List.mem_flatMap.mp hc
    obtain ⟨he, hkind⟩ := List.mem_filter.mp he
    exact ⟨e, he, (eq_of_beq hkind).symm, hb⟩
  · rintro ⟨e, he, rfl, hb⟩
    obtain ⟨f, hf, hkind⟩ := List.mem_map.mp (hkinds e he)
    refine ⟨f, hf, List.mem_map.mpr ⟨b, List.mem_flatMap.mpr ⟨e, ?_, hb⟩, by rw [hkind]⟩⟩
    exact List.mem_filter.mpr ⟨he, beq_iff_eq.mpr hkind.symm⟩

end Bindings

theorem registerProject_references {markdown : Option MarkdownDirectory}
    {frameworks : List Framework} {p : Project} {report : List Registered} (hb : Built frameworks)
    (hr : (registerProject markdown frameworks p).1 = .ok report) :
    let after := (registerProject markdown frameworks p).2
    List.Forall₂ (fun f g => g.kind = f.kind ∧ f.mux.bindings <+: g.mux.bindings) frameworks after ∧
      (∀ x ∈ newBindings frameworks after, x.2.handler.package ≠ "main" ∧
        (x.1 = .params → ∀ q ∈ x.2.handler.params, Nameable q.type)) ∧
        ((∀ x ∈ newBindings frameworks after, x.2.handler.Referable x.1) ↔
          ∀ site ∈ p.sites.filter (Project.isReported markdown (frameworks.map Framework.kind)),
            isExported site.2.function.name = true) := by
  intro after
  have hall : registerAll markdown frameworks (Declaration.ofProject p) = (.ok report, after) :=
    Prod.ext hr rfl
  have hnodup := Built.kinds_nodup hb
  have hoffered := Declaration.isOffered_of_mem_ofProject p
  have hpackage := registerAll_package hnodup hoffered hall
  obtain ⟨entries, hleads, -, htables⟩ := registerAll_ok hnodup hoffered hall
  have hsource : ∀ e ∈ entries, ∃ d ∈ (Declaration.ofProject p).filter
      (·.isWanted markdown (frameworks.map Framework.kind)),
        d.Leads markdown (frameworks.map Framework.kind) e := exists_left_of_mem hleads
  have hkinds : ∀ e ∈ entries, e.kind ∈ frameworks.map Framework.kind := by
    intro e he
    obtain ⟨d, -, hd⟩ := hsource e he
    exact hd.kind_mem
  have hmem : ∀ x, x ∈ newBindings frameworks after ↔
      ∃ e ∈ entries, x.1 = e.kind ∧ x.2 ∈ e.bindings := fun x => mem_newBindings_iff htables hkinds
  have hchecked : ∀ x ∈ newBindings frameworks after, x.2.handler.package ≠ "main" ∧
      (x.1 = .params → ∀ q ∈ x.2.handler.params, Nameable q.type) := by
    intro x hx
    obtain ⟨e, he, hkind, hbinding⟩ := (hmem x).mp hx
    obtain ⟨d, hd, hlead⟩ := hsource e he
    obtain ⟨hd, hwanted⟩ := List.mem_filter.mp hd
    obtain ⟨r, -, hr⟩ := List.mem_map.mp hbinding
    rw [← hr, hkind]
    exact ⟨hlead.handler_package ▸ hpackage d hd hwanted, hlead.params_nameable⟩
  refine ⟨(forall₂_of_tables htables).imp fun f g hrow =>
    ⟨hrow.1, hrow.2 ▸ List.prefix_append _ _⟩, hchecked, ?_⟩
  constructor
  · intro hall site hsite
    have hd : site.2 ∈ (Declaration.ofProject p).filter
        (·.isWanted markdown (frameworks.map Framework.kind)) := by
      rw [← Project.reported_eq]
      exact List.mem_map_of_mem hsite
    obtain ⟨e, he, hlead⟩ := exists_left_of_mem hleads.flip site.2 hd
    obtain ⟨r, hr⟩ := List.exists_mem_of_ne_nil _ hlead.routes_ne_nil
    have hreferable := hall (e.kind, ⟨r, e.handler⟩)
      ((hmem _).mpr ⟨e, he, rfl, List.mem_map_of_mem hr⟩)
    rw [← hlead.handler_name]
    exact hreferable.name_exported
  · intro hnames x hx
    refine ⟨(hchecked x hx).1, ?_, (hchecked x hx).2⟩
    obtain ⟨e, he, -, hbinding⟩ := (hmem x).mp hx
    obtain ⟨d, hd, hlead⟩ := hsource e he
    rw [← Project.reported_eq] at hd
    obtain ⟨site, hsite, rfl⟩ := List.mem_map.mp hd
    obtain ⟨r, -, hr⟩ := List.mem_map.mp hbinding
    rw [← hr]
    exact hlead.handler_name ▸ hnames site hsite

theorem sample_references :
    let frameworks := [.new .http, .new .params]
    ∀ x ∈ newBindings frameworks (registerProject none frameworks Project.sample).2,
      x.2.handler.Referable x.1 := by
  have hb : Built [.new .http, .new .params] := @Built.fresh ["http", "params"] _ rfl
  have hr : (registerProject none [.new .http, .new .params] Project.sample).1 =
      .ok [⟨.params, "app/api.Get", [⟨.get, "/"⟩]⟩] := by
    decide +kernel
  have hnames : ∀ site ∈ Project.sample.sites.filter (Project.isReported none [.http, .params]),
      isExported site.2.function.name = true := by
    decide +kernel
  exact (registerProject_references hb hr).2.2.mpr hnames

end Frameworks

def Project.concealing : Project where
  root := "app"
  modulePath := "app"
  packages :=
    [⟨"app", "main", "app", []⟩,
      ⟨"app/api", "api", "app/api", [⟨"app/api/items.go", "api", [],
        [⟨"get", false, some ["@path(\"GET\", \"/\")"], ⟨[⟨["id"], .ident "int"⟩]⟩, [], 5⟩]⟩]⟩]

theorem Frameworks.concealing_binds_hidden :
    let frameworks := [.new .http, .new .params]
    (registerProject none frameworks Project.concealing).1 =
        .ok [⟨.params, "app/api.get", [⟨.get, "/"⟩]⟩] ∧
      ∃ x ∈ newBindings frameworks (registerProject none frameworks Project.concealing).2,
        isExported x.2.handler.name = false := by
  decide +kernel

end Routewright
