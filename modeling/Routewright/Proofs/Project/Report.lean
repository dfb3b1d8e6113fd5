import Mathlib.Data.List.Nodup
import Routewright.Proofs.Project.Entry

namespace Routewright

namespace Framework

lemma bindAll_ok {f g : Framework} {h : Handler} {routes : List Route}
    (hb : f.bindAll h routes = (.ok (), g)) :
    g.kind = f.kind ∧ g.mux.addr = f.mux.addr ∧
      g.mux.bindings = f.mux.bindings ++ routes.map fun r => ⟨r, h⟩ := by
  induction routes generalizing f with
  | nil =>
    obtain rfl : f = g := (Prod.mk.inj hb).2
    simp
  | cons r routes ih =>
    rw [bindAll] at hb
    cases hr : f.bind r h with
    | error failure => simp [hr] at hb
    | ok next =>
      rw [hr] at hb
      obtain ⟨hk, ha, hbs⟩ := ih hb
      obtain ⟨key, _, _, rfl⟩ := bind_eq_ok_iff.mp hr
      refine ⟨hk, ha, ?_⟩
      rw [hbs]
      simp [bound, MuxTable.bound]

end Framework

namespace Frameworks

def tables (frameworks : List Framework) :
    List (FrameworkKind × Option String × List Binding) :=
  frameworks.map fun f => (f.kind, f.mux.addr, f.mux.bindings)

def added (entries : List Entry) (kind : FrameworkKind) : List Binding :=
  (entries.filter (·.kind == kind)).flatMap Entry.bindings

def extended (entries : List Entry) (frameworks : List Framework) :
    List (FrameworkKind × Option String × List Binding) :=
  frameworks.map fun f => (f.kind, f.mux.addr, f.mux.bindings ++ added entries f.kind)

lemma extended_nil (frameworks : List Framework) : extended [] frameworks = tables frameworks := by
  simp [extended, tables, added]

lemma tables_kinds {frameworks after : List Framework} {entries : List Entry}
    (h : tables after = extended entries frameworks) :
    after.map Framework.kind = frameworks.map Framework.kind := by
  simpa [tables, extended, Function.comp_def] using congrArg (List.map Prod.fst) h

lemma extended_cons {frameworks next : List Framework} {e : Entry} {entries : List Entry}
    (h : tables next = extended [e] frameworks) :
    extended entries next = extended (e :: entries) frameworks := by
  have hx : extended entries next =
      (tables next).map fun x => (x.1, x.2.1, x.2.2 ++ added entries x.1) := by
    simp [extended, tables, Function.comp_def]
  rw [hx, h]
  simp only [extended, List.map_map, Function.comp_def, List.append_assoc]
  refine List.map_congr_left fun f _ => ?_
  by_cases hk : e.kind = f.kind <;> simp [added, hk]

lemma replace_tables {frameworks : List Framework} {f g : Framework} {e : Entry}
    (hn : (frameworks.map Framework.kind).Nodup) (hf : f ∈ frameworks) (he : e.kind = f.kind)
    (hk : g.kind = f.kind) (ha : g.mux.addr = f.mux.addr)
    (hb : g.mux.bindings = f.mux.bindings ++ e.bindings) :
    tables (replace frameworks g) = extended [e] frameworks := by
  simp only [tables, replace, extended, List.map_map]
  refine List.map_congr_left fun f' hf' => ?_
  simp only [Function.comp_apply, hk]
  split
  · rename_i hkind
    obtain rfl := List.inj_on_of_nodup_map hn hf' hf hkind
    simp [added, he, hk, ha, hb]
  · rename_i hkind
    simp [added, he, Ne.symm hkind]

end Frameworks

namespace Frameworks

variable {frameworks after : List Framework} {markdown : Option MarkdownDirectory}
  {d : Declaration}

lemma register_ok {outcome : Option Registered} (hn : (frameworks.map Framework.kind).Nodup)
    (ho : d.isOffered = true)
    (hr : register frameworks markdown d.package d.function = (.ok outcome, after)) :
    (outcome = none ∧ after = frameworks ∧
        d.isWanted markdown (frameworks.map Framework.kind) = false) ∨
      ∃ e, outcome = some e.registered ∧ tables after = extended [e] frameworks ∧
        d.isWanted markdown (frameworks.map Framework.kind) = true ∧
          d.Leads markdown (frameworks.map Framework.kind) e := by
  unfold register at hr
  split at hr
  · cases hr
  · rename_i hc
    cases hr
    rcases Candidate.of_eq_ok ho hc with ⟨-, hw⟩ | ⟨f, e, he, -⟩
    · exact .inl ⟨rfl, rfl, hw⟩
    · cases he
  · rename_i c hc
    rcases Candidate.of_eq_ok ho hc with ⟨hnone, -⟩ | ⟨f, e, he, hf, hkind, hw, hl⟩
    · cases hnone
    · obtain rfl := Option.some.inj he
      cases hb : f.bindAll e.handler e.routes with
      | mk bound g =>
        simp only [hb, Prod.mk.injEq] at hr
        obtain ⟨hout, rfl⟩ := hr
        obtain ⟨⟨⟩, rfl, rfl⟩ := except_map_eq_ok_iff.mp hout
        obtain ⟨hk, ha, hbs⟩ := Framework.bindAll_ok hb
        exact .inr ⟨e, by rw [Entry.registered, hkind, hk],
          replace_tables hn hf hkind hk ha hbs, hw, hl⟩

lemma registerAll_ok {ds : List Declaration} {report : List Registered}
    (hn : (frameworks.map Framework.kind).Nodup) (ho : ∀ d ∈ ds, d.isOffered = true)
    (hr : registerAll markdown frameworks ds = (.ok report, after)) :
    ∃ entries : List Entry,
      List.Forall₂ (Declaration.Leads markdown (frameworks.map Framework.kind))
        (ds.filter (·.isWanted markdown (frameworks.map Framework.kind))) entries ∧
      report = entries.map Entry.registered ∧ tables after = extended entries frameworks := by
  induction ds generalizing frameworks report with
  | nil =>
    cases hr
    exact ⟨[], by simp, rfl, (extended_nil _).symm⟩
  | cons d ds ih =>
    rw [registerAll] at hr
    split at hr
    · cases hr
    · rename_i outcome next hd
      cases hrest : registerAll markdown next ds with
      | mk rest last =>
        simp only [hrest, Prod.mk.injEq] at hr
        obtain ⟨hout, rfl⟩ := hr
        obtain ⟨tail, rfl, rfl⟩ := except_map_eq_ok_iff.mp hout
        have ho' : ∀ d' ∈ ds, d'.isOffered = true := fun d' hd' =>
          ho d' (List.mem_cons_of_mem _ hd')
        rcases register_ok hn (ho d List.mem_cons_self) hd with
          ⟨rfl, rfl, hw⟩ | ⟨e, rfl, ht, hw, hl⟩
        · obtain ⟨entries, hf, rfl, hx⟩ := ih hn ho' hrest
          exact ⟨entries, by simpa [hw] using hf, rfl, hx⟩
        · have hk := tables_kinds ht
          obtain ⟨entries, hf, rfl, hx⟩ := ih (hk ▸ hn) ho' hrest
          rw [hk] at hf
          refine ⟨e :: entries, ?_, rfl, hx.trans (extended_cons ht)⟩
          rw [List.filter_cons_of_pos hw]
          exact .cons hl hf

end Frameworks

namespace Project

def sites (p : Project) : List (ℕ × Declaration) :=
  p.packages.zipIdx.flatMap fun x =>
    x.1.files.flatMap fun file => file.functions.map fun f => (x.2, ⟨x.1, file, f⟩)

/-- Whether a function is bound: it is no method, not the general information function of the root
package, served by some framework, and its doc comment carries an annotation. -/
def isReported (markdown : Option MarkdownDirectory) (kinds : List FrameworkKind)
    (site : ℕ × Declaration) : Bool :=
  !site.2.function.hasReceiver && site.2.function.doc.isSome &&
    !(site.1 == 0 && site.2.function.name == infoFunction) &&
      site.2.isWanted markdown kinds

def isOffered (site : ℕ × Declaration) : Bool :=
  site.2.isOffered && !(site.1 == 0 && site.2.function.name == infoFunction)

lemma offered_of_package (i : ℕ) (p : Package) :
    ((p.files.flatMap fun file => file.functions.map fun f => (i, Declaration.mk p file f)).filter
        isOffered).map Prod.snd =
      (Declaration.ofPackage p).filter fun d => !(i == 0 && d.function.name == infoFunction) := by
  have hf : (p.files.flatMap fun file => file.functions.map fun f => (i, Declaration.mk p file f)) =
      (p.functions.map fun d => Declaration.mk p d.1 d.2).map fun d => (i, d) := by
    simp [Package.functions, List.map_flatMap, Function.comp_def]
  rw [hf, List.filter_map, List.map_map]
  simp [Declaration.ofPackage, List.filter_filter, isOffered, Function.comp_def, Bool.and_comm]

lemma ofProject_eq (p : Project) :
    Declaration.ofProject p = (p.sites.filter isOffered).map Prod.snd := by
  rw [sites, List.filter_flatMap, List.map_flatMap]
  simp only [offered_of_package]
  rw [Declaration.ofProject]
  cases p.packages with
  | nil => rfl
  | cons root rest =>
    have hrest : ((rest.zipIdx 1).flatMap fun x => (Declaration.ofPackage x.1).filter
        fun d => !(x.2 == 0 && d.function.name == infoFunction)) =
          rest.flatMap Declaration.ofPackage := by
      have hpos : ∀ x ∈ rest.zipIdx 1, ((Declaration.ofPackage x.1).filter
          fun d => !(x.2 == 0 && d.function.name == infoFunction)) = Declaration.ofPackage x.1 := by
        intro x hx
        have hne : x.2 ≠ 0 := Nat.ne_of_gt (List.le_snd_of_mem_zipIdx hx)
        simp [hne]
      rw [List.flatMap_congr hpos, ← List.flatMap_map Prod.fst, List.zipIdx_map_fst]
    simp only [List.zipIdx_cons, List.flatMap_cons, Nat.zero_add, hrest]
    rfl

lemma reported_eq (markdown : Option MarkdownDirectory) (kinds : List FrameworkKind)
    (p : Project) :
    (p.sites.filter (isReported markdown kinds)).map Prod.snd =
      (Declaration.ofProject p).filter (·.isWanted markdown kinds) := by
  rw [ofProject_eq, List.filter_map, List.filter_filter]
  congr 2
  funext site
  simp [isReported, isOffered, Declaration.isOffered, Bool.and_comm, Bool.and_left_comm]

end Project

lemma Declaration.isOffered_of_mem_ofProject (p : Project) :
    ∀ d ∈ Declaration.ofProject p, d.isOffered = true := by
  intro d hd
  rw [Project.ofProject_eq] at hd
  obtain ⟨site, hs, rfl⟩ := List.mem_map.mp hd
  have ho := (List.mem_filter.mp hs).2
  rw [Project.isOffered, Bool.and_eq_true] at ho
  exact ho.1

theorem Frameworks.registerProject_report {markdown : Option MarkdownDirectory}
    {frameworks : List Framework} {p : Project} {report : List Registered}
    (hb : Frameworks.Built frameworks)
    (hr : (Frameworks.registerProject markdown frameworks p).1 = .ok report) :
    let kinds := frameworks.map Framework.kind
    ∃ entries : List Entry,
      List.Forall₂ (fun site e => Declaration.Leads markdown kinds site.2 e)
        (p.sites.filter (Project.isReported markdown kinds)) entries ∧
      report = entries.map Entry.registered ∧
      (registerProject markdown frameworks p).2.map
          (fun f => (f.kind, f.mux.addr, f.mux.bindings)) =
        frameworks.map fun f => (f.kind, f.mux.addr,
          f.mux.bindings ++ (entries.filter (·.kind == f.kind)).flatMap Entry.bindings) := by
  intro kinds
  obtain ⟨entries, hf, hreport, ht⟩ := registerAll_ok (Built.kinds_nodup hb)
    (Declaration.isOffered_of_mem_ofProject p)
    (Prod.ext hr rfl : registerAll markdown frameworks (Declaration.ofProject p) =
      (.ok report, (registerProject markdown frameworks p).2))
  refine ⟨entries, ?_, hreport, ht⟩
  rw [← Project.reported_eq] at hf
  exact List.forall₂_map_left_iff.mp hf

def Project.sample : Project where
  root := "app"
  modulePath := "app"
  packages :=
    [⟨"app", "main", "app", [⟨"app/main.go", "main", [],
        [⟨infoFunction, false, some [], ⟨[⟨["id"], .ident "int"⟩]⟩, [], 3⟩]⟩]⟩,
      ⟨"app/api", "api", "app/api", [⟨"app/api/items.go", "api", [],
        [⟨"Get", false, some ["@path(\"GET\", \"/\")"], ⟨[⟨["id"], .ident "int"⟩]⟩, [], 5⟩,
          ⟨"Plain", false, some [""], ⟨[⟨["id"], .ident "int"⟩]⟩, [], 9⟩]⟩]⟩]

theorem Frameworks.sample_report :
    ∃ entries : List Entry,
      List.Forall₂ (fun site e => Declaration.Leads none [.http, .params] site.2 e)
        (Project.sample.sites.filter (Project.isReported none [.http, .params])) entries ∧
      entries.map Entry.registered = [⟨.params, "app/api.Get", [⟨.get, "/"⟩]⟩] ∧
      (registerProject none [.new .http, .new .params] Project.sample).2.map
          (fun f => (f.kind, f.mux.addr, f.mux.bindings)) =
        [(.http, none, (entries.filter (·.kind == .http)).flatMap Entry.bindings),
          (.params, none, (entries.filter (·.kind == .params)).flatMap Entry.bindings)] := by
  have hb : Built [.new .http, .new .params] := @Built.fresh ["http", "params"] _ rfl
  have hr : (registerProject none [.new .http, .new .params] Project.sample).1 =
      .ok [⟨.params, "app/api.Get", [⟨.get, "/"⟩]⟩] := by
    decide +kernel
  obtain ⟨entries, hf, hreport, ht⟩ := registerProject_report hb hr
  exact ⟨entries, hf, hreport.symm, ht⟩

end Routewright
