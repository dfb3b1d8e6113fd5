import Routewright.Proofs.Project.Report
import Routewright.Proofs.Server.Admission

namespace Routewright

structure Offer where
  importPath : String
  package : String
  function : Go.FuncDecl

def Declaration.offer (d : Declaration) : Offer :=
  ⟨d.package.importPath, d.package.name, d.function⟩

def Candidate.entry (c : Candidate) : Entry :=
  ⟨c.framework.kind, c.handler, c.routes⟩

namespace Offer

def asks (markdown : Option MarkdownDirectory) (kinds : List FrameworkKind) (o : Offer) :
    Except Failure (Option Entry) :=
  (Candidate.of (kinds.map Framework.new) markdown ⟨o.importPath, o.package, "", []⟩
    o.function).map (Option.map Candidate.entry)

def asked? (markdown : Option MarkdownDirectory) (kinds : List FrameworkKind) (o : Offer) :
    Option Entry :=
  match o.asks markdown kinds with
  | .ok e => e
  | .error _ => none

structure Acceptable (markdown : Option MarkdownDirectory) (frameworks : List Framework)
    (offers : List Offer) : Prop where
  sound : ∀ o ∈ offers, ∃ e, o.asks markdown (frameworks.map Framework.kind) = .ok e
  compatible : ∀ x ∈ Frameworks.extended
    (offers.filterMap (asked? markdown (frameworks.map Framework.kind))) frameworks,
      Binding.Compatible x.2.2

end Offer

namespace Offer

variable {markdown : Option MarkdownDirectory} {frameworks next : List Framework} {o : Offer}
  {offers : List Offer}

lemma acceptable_cons_of_none (h : o.asks markdown (frameworks.map Framework.kind) = .ok none) :
    Acceptable markdown frameworks (o :: offers) ↔ Acceptable markdown frameworks offers := by
  have hentry : o.asked? markdown (frameworks.map Framework.kind) = none := by
    rw [asked?, h]
  have hentries := List.filterMap_cons_none (l := offers) hentry
  constructor
  · intro ha
    exact ⟨fun o' ho' => ha.sound o' (List.mem_cons_of_mem o ho'), hentries ▸ ha.compatible⟩
  · intro ha
    exact ⟨List.forall_mem_cons.mpr ⟨⟨none, h⟩, ha.sound⟩, hentries.symm ▸ ha.compatible⟩

lemma acceptable_cons_of_some {e : Entry}
    (h : o.asks markdown (frameworks.map Framework.kind) = .ok (some e))
    (ht : Frameworks.tables next = Frameworks.extended [e] frameworks) :
    Acceptable markdown frameworks (o :: offers) ↔ Acceptable markdown next offers := by
  have hkinds := Frameworks.tables_kinds ht
  have hentry : o.asked? markdown (frameworks.map Framework.kind) = some e := by
    rw [asked?, h]
  have hentries := List.filterMap_cons_some (l := offers) hentry
  have hextended : Frameworks.extended
      (offers.filterMap (asked? markdown (frameworks.map Framework.kind))) next =
        Frameworks.extended ((o :: offers).filterMap
          (asked? markdown (frameworks.map Framework.kind))) frameworks := by
    rw [hentries]
    exact Frameworks.extended_cons ht
  constructor
  · intro ha
    refine ⟨fun o' ho' => ?_, ?_⟩
    · rw [hkinds]
      exact ha.sound o' (List.mem_cons_of_mem o ho')
    · rw [hkinds, hextended]
      exact ha.compatible
  · intro ha
    refine ⟨List.forall_mem_cons.mpr ⟨⟨some e, h⟩, ?_⟩, ?_⟩
    · exact hkinds ▸ ha.sound
    · rw [← hextended, ← hkinds]
      exact ha.compatible

end Offer

namespace Candidate

variable {markdown : Option MarkdownDirectory}

lemma map_entry_ofDoc {f g : Framework} (h : Handler) (doc : HandlerDoc) (hk : f.kind = g.kind) :
    (ofDoc f h doc).map (Option.map entry) = (ofDoc g h doc).map (Option.map entry) := by
  simp only [ofDoc]
  split_ifs
  · rfl
  · rfl
  · cases doc.routesFor (doc.applySources h) with
    | error failure => rfl
    | ok routes => simp [Except.map, entry, hk]

lemma serving?_kind (frameworks : List Framework) (s : Go.Signature) :
    (Frameworks.serving? frameworks s).map Framework.kind =
      (frameworks.map Framework.kind).find? (·.serves s) := by
  rw [Frameworks.serving?, List.find?_map]
  rfl

lemma asks_eq (frameworks : List Framework) (d : Declaration) :
    d.offer.asks markdown (frameworks.map Framework.kind) =
      (of frameworks markdown d.package d.function).map (Option.map entry) := by
  have hserving : (Frameworks.serving? ((frameworks.map Framework.kind).map Framework.new)
      d.function.signature).map Framework.kind =
        (Frameworks.serving? frameworks d.function.signature).map Framework.kind := by
    rw [serving?_kind, serving?_kind, List.map_map, List.map_map]
    rfl
  change (of ((frameworks.map Framework.kind).map Framework.new) markdown
    ⟨d.package.importPath, d.package.name, "", []⟩ d.function).map (Option.map entry) = _
  rw [of, of]
  by_cases hmethod : d.function.hasReceiver = true
  · rw [if_pos hmethod, if_pos hmethod]
  rw [if_neg hmethod, if_neg hmethod]
  cases hf : Frameworks.serving? frameworks d.function.signature with
  | none =>
    rw [hf] at hserving
    rw [Option.map_eq_none_iff.mp hserving]
  | some f =>
    rw [hf] at hserving
    obtain ⟨g, hg, hk⟩ := Option.map_eq_some_iff.mp hserving
    rw [hg]
    simp only [hk, Handler.ofFunction]
    cases f.kind.describe d.function.signature with
    | error issue => rfl
    | ok params =>
      cases d.function.doc with
      | none => rfl
      | some lines =>
        simp only
        cases HandlerDoc.ofLines markdown lines with
        | error failure => rfl
        | ok doc => exact map_entry_ofDoc _ doc hk

end Candidate

namespace Framework

lemma bindAll_kind (f : Framework) (h : Handler) (routes : List Route) :
    (f.bindAll h routes).2.kind = f.kind := by
  induction routes generalizing f with
  | nil => rfl
  | cons r routes ih =>
    rw [bindAll]
    cases hr : f.bind r h with
    | error failure => rfl
    | ok g => exact (ih g).trans (attempt_kind (c := .bind r h) hr)

end Framework

namespace Frameworks

variable {frameworks : List Framework} {markdown : Option MarkdownDirectory} {d : Declaration}

lemma register_of_error {failure : Failure}
    (h : d.offer.asks markdown (frameworks.map Framework.kind) = .error failure) :
    register frameworks markdown d.package d.function = (.error failure, frameworks) := by
  rw [Candidate.asks_eq, except_map_eq_error_iff] at h
  rw [register, h]

lemma register_of_none
    (h : d.offer.asks markdown (frameworks.map Framework.kind) = .ok none) :
    register frameworks markdown d.package d.function = (.ok none, frameworks) := by
  rw [Candidate.asks_eq, except_map_eq_ok_iff] at h
  obtain ⟨asked, hc, hnone⟩ := h
  rw [register, hc, Option.map_eq_none_iff.mp hnone]

lemma register_of_some {e : Entry} (ho : d.isOffered = true)
    (h : d.offer.asks markdown (frameworks.map Framework.kind) = .ok (some e)) :
    ∃ f ∈ frameworks, e.kind = f.kind ∧
      register frameworks markdown d.package d.function =
        ((f.bindAll e.handler e.routes).1.map fun _ => some e.registered,
          replace frameworks (f.bindAll e.handler e.routes).2) := by
  rw [Candidate.asks_eq, except_map_eq_ok_iff] at h
  obtain ⟨asked, hc, he⟩ := h
  obtain ⟨c, rfl, rfl⟩ := Option.map_eq_some_iff.mp he
  rcases Candidate.of_eq_ok ho hc with ⟨hnone, -⟩ | ⟨f, _, hsome, hf, -⟩
  · cases hnone
  · obtain rfl := Option.some.inj hsome
    refine ⟨f, hf, rfl, ?_⟩
    rw [register, hc]
    simp only [Framework.bindAll_kind]
    rfl

lemma added_cons_of_eq {e : Entry} {kind : FrameworkKind} (h : e.kind = kind)
    (entries : List Entry) : added (e :: entries) kind = e.bindings ++ added entries kind := by
  simp [added, h]

lemma replace_settled {g : Framework} (hs : ∀ f ∈ frameworks, f.Settled) (hg : g.Settled) :
    ∀ f ∈ replace frameworks g, f.Settled := by
  intro f hf
  obtain ⟨f', hf', rfl⟩ := List.mem_map.mp hf
  split_ifs
  · exact hg
  · exact hs f' hf'

lemma registerAll_fails_or_accepts {ds : List Declaration}
    (hn : (frameworks.map Framework.kind).Nodup) (hs : ∀ f ∈ frameworks, f.Settled)
    (ho : ∀ d ∈ ds, d.isOffered = true) :
    let entries := (ds.map Declaration.offer).filterMap
      (Offer.asked? markdown (frameworks.map Framework.kind))
    ((∃ failure, (registerAll markdown frameworks ds).1 = .error failure) ∧
        ¬Offer.Acceptable markdown frameworks (ds.map Declaration.offer)) ∨
      (Offer.Acceptable markdown frameworks (ds.map Declaration.offer) ∧
        ∃ after, registerAll markdown frameworks ds = (.ok (entries.map Entry.registered), after) ∧
          tables after = extended entries frameworks ∧ ∀ f ∈ after, f.Settled) := by
  intro entries
  induction ds generalizing frameworks with
  | nil =>
    refine .inr ⟨⟨by simp, fun x hx => ?_⟩, frameworks, rfl, (extended_nil _).symm, hs⟩
    obtain ⟨f, hf, rfl⟩ := List.mem_map.mp hx
    simpa [added] using (hs f hf).compatible
  | cons d ds ih =>
    have hd := ho d List.mem_cons_self
    have hds : ∀ d' ∈ ds, d'.isOffered = true := fun d' hd' => ho d' (List.mem_cons_of_mem d hd')
    cases hask : d.offer.asks markdown (frameworks.map Framework.kind) with
    | error failure =>
      refine .inl ⟨⟨failure.locate d.place, ?_⟩, fun hall => ?_⟩
      · rw [registerAll, register_of_error hask]
      · obtain ⟨e, he⟩ := hall.sound d.offer List.mem_cons_self
        rw [hask] at he
        cases he
    | ok asked =>
      cases asked with
      | none =>
        have hentries : entries = (ds.map Declaration.offer).filterMap
            (Offer.asked? markdown (frameworks.map Framework.kind)) :=
          List.filterMap_cons_none (by rw [Offer.asked?, hask])
        rw [registerAll, register_of_none hask, List.map_cons, Offer.acceptable_cons_of_none hask,
          hentries]
        rcases ih hn hs hds with ⟨⟨failure, hfails⟩, hnot⟩ | ⟨ha, after, hrun, ht, hsettled⟩
        · refine .inl ⟨⟨failure, ?_⟩, hnot⟩
          simp only [hfails]
          rfl
        · refine .inr ⟨ha, after, ?_, ht, hsettled⟩
          simp only [hrun]
          rfl
      | some e =>
        have hentries : entries = e :: (ds.map Declaration.offer).filterMap
            (Offer.asked? markdown (frameworks.map Framework.kind)) :=
          List.filterMap_cons_some (by rw [Offer.asked?, hask])
        obtain ⟨f, hf, hkind, hregister⟩ := register_of_some hd hask
        rw [registerAll, hregister, hentries]
        rcases Framework.bindAll_fails_or_compatible (h := e.handler) (hs f hf) e.routes with
          ⟨⟨failure, hfails⟩, hnot⟩ | ⟨hok, hsettled, -⟩
        · refine .inl ⟨⟨failure.locate d.place, by rw [hfails]; rfl⟩, fun ha => hnot ?_⟩
          have hx := ha.compatible _ (List.mem_map_of_mem hf)
          rw [List.map_cons, List.filterMap_cons_some (by rw [Offer.asked?, hask]),
            added_cons_of_eq hkind, ← List.append_assoc] at hx
          exact hx.of_append
        · obtain ⟨hk, haddr, hbindings⟩ := Framework.bindAll_ok (Prod.ext hok rfl)
          have ht := replace_tables hn hf hkind hk haddr hbindings
          have hkinds := tables_kinds ht
          rw [hok, List.map_cons, Offer.acceptable_cons_of_some hask ht]
          rcases ih (hkinds ▸ hn) (replace_settled hs hsettled) hds with
            ⟨⟨failure, hfails⟩, hnot⟩ | ⟨ha, after, hrun, hafter, hall⟩
          · refine .inl ⟨⟨failure, ?_⟩, hnot⟩
            simp only [Except.map, hfails]
          · refine .inr ⟨ha, after, ?_, ?_, hall⟩
            · simp only [Except.map, hrun, hkinds]
              rfl
            · rw [hafter, hkinds]
              exact extended_cons ht

end Frameworks

end Routewright
