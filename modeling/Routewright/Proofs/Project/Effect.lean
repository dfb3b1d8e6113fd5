import Routewright.Proofs.Doc.Interleaving
import Routewright.Proofs.Doc.Locations
import Routewright.Proofs.Doc.Refusals
import Routewright.Proofs.Project.Entry
import Routewright.Proofs.Server.Handout

namespace Routewright

open Go

namespace Framework

inductive Binds (h : Handler) : Framework → List Route → Framework → Prop
  | nil {f : Framework} : Binds h f [] f
  | cons {f next after : Framework} {r : Route} {routes : List Route} (hr : f.bind r h = .ok next)
      (hs : Binds h next routes after) : Binds h f (r :: routes) after

variable {f after : Framework} {h : Handler} {r : Route} {routes bound rest : List Route}
  {failure : Failure}

lemma bind_refusal (hr : f.bind r h = .error failure) : failure.isBinding = true := by
  rw [bind, except_map_eq_error_iff, MuxTable.claim] at hr
  split at hr
  · exact Except.error.inj hr ▸ rfl
  · split at hr
    · exact Except.error.inj hr ▸ rfl
    · cases hr

lemma Binds.kept (hb : Binds h f bound after) :
    after.kind = f.kind ∧ after.mux.addr = f.mux.addr ∧
      after.mux.defaultAddr = f.mux.defaultAddr ∧
        after.mux.bindings = f.mux.bindings ++ bound.map fun r => ⟨r, h⟩ := by
  induction hb with
  | nil => simp
  | cons hr _ ih =>
    obtain ⟨hkind, haddr, hdefault, hbindings⟩ := ih
    obtain ⟨key, -, -, rfl⟩ := bind_eq_ok_iff.mp hr
    refine ⟨hkind, haddr, hdefault, ?_⟩
    rw [hbindings]
    simp [Framework.bound, MuxTable.bound]

lemma bindAll_binds (f : Framework) (h : Handler) (routes : List Route) :
    ∃ bound, Binds h f bound (f.bindAll h routes).2 ∧
      ((f.bindAll h routes).1 = .ok () ∧ bound = routes ∨
        ∃ r rest failure, routes = bound ++ r :: rest ∧
          (f.bindAll h routes).1 = .error failure ∧
            (f.bindAll h routes).2.bind r h = .error failure) := by
  induction routes generalizing f with
  | nil => exact ⟨[], .nil, .inl ⟨rfl, rfl⟩⟩
  | cons r routes ih =>
    rw [bindAll]
    cases hr : f.bind r h with
    | error failure => exact ⟨[], .nil, .inr ⟨r, routes, failure, rfl, rfl, hr⟩⟩
    | ok next =>
      obtain ⟨bound, hbound, hend⟩ := ih next
      refine ⟨r :: bound, .cons hr hbound, ?_⟩
      rcases hend with ⟨hok, rfl⟩ | ⟨r', rest, failure, rfl, herror, hr'⟩
      · exact .inl ⟨hok, rfl⟩
      · exact .inr ⟨r', rest, failure, rfl, herror, hr'⟩

lemma Binds.longest (hb : Binds h f bound after) (hr : after.bind r h = .error failure)
    (hroutes : routes <+: bound ++ r :: rest) :
    (∃ g, Binds h f routes g) ↔ routes <+: bound := by
  induction hb generalizing routes with
  | @nil f =>
    rcases List.prefix_cons_iff.mp hroutes with rfl | ⟨routes, rfl, -⟩
    · exact ⟨fun _ => List.prefix_rfl, fun _ => ⟨f, .nil⟩⟩
    · constructor
      · rintro ⟨g, hg⟩
        cases hg with
        | cons hr' _ =>
          rw [hr] at hr'
          cases hr'
      · intro hnil
        cases List.prefix_nil.mp hnil
  | @cons f next after r' bound hr' _ ih =>
    rcases List.prefix_cons_iff.mp hroutes with rfl | ⟨routes, rfl, hrest⟩
    · exact ⟨fun _ => List.nil_prefix, fun _ => ⟨f, .nil⟩⟩
    · rw [List.prefix_cons_inj, ← ih hr hrest]
      constructor
      · rintro ⟨g, hg⟩
        cases hg with
        | cons hr'' hs =>
          obtain rfl := Except.ok.inj (hr'.symm.trans hr'')
          exact ⟨g, hs⟩
      · rintro ⟨g, hg⟩
        exact ⟨g, .cons hr' hg⟩

end Framework

/-- The routes of a function as `HandlerDoc.routesFor` gives them: there is no list of them when the
function has no doc comment, or one that cannot be read or declares no route. -/
def Go.FuncDecl.routes? (markdown : Option MarkdownDirectory) (p : Package) (f : FuncDecl) :
    Option (List Route) :=
  match f.doc with
  | none => none
  | some lines =>
    match HandlerDoc.ofLines markdown lines with
    | .error _ => none
    | .ok doc => (doc.routesFor (.ofFunction p f [])).toOption

/-- The handler that a framework makes of a function with a doc comment. The value of a parameter is
read where the last line says that declares a source for it. -/
def Go.FuncDecl.handler? (p : Package) (kind : FrameworkKind) (f : FuncDecl) : Option Handler :=
  match f.doc, kind.describe f.signature with
  | some lines, .ok params =>
    some ⟨p.importPath, p.name, f.name, params.map fun v =>
      { v with source := ((HandlerDoc.sourcesFor v.name lines).getLast?).getD v.source }⟩
  | _, _ => none

structure Framework.Effect (markdown : Option MarkdownDirectory) (p : Package) (f : FuncDecl)
    (g after : Framework) (outcome : Except Failure (Option Registered)) (bound : List Route) :
    Prop where
  kind_eq : after.kind = g.kind
  addr_eq : after.mux.addr = g.mux.addr
  defaultAddr_eq : after.mux.defaultAddr = g.mux.defaultAddr
  bindings_eq : ∃ h, (bound ≠ [] → f.handler? p g.kind = some h) ∧
    after.mux.bindings = g.mux.bindings ++ bound.map fun r => ⟨r, h⟩
  bound_le : bound <+: (f.routes? markdown p).getD []
  inOrder : ∀ lines ∈ f.doc, ∀ routes ∈ f.routes? markdown p,
    HandlerDoc.RoutesInOrder markdown lines routes
  registered_iff : (∃ report, outcome = .ok (some report)) ↔ f.routes? markdown p = some bound
  report_eq : ∀ report, outcome = .ok (some report) →
    report = ⟨g.kind, p.importPath ++ "." ++ f.name, bound⟩
  unbound : (outcome = .ok none ∨ ∃ failure, outcome = .error failure ∧
    failure.isBinding = false) → bound = [] ∧ after = g
  /-- A route that cannot be bound leaves the longest list of routes that can be. -/
  longest : ∀ failure, outcome = .error failure → failure.isBinding = true →
    ∃ h r rest, f.handler? p g.kind = some h ∧
      f.routes? markdown p = some (bound ++ r :: rest) ∧ after.bind r h = .error failure ∧
        ∀ routes, routes <+: bound ++ r :: rest →
          ((∃ g', g.Binds h routes g') ↔ routes <+: bound)

section Function

variable {markdown : Option MarkdownDirectory} {p : Package} {f : FuncDecl}

lemma Go.FuncDecl.routes?_eq_some_iff {routes : List Route} :
    f.routes? markdown p = some routes ↔ routes ≠ [] ∧
      ∃ lines doc, f.doc = some lines ∧ HandlerDoc.ofLines markdown lines = .ok doc ∧
        doc.routes = routes := by
  unfold routes?
  cases f.doc with
  | none => simp
  | some lines =>
    cases hdoc : HandlerDoc.ofLines markdown lines with
    | error failure => simp [hdoc]
    | ok doc =>
      simp only [hdoc, HandlerDoc.routesFor]
      constructor
      · intro h
        split_ifs at h with hempty
        · cases h
        · obtain rfl := Option.some.inj h
          exact ⟨by simpa using hempty, lines, doc, rfl, hdoc, rfl⟩
      · rintro ⟨hne, lines', doc', hlines, hdoc', rfl⟩
        obtain rfl := Option.some.inj hlines
        obtain rfl := Except.ok.inj (hdoc.symm.trans hdoc')
        rw [if_neg (by simpa using hne)]
        rfl

lemma Go.FuncDecl.routes?_inOrder : ∀ lines ∈ f.doc, ∀ routes ∈ f.routes? markdown p,
    HandlerDoc.RoutesInOrder markdown lines routes := by
  intro lines hlines routes hroutes
  obtain ⟨-, lines', doc, hlines', hdoc, rfl⟩ := routes?_eq_some_iff.mp hroutes
  obtain rfl := Option.some.inj (hlines.symm.trans hlines')
  exact HandlerDoc.routes_inOrder hdoc

namespace Framework.Effect

lemma of_unbound {g : Framework} {outcome : Except Failure (Option Registered)}
    (h : outcome = .ok none ∨ ∃ failure, outcome = .error failure ∧ failure.isBinding = false) :
    g.Effect markdown p f g outcome [] where
  kind_eq := rfl
  addr_eq := rfl
  defaultAddr_eq := rfl
  bindings_eq := ⟨.ofFunction p f [], by simp, by simp⟩
  bound_le := List.nil_prefix
  inOrder := FuncDecl.routes?_inOrder
  registered_iff := by
    constructor
    · rintro ⟨report, rfl⟩
      rcases h with h | ⟨failure, h, -⟩ <;> cases h
    · intro hroutes
      exact absurd rfl (FuncDecl.routes?_eq_some_iff.mp hroutes).1
  report_eq := by
    rintro report rfl
    rcases h with h | ⟨failure, h, -⟩ <;> cases h
  unbound := fun _ => ⟨rfl, rfl⟩
  longest := by
    rintro failure rfl hbinding
    rcases h with h | ⟨failure', h, hnot⟩
    · cases h
    · obtain rfl := Except.error.inj h
      rw [hnot] at hbinding
      cases hbinding

section Bound

variable {g after : Framework} {h : Handler} {r : Route} {routes bound rest : List Route}
  {failure : Failure}

lemma of_bound (hh : f.handler? p g.kind = some h)
    (hname : h.qualifiedName = p.importPath ++ "." ++ f.name)
    (hroutes : f.routes? markdown p = some routes) (hbound : g.Binds h routes after) :
    g.Effect markdown p f after (.ok (some ⟨g.kind, h.qualifiedName, routes⟩)) routes where
  kind_eq := hbound.kept.1
  addr_eq := hbound.kept.2.1
  defaultAddr_eq := hbound.kept.2.2.1
  bindings_eq := ⟨h, fun _ => hh, hbound.kept.2.2.2⟩
  bound_le := by
    rw [hroutes]
    exact List.prefix_rfl
  inOrder := FuncDecl.routes?_inOrder
  registered_iff := ⟨fun _ => hroutes, fun _ => ⟨_, rfl⟩⟩
  report_eq := by
    intro report hreport
    obtain rfl := Option.some.inj (Except.ok.inj hreport)
    rw [hname]
  unbound := by
    rintro (hnone | ⟨failure, hfailure, -⟩)
    · cases hnone
    · cases hfailure
  longest := by
    intro failure hfailure
    cases hfailure

lemma of_stopped (hh : f.handler? p g.kind = some h)
    (hroutes : f.routes? markdown p = some (bound ++ r :: rest)) (hbound : g.Binds h bound after)
    (hr : after.bind r h = .error failure) :
    g.Effect markdown p f after (.error failure) bound where
  kind_eq := hbound.kept.1
  addr_eq := hbound.kept.2.1
  defaultAddr_eq := hbound.kept.2.2.1
  bindings_eq := ⟨h, fun _ => hh, hbound.kept.2.2.2⟩
  bound_le := by
    rw [hroutes]
    exact List.prefix_append bound (r :: rest)
  inOrder := FuncDecl.routes?_inOrder
  registered_iff := by
    constructor
    · rintro ⟨report, hreport⟩
      cases hreport
    · intro hall
      rw [hroutes, Option.some.injEq] at hall
      simp at hall
  report_eq := by
    intro report hreport
    cases hreport
  unbound := by
    rintro (hnone | ⟨failure', hfailure, hnot⟩)
    · cases hnone
    · obtain rfl := Except.error.inj hfailure
      rw [bind_refusal hr] at hnot
      cases hnot
  longest := by
    intro failure' hfailure _
    obtain rfl := Except.error.inj hfailure
    exact ⟨h, r, rest, hh, hroutes, hr, fun _ => hbound.longest hr⟩

lemma of_bindAll (hh : f.handler? p g.kind = some h)
    (hname : h.qualifiedName = p.importPath ++ "." ++ f.name)
    (hroutes : f.routes? markdown p = some routes) :
    ∃ bound, g.Effect markdown p f (g.bindAll h routes).2
      ((g.bindAll h routes).1.map fun _ => some ⟨g.kind, h.qualifiedName, routes⟩) bound := by
  obtain ⟨bound, hbound, ⟨hok, rfl⟩ | ⟨r, rest, failure, rfl, herror, hr⟩⟩ :=
    g.bindAll_binds h routes
  · rw [hok]
    exact ⟨bound, of_bound hh hname hroutes hbound⟩
  · rw [herror]
    exact ⟨bound, of_stopped hh hroutes hbound hr⟩

end Bound

end Framework.Effect

namespace Candidate

variable {frameworks : List Framework} {g : Framework}

lemma ofDoc_refusal {h : Handler} {doc : HandlerDoc} {failure : Failure}
    (ha : ofDoc g h doc = .error failure) : failure.isBinding = false := by
  unfold ofDoc at ha
  split_ifs at ha
  · exact Except.error.inj ha ▸ rfl
  · rw [except_map_eq_error_iff, HandlerDoc.routesFor] at ha
    split_ifs at ha
    exact Except.error.inj ha ▸ rfl

lemma of_refusal {failure : Failure} (ha : of frameworks markdown p f = .error failure) :
    failure.isBinding = false := by
  unfold of at ha
  split_ifs at ha
  repeat' split at ha
  · cases ha
  · exact Except.error.inj ha ▸ rfl
  · exact Except.error.inj ha ▸ rfl
  · rename_i hdoc
    exact Except.error.inj ha ▸ HandlerDoc.ofLines_refusal hdoc
  · exact ofDoc_refusal ha

lemma of_unserved (hs : Frameworks.serving? frameworks f.signature = none) :
    of frameworks markdown p f = .ok none := by
  rw [of, hs]
  simp

lemma of_eq_some {c : Candidate} (hs : Frameworks.serving? frameworks f.signature = some g)
    (ha : of frameworks markdown p f = .ok (some c)) :
    c.framework = g ∧ f.handler? p g.kind = some c.handler ∧
      f.routes? markdown p = some c.routes ∧
        c.handler.qualifiedName = p.importPath ++ "." ++ f.name := by
  rw [of, hs] at ha
  split_ifs at ha
  · cases ha
  dsimp only at ha
  cases hp : g.kind.describe f.signature with
  | error issue => simp [hp] at ha
  | ok params =>
    cases hl : f.doc with
    | none => simp [hp, hl] at ha
    | some lines =>
      cases hd : HandlerDoc.ofLines markdown lines with
      | error failure => simp [hp, hl, hd] at ha
      | ok doc =>
        simp only [hp, hl, hd] at ha
        rcases ofDoc_eq_ok ha with ⟨-, hnone⟩ | ⟨-, hne, hsome⟩
        · cases hnone
        · obtain rfl := Option.some.inj hsome
          refine ⟨rfl, ?_, FuncDecl.routes?_eq_some_iff.mpr ⟨hne, lines, doc, hl, hd, rfl⟩, rfl⟩
          simp only [FuncDecl.handler?, hl, hp, HandlerDoc.applySources_eq hd,
            Handler.ofFunction]

end Candidate

end Function

namespace Frameworks

lemma replace_append_cons {before rest : List Framework} {g after : Framework}
    (hn : ((before ++ g :: rest).map Framework.kind).Nodup) (hk : after.kind = g.kind) :
    replace (before ++ g :: rest) after = before ++ after :: rest := by
  induction before with
  | nil => exact replace_cons_of_eq hn hk
  | cons x before ih =>
    obtain ⟨hnew, hn⟩ := List.nodup_cons.mp hn
    have hne : x.kind ≠ after.kind := by
      intro hx
      refine hnew ?_
      rw [hx, hk]
      exact List.mem_map_of_mem (by simp)
    rw [List.cons_append, replace_cons_of_ne hne, ih hn, List.cons_append]

theorem register_effect {frameworks : List Framework} (hb : Built frameworks)
    (markdown : Option MarkdownDirectory) (p : Package) (f : FuncDecl) :
    let result := register frameworks markdown p f
    ((∀ g ∈ frameworks, g.kind.serves f.signature = false) ∧ result = (.ok none, frameworks)) ∨
      ∃ before g rest after bound, frameworks = before ++ g :: rest ∧
        (∀ x ∈ before, x.kind.serves f.signature = false) ∧
        g.kind.serves f.signature = true ∧ result.2 = before ++ after :: rest ∧
          g.Effect markdown p f after result.1 bound := by
  intro result
  cases hs : serving? frameworks f.signature with
  | none =>
    refine .inl ⟨by simpa [serving?] using hs, ?_⟩
    change register frameworks markdown p f = _
    rw [register, Candidate.of_unserved hs]
  | some g =>
    obtain ⟨hserves, before, rest, rfl, hbefore⟩ := List.find?_eq_some_iff_append.mp hs
    have hbefore : ∀ x ∈ before, x.kind.serves f.signature = false := by
      simpa using hbefore
    refine .inr ⟨before, g, rest, ?_⟩
    cases hc : Candidate.of (before ++ g :: rest) markdown p f with
    | error failure =>
      have hresult : result = (.error failure, before ++ g :: rest) := by
        change register _ markdown p f = _
        rw [register, hc]
      refine ⟨g, [], rfl, hbefore, hserves, by rw [hresult], ?_⟩
      rw [hresult]
      exact .of_unbound (.inr ⟨failure, rfl, Candidate.of_refusal hc⟩)
    | ok asked =>
      cases asked with
      | none =>
        have hresult : result = (.ok none, before ++ g :: rest) := by
          change register _ markdown p f = _
          rw [register, hc]
        refine ⟨g, [], rfl, hbefore, hserves, by rw [hresult], ?_⟩
        rw [hresult]
        exact .of_unbound (.inl rfl)
      | some c =>
        obtain ⟨hframework, hhandler, hroutes, hname⟩ := Candidate.of_eq_some hs hc
        obtain ⟨bound, heffect⟩ := Framework.Effect.of_bindAll hhandler hname hroutes
        have hresult : result =
            ((g.bindAll c.handler c.routes).1.map fun _ =>
                some ⟨g.kind, c.handler.qualifiedName, c.routes⟩,
              replace (before ++ g :: rest) (g.bindAll c.handler c.routes).2) := by
          change register _ markdown p f = _
          rw [register, hc]
          simp only [hframework, heffect.kind_eq]
        refine ⟨(g.bindAll c.handler c.routes).2, bound, rfl, hbefore, hserves, ?_, ?_⟩
        · rw [hresult]
          exact replace_append_cons hb.kinds_nodup heffect.kind_eq
        · rw [hresult]
          exact heffect

theorem register_effect_stopped :
    let p : Package := ⟨"app/api", "api", "app/api", []⟩
    let f : FuncDecl := ⟨"Get", false,
      some ["@Param id header int true \"first\"", "@Param id query int true \"last\"",
        "@path(\"GET\", \"/\x7bid\x7d\")", "@path(\"GET\", \"/\x7bkey\x7d\")",
        "@path(\"GET\", \"/all\")"], ⟨[⟨["id"], .ident "int"⟩]⟩, [], 5⟩
    let result := register [.new .http, .new .params] none p f
    result.1 = .error (.duplicateRoute "/\x7bkey\x7d" "app/api.Get" "app/api.Get") ∧
      ∃ after, result.2 = [.new .http, after] ∧
        (Framework.new .params).Effect none p f after result.1 [⟨.get, "/\x7bid\x7d"⟩] ∧
        after.mux.bindings = [⟨⟨.get, "/\x7bid\x7d"⟩,
          ⟨"app/api", "api", "Get", [⟨"id", .ident "int", true, .query⟩]⟩⟩] := by
  intro p f result
  have hb : Built [.new .http, .new .params] := @Built.fresh ["http", "params"] _ rfl
  obtain ⟨houtcome, hroutes⟩ := Prod.mk.inj (show
      (result.1, result.2.map fun g => g.mux.bindings.map Binding.route) =
        (.error (.duplicateRoute "/\x7bkey\x7d" "app/api.Get" "app/api.Get"),
          [[], [⟨.get, "/\x7bid\x7d"⟩]]) by
    decide +kernel)
  have hhandler : f.handler? p .params =
      some ⟨"app/api", "api", "Get", [⟨"id", .ident "int", true, .query⟩]⟩ := by
    decide +kernel
  refine ⟨houtcome, ?_⟩
  rcases register_effect hb none p f with
    ⟨hunserved, -⟩ | ⟨before, g, rest, after, bound, hframeworks, -, hserves, hresult, heffect⟩
  · exact absurd (hunserved (.new .params) (by simp)) (by decide +kernel)
  · obtain ⟨rfl, rfl, rfl⟩ : before = [.new .http] ∧ g = .new .params ∧ rest = [] := by
      cases before with
      | nil =>
        obtain ⟨rfl, -⟩ := List.cons.inj hframeworks
        exact absurd hserves (by decide +kernel)
      | cons x before =>
        cases before with
        | nil => simpa [eq_comm] using hframeworks
        | cons y before => simp at hframeworks
    have hafter : result.2 = [.new .http, after] := hresult
    obtain ⟨h, hmade, hbindings⟩ := heffect.bindings_eq
    have hbound : bound = [⟨.get, "/\x7bid\x7d"⟩] := by
      rw [hafter] at hroutes
      simpa [hbindings, Framework.new] using hroutes
    have hh := hmade (by simp [hbound])
    rw [show (Framework.new .params).kind = .params from rfl, hhandler] at hh
    refine ⟨after, hafter, hbound ▸ heffect, ?_⟩
    rw [hbindings, hbound, ← Option.some.inj hh]
    rfl

end Frameworks

end Routewright
