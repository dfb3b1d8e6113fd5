import Routewright.Proofs.Except
import Routewright.Proofs.Go.Identifier
import Routewright.Server.Framework

namespace Routewright

open Go Text

inductive Nameable : TypeExpr → Prop
  | ident {name : String} (h : isPredeclared name = true ∨ isExported name = true) :
      Nameable (.ident name)
  | pointer {name : String} (h : isPredeclared name = true ∨ isExported name = true) :
      Nameable (.pointer (.ident name))

structure Go.Position.StandsFor (p : Position) (v : Param) : Prop where
  name_eq : p.name = some v.name
  type_eq : v.type = p.type
  nameable : Nameable p.type
  required_eq : v.required = !p.type.isPointer
  source_eq : v.source = .auto

/-- A name without package, possibly behind one pointer. -/
def Go.TypeExpr.Names (t : TypeExpr) (name : String) : Prop :=
  t = .ident name ∨ t = .pointer (.ident name)

/-- Two named parameters, the types of which are called as those of a plain request handler are but
belong to the package of the function. -/
def Go.Signature.IsLocalRequest (s : Signature) : Prop :=
  ∃ w r t u, s.positions = [⟨some w, t⟩, ⟨some r, u⟩] ∧
    t.Names "ResponseWriter" ∧ u.Names "Request"

namespace Shape

variable {p : Position} {positions : List Position} {i : ℕ} {v : Param} {params : List Param}
  {t : TypeExpr} {name : String}

lemma isVisible_iff : isVisible name = true ↔ isPredeclared name = true ∨ isExported name = true :=
  Bool.or_eq_true_iff

lemma exists_names_of_isPlain (h : isPlain t = true) : ∃ name, t.Names name := by
  cases t with
  | ident name => exact ⟨name, .inl rfl⟩
  | pointer target =>
    cases target with
    | ident name => exact ⟨name, .inr rfl⟩
    | _ => cases h
  | _ => cases h

lemma simpleName?_of_names (h : t.Names name) : t.simpleName? = some name := by
  rcases h with rfl | rfl <;> rfl

lemma isPlain_of_names (h : t.Names name) : isPlain t = true := by
  rcases h with rfl | rfl <;> rfl

lemma nameable_iff_of_names (h : t.Names name) : Nameable t ↔ isVisible name = true := by
  rw [isVisible_iff]
  rcases h with rfl | rfl
  · exact ⟨fun | .ident h => h, .ident⟩
  · exact ⟨fun | .pointer h => h, .pointer⟩

lemma exists_names_of_nameable (h : Nameable t) : ∃ name, t.Names name := by
  cases h with
  | ident => exact ⟨_, .inl rfl⟩
  | pointer => exact ⟨_, .inr rfl⟩

lemma param_of_names (h : t.Names name) (pname : String) : param i ⟨some pname, t⟩ =
    if isVisible name then .ok ⟨pname, t, !t.isPointer, .auto⟩
    else .error (.hiddenParam i pname name) := by
  cases hvisible : isVisible name <;>
    simp [param, isPlain_of_names h, simpleName?_of_names h, Option.filter, hvisible]

lemma standsFor_of_param (h : param i p = .ok v) : p.StandsFor v := by
  obtain ⟨pname, type⟩ := p
  cases pname with
  | none => cases h
  | some pname =>
    by_cases hplain : isPlain type = true
    · obtain ⟨name, hname⟩ := exists_names_of_isPlain hplain
      rw [param_of_names hname] at h
      split_ifs at h with hvisible
      obtain rfl := Except.ok.inj h
      exact ⟨rfl, rfl, (nameable_iff_of_names hname).mpr hvisible, rfl, rfl⟩
    · simp [param, hplain] at h

lemma param_of_standsFor (h : p.StandsFor v) : param i p = .ok v := by
  obtain ⟨pname, type⟩ := p
  obtain ⟨vname, vtype, required, source⟩ := v
  obtain ⟨rfl, rfl, hnameable, hrequired, hsource⟩ := h
  obtain rfl : required = !vtype.isPointer := hrequired
  obtain rfl : source = .auto := hsource
  obtain ⟨name, hname⟩ := exists_names_of_nameable hnameable
  rw [param_of_names hname, if_pos ((nameable_iff_of_names hname).mp hnameable)]

lemma param_eq_ok_iff : param i p = .ok v ↔ p.StandsFor v :=
  ⟨standsFor_of_param, param_of_standsFor⟩

lemma paramsFrom_eq_ok_iff :
    paramsFrom i positions = .ok params ↔ List.Forall₂ Position.StandsFor positions params := by
  induction positions generalizing i params with
  | nil => cases params <;> simp [paramsFrom]
  | cons p positions ih =>
    rw [paramsFrom]
    split
    · rename_i issue hp
      refine iff_of_false (fun h => by cases h) ?_
      rintro (_ | ⟨hv, -⟩)
      rw [← param_eq_ok_iff (i := i), hp] at hv
      cases hv
    · rename_i v hp
      rw [except_map_eq_ok_iff]
      constructor
      · rintro ⟨rest, hrest, rfl⟩
        exact .cons (param_eq_ok_iff.mp hp) (ih.mp hrest)
      · rintro (_ | ⟨hv, hrest⟩)
        rw [← param_eq_ok_iff (i := i), hp] at hv
        obtain rfl := Except.ok.inj hv
        exact ⟨_, ih.mpr hrest, rfl⟩

lemma checkNames_eq_ok_iff {names : List String} : checkNames i names positions = .ok () ↔
    ∀ x ∈ names.zip positions, x.2.type.simpleName? = some x.1 := by
  induction names generalizing i positions with
  | nil => simp [checkNames]
  | cons name names ih =>
    cases positions with
    | nil => simp [checkNames]
    | cons p positions =>
      rw [checkNames, List.zip_cons_cons, List.forall_mem_cons]
      split_ifs with hp
      · exact ih.trans (and_iff_right hp).symm
      · exact iff_of_false (fun h => by cases h) fun h => hp h.1

lemma names_of_nameable (h : Nameable t) (hname : t.simpleName? = some name) : t.Names name := by
  obtain ⟨name', hname'⟩ := exists_names_of_nameable h
  obtain rfl : name' = name := Option.some.inj ((simpleName?_of_names hname').symm.trans hname)
  exact hname'

end Shape

namespace FrameworkKind

variable {kind : FrameworkKind} {s : Signature}

lemma serves_iff : kind.serves s = true ↔ kind.accepts s = .ok () := by
  rw [serves]
  cases kind.accepts s <;> simp [Except.toBool]

lemma accepts_http_iff : http.accepts s = .ok () ↔ ∃ p q, s.positions = [p, q] ∧
    p.type.simpleName? = some "ResponseWriter" ∧ q.type.simpleName? = some "Request" := by
  have hnames : ∀ p q : Position, Shape.checkNames 0 Shape.requestTypes [p, q] = .ok () ↔
      p.type.simpleName? = some "ResponseWriter" ∧ q.type.simpleName? = some "Request" := by
    simp [Shape.checkNames_eq_ok_iff, Shape.requestTypes]
  rw [accepts]
  constructor
  · intro h
    split_ifs at h with hlength
    obtain ⟨p, q, hpositions⟩ := List.length_eq_two.mp hlength
    rw [hpositions, hnames] at h
    exact ⟨p, q, hpositions, h⟩
  · rintro ⟨p, q, hpositions, h⟩
    have hlength : [p, q].length = Shape.requestTypes.length := rfl
    rw [hpositions, if_pos hlength, hnames]
    exact h

lemma accepts_params_iff : params.accepts s = .ok () ↔
    1 ≤ s.arity ∧ ∃ params, List.Forall₂ Position.StandsFor s.positions params := by
  rw [accepts]
  split_ifs with harity
  · exact iff_of_false (fun h => by cases h) fun h => by omega
  · simp only [except_map_eq_ok_iff, Shape.params, Shape.paramsFrom_eq_ok_iff, and_true]
    exact ⟨fun h => ⟨by omega, h⟩, And.right⟩

lemma exists_describe (h : kind.accepts s = .ok ()) : ∃ params, kind.describe s = .ok params := by
  cases kind with
  | http => exact ⟨[], rfl⟩
  | params =>
    obtain ⟨-, params, hparams⟩ := accepts_params_iff.mp h
    exact ⟨params, Shape.paramsFrom_eq_ok_iff.mpr hparams⟩

lemma describe_params (h : params.accepts s = .ok ()) :
    ∃ vs, params.describe s = .ok vs ∧ List.Forall₂ Position.StandsFor s.positions vs ∧
      vs.length = s.arity := by
  obtain ⟨-, vs, hvs⟩ := accepts_params_iff.mp h
  exact ⟨vs, Shape.paramsFrom_eq_ok_iff.mpr hvs, hvs,
    hvs.length_eq.symm.trans s.length_positions⟩

lemma nameable_of_names {t : TypeExpr} {name : String} (h : t.Names name)
    (hname : name ∈ Shape.requestTypes) : Nameable t := by
  have hvisible : ∀ name ∈ Shape.requestTypes, Shape.isVisible name = true := by
    decide
  exact (Shape.nameable_iff_of_names h).mpr (hvisible name hname)

lemma accepts_both_iff :
    http.accepts s = .ok () ∧ params.accepts s = .ok () ↔ s.IsLocalRequest := by
  constructor
  · rintro ⟨hhttp, hparams⟩
    obtain ⟨p, q, hpositions, hp, hq⟩ := accepts_http_iff.mp hhttp
    obtain ⟨-, vs, hvs⟩ := accepts_params_iff.mp hparams
    rw [hpositions] at hvs
    obtain ⟨v, us, hv, hus, -⟩ := List.forall₂_cons_left_iff.mp hvs
    obtain ⟨u, -, hu, -⟩ := List.forall₂_cons_left_iff.mp hus
    refine ⟨v.name, u.name, p.type, q.type, ?_, Shape.names_of_nameable hv.nameable hp,
      Shape.names_of_nameable hu.nameable hq⟩
    rw [hpositions, ← hv.name_eq, ← hu.name_eq]
  · rintro ⟨w, r, t, u, hpositions, ht, hu⟩
    refine ⟨accepts_http_iff.mpr ⟨_, _, hpositions, Shape.simpleName?_of_names ht,
      Shape.simpleName?_of_names hu⟩, accepts_params_iff.mpr ⟨?_, ?_⟩⟩
    · rw [← s.length_positions, hpositions]
      exact Nat.le_add_left 1 1
    · rw [hpositions]
      exact ⟨[⟨w, t, !t.isPointer, .auto⟩, ⟨r, u, !u.isPointer, .auto⟩],
        .cons ⟨rfl, rfl, nameable_of_names ht (by decide), rfl, rfl⟩
          (.cons ⟨rfl, rfl, nameable_of_names hu (by decide), rfl, rfl⟩ .nil)⟩

end FrameworkKind

namespace Frameworks

variable {f g : Framework} {s : Signature}

-- Of two frameworks, the order chooses only where both would serve.
lemma serving?_ne_swap_iff (hfg : f ≠ g) : serving? [f, g] s ≠ serving? [g, f] s ↔
    f.kind.serves s = true ∧ g.kind.serves s = true := by
  cases hf : f.kind.serves s <;> cases hg : g.kind.serves s <;>
    simp [serving?, List.find?, hf, hg, hfg]

theorem serving?_depends_on_order (hf : f.kind = .http) (hg : g.kind = .params) (s : Signature) :
    (∀ kind : FrameworkKind, kind.accepts s = .ok () → ∃ vs, kind.describe s = .ok vs) ∧
      (FrameworkKind.params.accepts s = .ok () →
        ∃ vs, FrameworkKind.params.describe s = .ok vs ∧
          List.Forall₂ Position.StandsFor s.positions vs ∧ vs.length = s.arity ∧
            1 ≤ s.arity ∧ s.arity = s.positions.length) ∧
      (serving? [f, g] s ≠ serving? [g, f] s ↔ s.IsLocalRequest) := by
  refine ⟨fun kind => FrameworkKind.exists_describe, fun h => ?_, ?_⟩
  · obtain ⟨vs, hvs, hall, hlength⟩ := FrameworkKind.describe_params h
    exact ⟨vs, hvs, hall, hlength, (FrameworkKind.accepts_params_iff.mp h).1,
      s.length_positions.symm⟩
  · have hfg : f ≠ g := by
      rintro rfl
      rw [hf] at hg
      cases hg
    rw [serving?_ne_swap_iff hfg, hf, hg, FrameworkKind.serves_iff, FrameworkKind.serves_iff,
      FrameworkKind.accepts_both_iff]

def localRequest : Signature :=
  ⟨[⟨["w"], .ident "ResponseWriter"⟩, ⟨["r"], .pointer (.ident "Request")⟩]⟩

theorem serving?_localRequest :
    serving? [.new .http, .new .params] localRequest ≠
        serving? [.new .params, .new .http] localRequest ∧
      ∃ vs, FrameworkKind.params.describe localRequest = .ok vs ∧ vs.length = 2 := by
  obtain ⟨-, hparams, horder⟩ :=
    serving?_depends_on_order (f := .new .http) (g := .new .params) rfl rfl localRequest
  refine ⟨horder.mpr ⟨"w", "r", _, _, rfl, .inl rfl, .inr rfl⟩, ?_⟩
  obtain ⟨vs, hvs, -, hlength, -⟩ := hparams (by decide)
  exact ⟨vs, hvs, hlength⟩

end Frameworks

end Routewright
