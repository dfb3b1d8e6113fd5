import Mathlib.Data.List.Nodup
import Routewright.Proofs.Server.Matching
import Routewright.Proofs.Server.Verification

namespace Routewright

open Go

namespace Go

mutual

def Statement.IsScoped : Statement → Prop
  | .whenEmpty _ body => (body.filterMap Statement.ownVar?).Nodup ∧ AreScoped body
  | .whenPresent _ body => (body.filterMap Statement.ownVar?).Nodup ∧ AreScoped body
  | .decode _ _ onFailure => (onFailure.filterMap Statement.ownVar?).Nodup ∧ AreScoped onFailure
  | _ => True

def AreScoped : List Statement → Prop
  | [] => True
  | s :: rest => s.IsScoped ∧ AreScoped rest

end

/-- Whether a function declares no variable again in the block in which it is declared. Parameters
belong to the block of the body. -/
def DeclaresOnce (params : List String) (body : List Statement) : Prop :=
  (params ++ body.filterMap Statement.ownVar?).Nodup ∧ AreScoped body

lemma areScoped_iff {l : List Statement} : AreScoped l ↔ ∀ s ∈ l, s.IsScoped := by
  induction l with
  | nil => simp [AreScoped]
  | cons s l ih => rw [AreScoped, ih, List.forall_mem_cons]

lemma areScoped_append {l m : List Statement} :
    AreScoped (l ++ m) ↔ AreScoped l ∧ AreScoped m := by
  simp only [areScoped_iff, List.forall_mem_append]

def Signature.names (s : Signature) : List String :=
  s.positions.filterMap Position.name

/-- Of all names, only the blank one may name several parameters of a function. -/
def Signature.HasDistinctNames (s : Signature) : Prop :=
  ∀ name, name ≠ "_" → s.names.count name ≤ 1

lemma Signature.nodup_names_iff {s : Signature} (hs : s.HasDistinctNames) :
    s.names.Nodup ↔ s.names.count "_" ≤ 1 := by
  rw [List.nodup_iff_count_le_one]
  refine ⟨fun h => h "_", fun hblank name => ?_⟩
  by_cases hname : name = "_"
  · exact hname ▸ hblank
  · exact hs name hname

end Go

lemma Shape.names_of_standsFor {positions : List Position} {params : List Param}
    (h : List.Forall₂ Position.StandsFor positions params) :
    positions.filterMap Position.name = params.map Param.name := by
  induction h with
  | nil => rfl
  | cons hp _ ih => rw [List.filterMap_cons_some hp.name_eq, ih, List.map_cons]

namespace Verifier

variable {h : Handler} {x : String}

def paramVars (h : Handler) : List String :=
  h.params.flatMap fun p => [p.rawVar, p.valueVar]

lemma ownVar?_fetch (p : Param) : (fetch p).filterMap Statement.ownVar? = [p.rawVar] := by
  rw [fetch]
  split_ifs <;> rfl

lemma ownVar?_demand (p : Param) : (demand p).filterMap Statement.ownVar? = [] := by
  rw [demand]
  split_ifs <;> rfl

lemma ownVar?_verify (package : String) (p : Param) :
    (verify package p).filterMap Statement.ownVar? = [p.rawVar, p.valueVar] := by
  rw [verify, List.filterMap_append, List.filterMap_append, List.filterMap_append, ownVar?_fetch,
    ownVar?_demand]
  rfl

lemma ownVar?_body (h : Handler) :
    (body h).filterMap Statement.ownVar? = faults :: paramVars h := by
  have hparams : (h.params.flatMap (verify h.package)).filterMap Statement.ownVar? =
      paramVars h := by
    rw [List.filterMap_flatMap, paramVars]
    exact List.flatMap_congr fun p _ => ownVar?_verify h.package p
  have hcall : [Statement.call h.callExpr (h.params.map Param.argument)].filterMap
      Statement.ownVar? = [] :=
    rfl
  have hfaults : (Statement.declare faults (.literal "")).ownVar? = some faults :=
    rfl
  rw [body, List.filterMap_cons_some hfaults, List.filterMap_append, hparams, hcall,
    List.append_nil]

-- None of the inner blocks declares a variable.
lemma areScoped_verify (package : String) (p : Param) : AreScoped (verify package p) := by
  have hfetch : AreScoped (fetch p) := by
    rw [fetch]
    split_ifs
    · exact ⟨trivial, ⟨List.nodup_nil, trivial, trivial⟩, trivial⟩
    · exact ⟨trivial, trivial⟩
  have hdemand : AreScoped (demand p) := by
    rw [demand]
    split_ifs
    · exact ⟨⟨List.nodup_nil, trivial, trivial⟩, trivial⟩
    · trivial
  have hdecode : AreScoped (decode p package) := by
    rw [decode]
    split_ifs
    · exact ⟨trivial, ⟨List.nodup_nil, trivial, trivial⟩, trivial⟩
    · exact ⟨trivial, ⟨List.nodup_nil, ⟨List.nodup_nil, trivial, trivial⟩, trivial⟩, trivial⟩
  have hstop : AreScoped stop := ⟨⟨List.nodup_nil, trivial, trivial, trivial⟩, trivial⟩
  simp only [verify, areScoped_append]
  exact ⟨⟨⟨hfetch, hdemand⟩, hdecode⟩, hstop⟩

lemma areScoped_body (h : Handler) : AreScoped (body h) := by
  have hparams : AreScoped (h.params.flatMap (verify h.package)) := by
    refine areScoped_iff.mpr fun s hs => ?_
    obtain ⟨p, -, hs⟩ := List.mem_flatMap.mp hs
    exact areScoped_iff.mp (areScoped_verify h.package p) s hs
  exact ⟨trivial, areScoped_append.mpr ⟨hparams, trivial, trivial⟩⟩

lemma not_mem_paramVars (hx : x ∈ [faults, "w", "r", "err"]) : x ∉ paramVars h := by
  have hshort : ∀ y ∈ ["w", "r"], y.length ≤ 2 := by
    decide
  have hne : ∀ p : Param, p.rawVar ≠ x ∧ p.valueVar ≠ x := by
    intro p
    rcases List.mem_cons.mp hx with rfl | hx
    · exact ⟨p.rawVar_ne_faults, p.valueVar_ne_faults⟩
    · rcases List.mem_append.mp (show x ∈ ["w", "r"] ++ ["err"] from hx) with hx | hx
      · exact ⟨p.rawVar_ne_of_length_le (hshort x hx), p.valueVar_ne_of_length_le (hshort x hx)⟩
      · rw [List.mem_singleton.mp hx]
        exact ⟨p.rawVar_ne_err, p.valueVar_ne_err⟩
  intro hmem
  obtain ⟨p, -, hp⟩ := List.mem_flatMap.mp hmem
  rcases List.mem_pair.mp hp with rfl | rfl
  · exact (hne p).1 rfl
  · exact (hne p).2 rfl

lemma disjoint_vars_iff {p q : Param} :
    List.Disjoint [p.rawVar, p.valueVar] [q.rawVar, q.valueVar] ↔ p.name ≠ q.name := by
  have hpq := p.rawVar_ne_valueVar q
  have hqp := (q.rawVar_ne_valueVar p).symm
  simp [List.disjoint_left, Param.rawVar_eq_iff, Param.valueVar_eq_iff, hpq, hqp]

lemma nodup_paramVars_iff : (paramVars h).Nodup ↔ (h.params.map Param.name).Nodup := by
  have hpair : ∀ p ∈ h.params, [p.rawVar, p.valueVar].Nodup := fun p _ => by
    simp [p.rawVar_ne_valueVar p]
  rw [paramVars, List.nodup_flatMap, and_iff_right hpair, List.Nodup, List.pairwise_map]
  exact List.Pairwise.iff fun p q => disjoint_vars_iff

lemma declaresOnce_body_iff :
    DeclaresOnce ["w", "r"] (body h) ↔ (h.params.map Param.name).Nodup := by
  have hfixed : ["w", "r", faults].Nodup := by
    decide
  have hfresh : List.Disjoint ["w", "r", faults] (paramVars h) := fun x hx =>
    not_mem_paramVars ((by decide : ["w", "r", faults] ⊆ [faults, "w", "r", "err"]) hx)
  rw [DeclaresOnce, and_iff_left (areScoped_body h), ownVar?_body, ← nodup_paramVars_iff]
  change (["w", "r", faults] ++ paramVars h).Nodup ↔ _
  rw [List.nodup_append', and_iff_right hfixed, and_iff_left hfresh]

theorem declaresOnce_of_accepts {s : Signature}
    (hs : FrameworkKind.params.accepts s = .ok ()) :
    ∃ vs, FrameworkKind.params.describe s = .ok vs ∧
      ∀ h : Handler, h.params.map Param.name = vs.map Param.name →
        (∀ x ∈ [faults, "w", "r", "err"], x ∉ paramVars h) ∧
        ((paramVars h).Nodup ↔ s.names.Nodup) ∧
        (DeclaresOnce ["w", "r"] (body h) ↔ s.names.Nodup) ∧
        (s.HasDistinctNames →
          (DeclaresOnce ["w", "r"] (body h) ↔ s.names.count "_" ≤ 1)) := by
  obtain ⟨vs, hvs, hstands, -⟩ := FrameworkKind.describe_params hs
  refine ⟨vs, hvs, fun h hnames => ?_⟩
  have hs : h.params.map Param.name = s.names :=
    hnames.trans (Shape.names_of_standsFor hstands).symm
  rw [nodup_paramVars_iff, declaresOnce_body_iff, hs]
  exact ⟨fun x => not_mem_paramVars, Iff.rfl, Iff.rfl, Signature.nodup_names_iff⟩

def oneBlank : Signature :=
  ⟨[⟨["id"], .ident "int"⟩, ⟨["_"], .ident "string"⟩]⟩

theorem declaresOnce_oneBlank : ∃ vs, FrameworkKind.params.describe oneBlank = .ok vs ∧
    DeclaresOnce ["w", "r"] (body ⟨"app/api", "api", "Get", vs⟩) := by
  obtain ⟨vs, hvs, hall⟩ := declaresOnce_of_accepts (s := oneBlank) (by decide)
  obtain ⟨-, -, -, hblank⟩ := hall ⟨"app/api", "api", "Get", vs⟩ rfl
  have hnames : oneBlank.names.Nodup := by
    decide
  exact ⟨vs, hvs, (hblank fun name _ => List.nodup_iff_count_le_one.mp hnames name).mpr (by decide)⟩

def twoBlanks : Signature :=
  ⟨[⟨["_", "_"], .ident "int"⟩]⟩

theorem twoBlanks_redeclared : FrameworkKind.params.accepts twoBlanks = .ok () ∧
    twoBlanks.HasDistinctNames ∧ ∃ vs, FrameworkKind.params.describe twoBlanks = .ok vs ∧
      ¬(paramVars ⟨"app/api", "api", "Get", vs⟩).Nodup ∧
      ¬DeclaresOnce ["w", "r"] (body ⟨"app/api", "api", "Get", vs⟩) := by
  have hblank : ¬["_", "_"].Nodup := by
    decide
  have hnames : twoBlanks.names = ["_", "_"] := by
    decide
  refine ⟨by decide, fun name hname => ?_, [⟨"_", .ident "int", true, .auto⟩,
    ⟨"_", .ident "int", true, .auto⟩], by decide, ?_, ?_⟩
  · rw [hnames, List.count_eq_zero_of_not_mem (by simp [hname])]
    exact Nat.zero_le 1
  · rwa [nodup_paramVars_iff]
  · rwa [declaresOnce_body_iff]

end Verifier

end Routewright
