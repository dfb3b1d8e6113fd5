import Mathlib.Data.List.Forall2
import Mathlib.Data.List.ReduceOption
import Mathlib.Tactic.Lemma
import Routewright.Doc.Comment
import Routewright.Proofs.Except

namespace Routewright

open Text

namespace Change

def route? : Change → Option Route
  | route r => some r
  | _ => none

def param? : Change → Option OperationParam
  | param p => some p
  | _ => none

end Change

namespace Operation

variable {op : Operation}

def applyAll (op : Operation) (changes : List (Option Change)) : Operation :=
  changes.reduceOption.foldl apply op

lemma applyAll_append (cs cs' : List (Option Change)) :
    op.applyAll (cs ++ cs') = (op.applyAll cs).applyAll cs' := by
  rw [applyAll, List.reduceOption_append, List.foldl_append]
  rfl

lemma apply_routes (c : Change) : (op.apply c).routes = op.routes ++ c.route?.toList := by
  cases c with
  | header codes name header => cases codes <;> simp [apply, Change.route?]
  | _ => simp [apply, Change.route?]

lemma apply_params (c : Change) : (op.apply c).params = op.params ++ c.param?.toList := by
  cases c with
  | header codes name header => cases codes <;> simp [apply, Change.param?]
  | _ => simp [apply, Change.param?]

lemma applyAll_routes (cs : List (Option Change)) :
    (op.applyAll cs).routes = op.routes ++ cs.reduceOption.filterMap Change.route? := by
  rw [applyAll]
  induction cs.reduceOption generalizing op with
  | nil => simp
  | cons c cs ih =>
    rw [List.foldl_cons, ih, apply_routes, List.append_assoc, List.filterMap_cons]
    cases c.route? <;> rfl

lemma applyAll_params (cs : List (Option Change)) :
    (op.applyAll cs).params = op.params ++ cs.reduceOption.filterMap Change.param? := by
  rw [applyAll]
  induction cs.reduceOption generalizing op with
  | nil => simp
  | cons c cs ih =>
    rw [List.foldl_cons, ih, apply_params, List.append_assoc, List.filterMap_cons]
    cases c.param? <;> rfl

end Operation

namespace HandlerDoc

def isDecoratorLine (line : String) : Bool :=
  Decorator.isLine (trimmed line).toList

def decoratorLines (lines : List String) : List String :=
  lines.filter isDecoratorLine

def attributeLines (lines : List String) : List String :=
  lines.filter (!isDecoratorLine ·)

def Draft.extended (draft : Draft) (dss : List (List Decorator)) (changes : List (Option Change)) :
    Draft where
  recognized := draft.recognized || dss.any (!·.isEmpty) || changes.any (·.any Change.recognized)
  decorators := draft.decorators ++ dss.flatten
  operation := draft.operation.applyAll changes

section Lines

variable {markdown : Option MarkdownDirectory} {line : String} {lines : List String}
  {draft after : Draft}

@[simp]
lemma Draft.extended_nil (draft : Draft) : draft.extended [] [] = draft := by
  simp [extended, Operation.applyAll]

lemma Draft.extended_extended (draft : Draft) (dss dss' : List (List Decorator))
    (cs cs' : List (Option Change)) :
    (draft.extended dss cs).extended dss' cs' = draft.extended (dss ++ dss') (cs ++ cs') := by
  simp only [extended, List.any_append, List.flatten_append, List.append_assoc,
    Operation.applyAll_append, Draft.mk.injEq, and_self, and_true]
  ac_rfl

lemma readLine_of_isDecoratorLine (hline : isDecoratorLine line = true) :
    readLine markdown draft line = .ok after ↔
      ∃ ds, Decorator.ofLine (trimmed line) = .ok ds ∧ after = draft.extended [ds] [] := by
  unfold readLine
  dsimp only
  rw [if_pos (show Decorator.isLine (trimmed line).toList = true from hline)]
  cases hds : Decorator.ofLine (trimmed line) with
  | error issue => simp
  | ok ds => simp [Draft.extended, Operation.applyAll, eq_comm (b := after)]

lemma readLine_of_not_isDecoratorLine (hline : isDecoratorLine line = false) :
    readLine markdown draft line = .ok after ↔
      ∃ change, Attribute.ofLine markdown (trimmed line) = .ok change ∧
        after = draft.extended [] [change] := by
  have hnot : ¬Decorator.isLine (trimmed line).toList = true := by
    rw [← isDecoratorLine, hline]
    simp
  unfold readLine Operation.readLine
  dsimp only
  rw [if_neg hnot]
  cases hchange : Attribute.ofLine markdown (trimmed line) with
  | error failure => simp
  | ok change =>
    cases change <;> simp [Draft.extended, Operation.applyAll, eq_comm (b := after)]

lemma foldlM_eq_ok_iff : lines.foldlM (readLine markdown) draft = .ok after ↔
    ∃ dss changes,
      List.Forall₂ (fun l ds => Decorator.ofLine (trimmed l) = .ok ds) (decoratorLines lines) dss ∧
      List.Forall₂ (fun l change => Attribute.ofLine markdown (trimmed l) = .ok change)
        (attributeLines lines) changes ∧ after = draft.extended dss changes := by
  induction lines generalizing draft with
  | nil =>
    constructor
    · intro h
      obtain rfl := Except.ok.inj h
      exact ⟨[], [], .nil, .nil, draft.extended_nil.symm⟩
    · rintro ⟨dss, changes, hdss, hchanges, rfl⟩
      cases hdss
      cases hchanges
      rw [Draft.extended_nil]
      rfl
  | cons line lines ih =>
    rw [List.foldlM_cons, except_bind_eq_ok_iff]
    cases hline : isDecoratorLine line with
    | true =>
      have hd : decoratorLines (line :: lines) = line :: decoratorLines lines :=
        List.filter_cons_of_pos hline
      have ha : attributeLines (line :: lines) = attributeLines lines :=
        List.filter_cons_of_neg (by simp [hline])
      rw [hd, ha]
      constructor
      · rintro ⟨next, hnext, hrest⟩
        obtain ⟨ds, hds, rfl⟩ := (readLine_of_isDecoratorLine hline).mp hnext
        obtain ⟨dss, changes, hdss, hchanges, rfl⟩ := ih.mp hrest
        exact ⟨ds :: dss, changes, .cons hds hdss, hchanges, Draft.extended_extended ..⟩
      · rintro ⟨dss, changes, hdss, hchanges, rfl⟩
        cases hdss with
        | cons hds hrest =>
          exact ⟨_, (readLine_of_isDecoratorLine hline).mpr ⟨_, hds, rfl⟩, ih.mpr
            ⟨_, _, hrest, hchanges, (Draft.extended_extended draft [_] _ [] _).symm⟩⟩
    | false =>
      have hd : decoratorLines (line :: lines) = decoratorLines lines :=
        List.filter_cons_of_neg (by simp [hline])
      have ha : attributeLines (line :: lines) = line :: attributeLines lines :=
        List.filter_cons_of_pos (by simp [hline])
      rw [hd, ha]
      constructor
      · rintro ⟨next, hnext, hrest⟩
        obtain ⟨change, hchange, rfl⟩ := (readLine_of_not_isDecoratorLine hline).mp hnext
        obtain ⟨dss, changes, hdss, hchanges, rfl⟩ := ih.mp hrest
        exact ⟨dss, change :: changes, hdss, .cons hchange hchanges, Draft.extended_extended ..⟩
      · rintro ⟨dss, changes, hdss, hchanges, rfl⟩
        cases hchanges with
        | cons hchange hrest =>
          exact ⟨_, (readLine_of_not_isDecoratorLine hline).mpr ⟨_, hchange, rfl⟩, ih.mpr
            ⟨_, _, hdss, hrest, (Draft.extended_extended draft [] _ [_] _).symm⟩⟩

end Lines

section Docs

variable {markdown : Option MarkdownDirectory} {lines : List String} {doc : HandlerDoc}
  {draft : Draft}

lemma complete_eq_ok_iff : complete draft = .ok doc ↔
    ∃ routes, (draft.decorators.filter (·.name == "path")).mapM Decorator.route = .ok routes ∧
      doc = ⟨draft.recognized, draft.decorators, draft.operation, routes ++ draft.operation.routes,
        sourcesOf draft.operation.params⟩ := by
  rw [complete, except_bind_eq_ok_iff]
  simp only [Except.ok.injEq, eq_comm (b := doc)]

def assembled (dss : List (List Decorator)) (changes : List (Option Change))
    (declared : List Route) : HandlerDoc :=
  let draft := ({} : Draft).extended dss changes
  ⟨draft.recognized, draft.decorators, draft.operation, declared ++ draft.operation.routes,
    sourcesOf draft.operation.params⟩

lemma ofLines_eq_ok_iff : ofLines markdown lines = .ok doc ↔
    ∃ dss changes declared,
      List.Forall₂ (fun l ds => Decorator.ofLine (trimmed l) = .ok ds) (decoratorLines lines) dss ∧
      List.Forall₂ (fun l change => Attribute.ofLine markdown (trimmed l) = .ok change)
        (attributeLines lines) changes ∧
      List.Forall₂ (fun d r => d.route = .ok r) (dss.flatten.filter (·.name == "path")) declared ∧
      doc = assembled dss changes declared := by
  rw [ofLines, except_bind_eq_ok_iff]
  constructor
  · rintro ⟨draft, hdraft, hdoc⟩
    obtain ⟨dss, changes, hdss, hchanges, rfl⟩ := foldlM_eq_ok_iff.mp hdraft
    obtain ⟨declared, hdeclared, rfl⟩ := complete_eq_ok_iff.mp hdoc
    exact ⟨dss, changes, declared, hdss, hchanges, except_mapM_eq_ok_iff.mp hdeclared, rfl⟩
  · rintro ⟨dss, changes, declared, hdss, hchanges, hdeclared, rfl⟩
    exact ⟨_, foldlM_eq_ok_iff.mpr ⟨dss, changes, hdss, hchanges, rfl⟩,
      complete_eq_ok_iff.mpr ⟨declared, except_mapM_eq_ok_iff.mpr hdeclared, rfl⟩⟩

end Docs

end HandlerDoc

end Routewright
