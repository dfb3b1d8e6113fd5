import Routewright.Proofs.Doc.Families

namespace Routewright

open Attribute

def Attribute.isAccepted (markdown : Option MarkdownDirectory) (comment : String) : Bool :=
  (ofLine markdown comment).isOk

lemma Attribute.isAccepted_iff {markdown : Option MarkdownDirectory} {comment : String} :
    isAccepted markdown comment = true ↔ ∃ said, ofLine markdown comment = .ok said := by
  rw [isAccepted]
  cases ofLine markdown comment <;> simp [Except.isOk, Except.toBool]

namespace Operation

def accumulate (markdown : Option MarkdownDirectory) (op : Operation) (lines : List String) :
    Operation :=
  lines.foldl (fun op line => (op.readInPlace markdown line).2) op

variable {markdown : Option MarkdownDirectory} {op : Operation} {comment : String}

lemma readInPlace_of_accepted {said : Option Change} (h : ofLine markdown comment = .ok said) :
    (op.readInPlace markdown comment).2 = op.applyAll [said] := by
  rw [readInPlace_eq, h]
  cases said <;> rfl

lemma readInPlace_of_refused {failure : Failure} (h : ofLine markdown comment = .error failure) :
    op.readInPlace markdown comment = (.error failure, op) := by
  rw [readInPlace_eq, h]

lemma readLines_accepted (markdown : Option MarkdownDirectory) (op : Operation)
    (lines : List String) :
    readLines markdown op (lines.filter (isAccepted markdown)) =
      .ok (op.accumulate markdown lines) := by
  induction lines generalizing op with
  | nil => rfl
  | cons line lines ih =>
    rw [accumulate, List.foldl_cons, ← accumulate, ← ih]
    cases hline : ofLine markdown line with
    | error failure =>
      rw [List.filter_cons_of_neg (by simp [isAccepted_iff, hline]),
        readInPlace_of_refused hline]
    | ok said =>
      rw [List.filter_cons_of_pos (isAccepted_iff.mpr ⟨said, hline⟩),
        readInPlace_of_accepted hline, readLines, List.foldlM_cons,
        readLine_eq_ok_iff.mpr ⟨said, hline, rfl⟩]
      rfl

lemma accumulate_induction {P : Operation → Prop} (hop : P op)
    (hstep : ∀ op comment c, ofLine markdown comment = .ok (some c) → P op → P (op.apply c))
    (lines : List String) : P (op.accumulate markdown lines) := by
  induction lines generalizing op with
  | nil => exact hop
  | cons line lines ih =>
    rw [accumulate, List.foldl_cons]
    refine ih ?_
    cases hline : ofLine markdown line with
    | error failure => rwa [readInPlace_of_refused hline]
    | ok said =>
      rw [readInPlace_of_accepted hline]
      cases said with
      | none => exact hop
      | some c => exact hstep op line c hline hop

end Operation

end Routewright
