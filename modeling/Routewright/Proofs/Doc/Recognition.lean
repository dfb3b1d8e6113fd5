import Mathlib.Tactic.Lemma
import Routewright.Doc.Comment
import Routewright.Proofs.Except

namespace Routewright.HandlerDoc

open Text

def recognizes (markdown : Option MarkdownDirectory) (line : String) : Bool :=
  let text := trimmed line
  if Decorator.isLine text.toList then
    match Decorator.ofLine text with
    | .ok decorators => !decorators.isEmpty
    | .error _ => false
  else
    match Attribute.ofLine markdown text with
    | .ok (some change) => change.recognized
    | _ => false

variable {markdown : Option MarkdownDirectory}

lemma readLine_recognized {draft after : Draft} {line : String}
    (h : readLine markdown draft line = .ok after) :
    after.recognized = (draft.recognized || recognizes markdown line) := by
  unfold readLine at h
  unfold recognizes
  dsimp only at h ⊢
  split at h
  · rename_i hl
    rw [if_pos hl]
    split at h
    · cases h
    · cases h
      rename_i decorators hd
      simp [hd]
  · rename_i hl
    rw [if_neg hl]
    unfold Operation.readLine at h
    cases hc : Attribute.ofLine markdown (trimmed line) with
    | error failure => simp [hc] at h
    | ok change =>
      cases change with
      | none =>
        simp only [hc, Except.ok.injEq] at h
        simp [← h]
      | some change =>
        simp only [hc, Except.ok.injEq] at h
        simp [← h]

lemma foldlM_recognized {lines : List String} {draft after : Draft}
    (h : lines.foldlM (readLine markdown) draft = .ok after) :
    after.recognized = (draft.recognized || lines.any (recognizes markdown)) := by
  induction lines generalizing draft with
  | nil =>
    obtain rfl : draft = after := by simpa [pure, Except.pure] using h
    simp
  | cons line lines ih =>
    rw [List.foldlM_cons] at h
    obtain ⟨next, hn, h⟩ := except_bind_eq_ok_iff.mp h
    rw [ih h, readLine_recognized hn, List.any_cons, Bool.or_assoc]

lemma ofLines_recognized {lines : List String} {doc : HandlerDoc}
    (h : ofLines markdown lines = .ok doc) :
    doc.recognized = lines.any (recognizes markdown) := by
  obtain ⟨draft, hd, h⟩ := except_bind_eq_ok_iff.mp h
  obtain ⟨routes, _, h⟩ := except_bind_eq_ok_iff.mp h
  obtain rfl := Except.ok.inj h
  simpa using foldlM_recognized hd

end Routewright.HandlerDoc
