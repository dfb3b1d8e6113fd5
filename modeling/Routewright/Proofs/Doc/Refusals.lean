import Routewright.Proofs.Doc.Attributes
import Routewright.Proofs.Doc.Recognition

namespace Routewright

def DecoratorIssue.isPattern : DecoratorIssue → Bool
  | badPattern .. => true
  | _ => false

def Failure.isBinding : Failure → Bool
  | duplicateRoute .. => true
  | decorator _ issue => issue.isPattern
  | _ => false

namespace Decorator

variable {call : Call} {source line : String} {s : List Char} {issue : DecoratorIssue}

lemma readArgs_refusal (h : readArgs call s = .error issue) : issue.isPattern = false := by
  fun_induction readArgs call s with
  | case1 => exact Except.error.inj h ▸ rfl
  | case2 => exact Except.error.inj h ▸ rfl
  | case3 _ _ _ _ _ _ _ _ ih => exact ih h
  | case4 => cases h

lemma read_refusal (h : read source s = .error issue) : issue.isPattern = false := by
  unfold read at h
  dsimp only at h
  split_ifs at h
  · exact Except.error.inj h ▸ rfl
  · exact Except.error.inj h ▸ rfl
  · split at h
    · split at h
      · cases h
      · exact readArgs_refusal h
    · exact Except.error.inj h ▸ rfl

lemma readAll_refusal (h : readAll source s = .error issue) : issue.isPattern = false := by
  fun_induction readAll source s with
  | case1 => cases h
  | case2 _ _ hread => exact Except.error.inj h ▸ read_refusal hread
  | case3 _ _ _ _ ih => exact ih (except_map_eq_error_iff.mp h)
  | case4 => exact Except.error.inj h ▸ rfl

lemma ofLine_refusal (h : ofLine line = .error issue) : issue.isPattern = false := by
  unfold ofLine at h
  split at h
  · exact readAll_refusal h
  · cases h

end Decorator

namespace Attribute

variable {markdown : Option MarkdownDirectory} {line lower name : String} {s text : List Char}
  {failure : Failure}

lemma method_refusal (h : method s = .error failure) : failure.isBinding = false := by
  unfold method at h
  split at h
  · cases h
  · exact Except.error.inj h ▸ rfl

lemma route_refusal (h : route line s = .error failure) : failure.isBinding = false := by
  unfold route at h
  split at h
  · exact Except.error.inj h ▸ rfl
  · exact method_refusal (except_map_eq_error_iff.mp h)

lemma checked_refusal {α : Type} {make : α → Change} {r : Except AttributeIssue α}
    (h : checked line make r = .error failure) : failure.isBinding = false := by
  cases r with
  | error issue => exact Except.error.inj h ▸ rfl
  | ok a => cases h

lemma change_refusal (h : change markdown line lower name text = .error failure) :
    failure.isBinding = false := by
  unfold change at h
  dsimp only at h
  split at h
  case h_1 | h_3 | h_4 | h_5 | h_15 => cases h
  case h_2 | h_6 | h_7 | h_8 | h_9 | h_10 | h_11 | h_12 | h_14 | h_16 => exact checked_refusal h
  case h_13 => exact route_refusal (except_map_eq_error_iff.mp h)
  case h_17 =>
    split_ifs at h
    exact checked_refusal h

lemma ofLine_refusal {comment : String} (h : ofLine markdown comment = .error failure) :
    failure.isBinding = false := by
  unfold ofLine at h
  split at h
  · exact change_refusal (except_map_eq_error_iff.mp h)
  · cases h

end Attribute

lemma Route.ofWords_refusal {method path : String} {failure : Failure}
    (h : ofWords method path = .error failure) : failure.isBinding = false := by
  unfold ofWords at h
  rcases except_bind_eq_error_iff.mp h with hm | ⟨m, -, h⟩
  · exact Attribute.method_refusal hm
  · dsimp only at h
    split_ifs at h
    exact Except.error.inj h ▸ rfl

lemma Decorator.route_refusal {d : Decorator} {failure : Failure}
    (h : d.route = .error failure) : failure.isBinding = false := by
  unfold route at h
  split at h
  · exact Route.ofWords_refusal h
  · exact Except.error.inj h ▸ rfl

namespace HandlerDoc

variable {markdown : Option MarkdownDirectory} {draft : Draft} {failure : Failure}

lemma readLine_refusal {line : String} (h : readLine markdown draft line = .error failure) :
    failure.isBinding = false := by
  unfold readLine at h
  dsimp only at h
  split_ifs at h
  · split at h
    · rename_i issue hissue
      exact Except.error.inj h ▸ Decorator.ofLine_refusal hissue
    · cases h
  · unfold Operation.readLine at h
    cases hc : Attribute.ofLine markdown (Text.trimmed line) with
    | error failure' =>
      rw [hc] at h
      exact Except.error.inj h ▸ Attribute.ofLine_refusal hc
    | ok change =>
      rw [hc] at h
      cases change with
      | none => cases h
      | some change => cases h

lemma foldlM_refusal {lines : List String}
    (h : lines.foldlM (readLine markdown) draft = .error failure) :
    failure.isBinding = false := by
  induction lines generalizing draft with
  | nil => cases h
  | cons line lines ih =>
    rw [List.foldlM_cons] at h
    rcases except_bind_eq_error_iff.mp h with hline | ⟨next, -, hrest⟩
    · exact readLine_refusal hline
    · exact ih hrest

lemma complete_refusal (h : complete draft = .error failure) : failure.isBinding = false := by
  rcases except_bind_eq_error_iff.mp h with hroutes | ⟨declared, -, h⟩
  · obtain ⟨d, -, hd⟩ := exists_error_of_mapM hroutes
    exact Decorator.route_refusal hd
  · cases h

lemma ofLines_refusal {lines : List String} (h : ofLines markdown lines = .error failure) :
    failure.isBinding = false := by
  rcases except_bind_eq_error_iff.mp h with hlines | ⟨draft, -, hcomplete⟩
  · exact foldlM_refusal hlines
  · exact complete_refusal hcomplete

end HandlerDoc

end Routewright
