import Routewright.Doc.Update
import Routewright.Proofs.Dict
import Routewright.Proofs.Doc.Dispatch
import Routewright.Proofs.Doc.Roundtrip

namespace Routewright

open Text

section Responses

variable {f : Response → Response}

lemma updateResponses_get? (hf : ∀ r, f (f r) = f r) (codes : List String) (d : Dict Response)
    (code : String) : (updateResponses f codes d).get? code =
      if code ∈ codes then some (f ((d.get? code).getD {})) else d.get? code := by
  rw [updateResponses]
  -- A code can stand twice in a line; to be changed again changes nothing.
  induction codes generalizing d with
  | nil => simp
  | cons first codes ih =>
    rw [List.foldl_cons, ih, Dict.get?_modify]
    by_cases heq : code = first
    · subst heq
      simp [hf]
    · simp [heq]

lemma Response.withHeader_withHeader (name : String) (header : ResponseHeader) (r : Response) :
    (r.withHeader name header).withHeader name header = r.withHeader name header := by
  simp [withHeader, Dict.insert_insert]

lemma updateResponses_keys (hf : ∀ r, f (f r) = f r) (d : Dict Response) :
    updateResponses f d.keys d = d.mapValues f := by
  apply Dict.ext_get?
  intro code
  have hkeys := d.mem_keys_iff code
  rw [updateResponses_get? hf, Dict.get?_mapValues]
  cases hget : d.get? code with
  | none => simp [hkeys, hget]
  | some r => simp [hkeys, hget]

end Responses

namespace Update

open Attribute

variable {op : Operation} {line : String} {text : List Char}

lemma runOn_bind {α β : Type} (steps : Update α) (next : α → Update β) :
    (steps >>= next).runOn op =
      match steps.runOn op with
      | (.ok a, after) => (next a).runOn after
      | (.error failure, after) => (.error failure, after) := by
  rcases h : steps.runOn op with ⟨failure | a, after⟩
  · exact exceptState_bind_of_error h next
  · exact exceptState_bind_of_ok h next

lemma runOn_modify (f : Operation → Operation) :
    (modify f : Update Unit).runOn op = (.ok (), f op) :=
  rfl

lemma runOn_forM {α : Type} {steps : α → Update Unit} {f : α → Operation → Operation}
    (h : ∀ a op, (steps a).runOn op = (.ok (), f a op)) (l : List α) :
    (l.forM steps).runOn op = (.ok (), l.foldl (fun op a => f a op) op) := by
  induction l generalizing op with
  | nil => rfl
  | cons a l ih =>
    rw [List.forM, runOn_bind, h]
    exact ih

lemma runOn_forM_add {α : Type} {steps : α → Update Unit} (add : List α → Operation → Operation)
    (hnil : ∀ op, add [] op = op) (hcons : ∀ a l op, add l (add [a] op) = add (a :: l) op)
    (h : ∀ a op, (steps a).runOn op = (.ok (), add [a] op)) (l : List α) :
    (l.forM steps).runOn op = (.ok (), add l op) := by
  rw [runOn_forM h]
  induction l generalizing op with
  | nil => rw [List.foldl_nil, hnil]
  | cons a l ih => rw [List.foldl_cons, ih, hcons]

def outcome {α : Type} (answer : Change → α) (op : Operation) :
    Except Failure Change → Except Failure α × Operation
  | .error failure => (.error failure, op)
  | .ok change => (.ok (answer change), op.apply change)

lemma runOn_recognized {steps : Update Unit} {r : Except Failure Change}
    (h : steps.runOn op = outcome (fun _ => ()) op r) (hr : ∀ c, r = .ok c → c.recognized = true) :
    (recognized steps).runOn op = outcome Change.recognized op r := by
  rw [recognized, runOn_bind, h]
  cases r with
  | error failure => rfl
  | ok c =>
    rw [outcome, outcome, hr c rfl]
    rfl

lemma runOn_recognized_ok {steps : Update Unit} (c : Change)
    (h : steps.runOn op = (.ok (), op.apply c)) (hc : c.recognized = true) :
    (recognized steps).runOn op = outcome Change.recognized op (.ok c) := by
  refine runOn_recognized (r := .ok c) h ?_
  rintro d ⟨⟩
  exact hc

lemma runOn_recognized_require {α : Type} (make : α → Change) {steps : α → Update Unit}
    (h : ∀ a, (steps a).runOn op = (.ok (), op.apply (make a)))
    (hmake : ∀ a, (make a).recognized = true) (r : Except AttributeIssue α) :
    (recognized (require line r >>= steps)).runOn op =
      outcome Change.recognized op (checked line make r) := by
  refine runOn_recognized ?_ ?_
  · rw [runOn_bind]
    cases r with
    | error issue => rfl
    | ok a => exact h a
  · intro c hc
    obtain ⟨a, -, rfl⟩ := exists_of_checked make hc
    exact hmake a

lemma runOn_describe (text : String) :
    (describe text).runOn op = (.ok (), op.apply (.describe text)) := by
  have hget : (get : Update Operation).runOn op = (.ok op, op) := rfl
  rw [describe, runOn_bind, hget]
  by_cases hempty : op.description = ""
  · simp only [hempty, if_true, runOn_modify, Operation.apply]
  · simp only [hempty, if_false, runOn_bind, runOn_modify, Operation.apply]

lemma runOn_respond (code : String) (write : Response → Response) :
    (respond code write).runOn op =
      (.ok (), { op with responses := op.responses.modify code {} write }) :=
  rfl

lemma foldl_responses (write : Response → Response) (codes : List String) :
    codes.foldl (fun op code => { op with responses := op.responses.modify code {} write }) op =
      { op with responses := updateResponses write codes op.responses } := by
  induction codes generalizing op with
  | nil => rfl
  | cons code codes ih => exact ih

lemma runOn_forM_respond (write : Response → Response) (codes : List String) :
    (codes.forM fun code => respond code write).runOn op =
      (.ok (), { op with responses := updateResponses write codes op.responses }) := by
  rw [runOn_forM (fun code op => runOn_respond code write), foldl_responses]

lemma runOn_declare (codes : List String) (kind dataType : Option String) (description : String) :
    (declare codes kind dataType description).runOn op =
      (.ok (), op.apply (.respond codes kind dataType description)) := by
  have hsteps : ∀ (code : String) (op : Operation), (do
      respond code id
      respond code fun r => { r with kind := kind }
      respond code fun r => { r with dataType := dataType }
      respond code fun r => { r with description := description } : Update Unit).runOn op =
        (.ok (), { op with
          responses := op.responses.modify code {} (.declare kind dataType description) }) := by
    intro code op
    simp only [runOn_bind, runOn_respond, Dict.modify_modify]
    rfl
  rw [declare, runOn_forM hsteps, foldl_responses]
  rfl

lemma runOn_response : (response line text).runOn op =
    outcome (fun _ => ()) op (checked line id (Attribute.response text)) := by
  unfold response Attribute.response
  dsimp only
  rw [runOn_bind]
  cases statusCodes ((fields 2 text)[0]?.getD []) with
  | error issue => rfl
  | ok codes =>
    simp only [require]
    by_cases hbrace : ((fields 2 text)[1]?.getD []).head? = some '\x7b'
    · simp only [hbrace, if_true]
      cases typed? ((fields 2 text)[1]?.getD []) with
      | none => rfl
      | some t => exact runOn_declare codes _ _ _
    · simp only [hbrace, if_false]
      exact runOn_declare codes none none _

lemma runOn_recognized_response : (recognized (response line text)).runOn op =
    outcome Change.recognized op (checked line id (Attribute.response text)) := by
  refine runOn_recognized runOn_response ?_
  intro c hc
  obtain ⟨d, hd, rfl⟩ := exists_of_checked id hc
  obtain ⟨codes, kind, dataType, description, rfl⟩ := exists_respond_of_response hd
  rfl

lemma runOn_header : (header line text).runOn op =
    outcome (fun _ => ()) op (checked line id (Attribute.header text)) := by
  unfold header Attribute.header
  cases (spanField? text).bind fun f => (typed? f.2).map fun t => (f.1, t) with
  | none => rfl
  | some r =>
    obtain ⟨codes, t⟩ := r
    dsimp only
    by_cases hall : asciiLowercase codes = "all".toList
    · have hget : (get : Update Operation).runOn op = (.ok op, op) := rfl
      simp only [hall, if_true, runOn_bind, hget, runOn_forM_respond,
        updateResponses_keys (Response.withHeader_withHeader _ _)]
      rfl
    · simp only [hall, if_false]
      rw [runOn_bind]
      cases statusCodes codes with
      | error issue => rfl
      | ok codes => exact runOn_forM_respond _ codes

lemma runOn_recognized_header : (recognized (header line text)).runOn op =
    outcome Change.recognized op (checked line id (Attribute.header text)) := by
  refine runOn_recognized runOn_header ?_
  intro c hc
  obtain ⟨d, hd, rfl⟩ := exists_of_checked id hc
  obtain ⟨codes, headerName, value, rfl⟩ := exists_header_of_header hd
  rfl

lemma runOn_recognized_route : (recognized do
      let route ← route line text
      modify fun op => { op with routes := op.routes ++ [route] }).runOn op =
    outcome Change.recognized op ((route line text).map .route) := by
  refine runOn_recognized ?_ ?_
  · rw [runOn_bind]
    cases route line text <;> rfl
  · intro c hc
    obtain ⟨r, -, rfl⟩ := except_map_eq_ok_iff.mp hc
    rfl

lemma change_of_not_known {markdown : Option MarkdownDirectory} {lower name : String}
    (h : lower ∉ knownNames) : change markdown line lower name text =
      if "x-".toList.isPrefixOf lower.toList then checked line (.extend lower) (json text)
      else .ok (.note name (.ofList text)) := by
  unfold change
  split
  case h_17 => rfl
  all_goals simp [knownNames] at h

lemma runOn_ofParts (markdown : Option MarkdownDirectory) (p : Parts) :
    (ofParts markdown p).runOn op =
      outcome Change.recognized op (change markdown p.line p.lower p.name p.text) := by
  obtain ⟨line, lower, name, text⟩ := p
  unfold ofParts
  dsimp only
  split
  case h_1 => exact runOn_recognized_ok (.describe _) (runOn_describe _) rfl
  case h_2 => exact runOn_recognized_require .describe (fun _ => runOn_describe _) (fun _ => rfl) _
  case h_3 => exact runOn_recognized_ok (.summarize _) rfl rfl
  case h_4 => exact runOn_recognized_ok (.identify _) rfl rfl
  case h_5 =>
    refine runOn_recognized_ok (.tag _) ?_ rfl
    exact runOn_forM_add (fun tags op => op.apply (.tag (tags.map String.ofList)))
      (by simp [Operation.apply]) (by simp [Operation.apply]) (fun _ _ => rfl) _
  case h_6 =>
    refine runOn_recognized_require .accept (fun types => ?_) (fun _ => rfl) _
    exact runOn_forM_add (fun types op => op.apply (.accept types))
      (by simp [Operation.apply]) (by simp [Operation.apply]) (fun _ _ => rfl) types
  case h_7 =>
    refine runOn_recognized_require .produce (fun types => ?_) (fun _ => rfl) _
    exact runOn_forM_add (fun types op => op.apply (.produce types))
      (by simp [Operation.apply]) (by simp [Operation.apply]) (fun _ _ => rfl) types
  case h_8 => exact runOn_recognized_require .param (fun _ => rfl) (fun _ => rfl) _
  case h_9 | h_10 | h_11 => exact runOn_recognized_response
  case h_12 => exact runOn_recognized_header
  case h_13 => exact runOn_recognized_route
  case h_14 =>
    refine runOn_recognized_require .secure (fun alternatives => ?_) (fun _ => rfl) _
    exact runOn_forM_add (fun alternatives op => op.apply (.secure alternatives))
      (by simp [Operation.apply]) (by simp [Operation.apply]) (fun _ _ => rfl) alternatives
  case h_15 => exact runOn_recognized_ok .deprecate rfl rfl
  case h_16 => exact runOn_recognized_require .codeSamples (fun _ => rfl) (fun _ => rfl) _
  -- The name is none of those above, so it tells by its beginning what it is.
  case h_17 =>
    have hlower : lower ∉ knownNames := by
      simp_all [knownNames]
    rw [change_of_not_known hlower]
    split_ifs with hextension
    · exact runOn_recognized_require (.extend lower) (fun _ => rfl) (fun _ => rfl) _
    · rfl

end Update

namespace Attribute

variable {markdown : Option MarkdownDirectory} {comment : String} {said : Option Change}

lemma ofLine_eq (markdown : Option MarkdownDirectory) (comment : String) :
    ofLine markdown comment =
      match parts? comment with
      | none => .ok none
      | some p => (change markdown p.line p.lower p.name p.text).map some := by
  unfold ofLine parts?
  generalize trim (comment.toList.dropWhile (· == '/')) = line
  split
  · rfl
  · simp only

lemma ofLine_cases (h : ofLine markdown comment = .ok said) :
    (parts? comment = none ∧ said = none) ∨
    ∃ p c, parts? comment = some p ∧ Says markdown p.line p.name p.text p.lower c ∧
      said = some c := by
  rw [ofLine_eq] at h
  cases hp : parts? comment with
  | none =>
    rw [hp] at h
    exact .inl ⟨rfl, (Except.ok.inj h).symm⟩
  | some p =>
    rw [hp] at h
    obtain ⟨c, hc, rfl⟩ := except_map_eq_ok_iff.mp h
    exact .inr ⟨p, c, rfl, says_of_change hc, rfl⟩

lemma parts?_eq_none (h : (trim (comment.toList.dropWhile (· == '/'))).head? ≠ some '@') :
    parts? comment = none := by
  unfold parts?
  split
  · rename_i hline
    rw [hline] at h
    exact absurd rfl h
  · rfl

end Attribute

namespace Operation

variable {markdown : Option MarkdownDirectory} {op after : Operation} {comment : String}
  {result : Except Failure Bool}

lemma apply_of_recognized {c : Change} (h : c.recognized = true) :
    (op.apply c).metadata = op.metadata := by
  cases c with
  | note name text => cases h
  | header codes name header => cases codes <;> rfl
  | _ => rfl

lemma apply_of_not_recognized {c : Change} (h : c.recognized = false) :
    op.apply c = { op with metadata := (op.apply c).metadata } := by
  cases c with
  | note name text => rfl
  | _ => cases h

lemma readInPlace_eq (markdown : Option MarkdownDirectory) (op : Operation) (comment : String) :
    op.readInPlace markdown comment =
      match Attribute.ofLine markdown comment with
      | .error failure => (.error failure, op)
      | .ok none => (.ok false, op)
      | .ok (some change) => (.ok change.recognized, op.apply change) := by
  rw [readInPlace, Update.ofComment, Attribute.ofLine_eq]
  cases Attribute.parts? comment with
  | none => rfl
  | some p =>
    dsimp only
    rw [Update.runOn_ofParts]
    cases Attribute.change markdown p.line p.lower p.name p.text <;> rfl

theorem readInPlace_leaves (h : op.readInPlace markdown comment = (result, after)) :
    (∀ failure, result = .error failure → after = op) ∧
    (result = .ok false → after = { op with metadata := after.metadata }) ∧
    ((trim (comment.toList.dropWhile (· == '/'))).head? ≠ some '@' →
      result = .ok false ∧ after = op) ∧
    (result = .ok true → after.metadata = op.metadata) ∧
    op.readLine markdown comment = result.map fun answer => (answer, after) := by
  rw [readInPlace_eq] at h
  rw [readLine]
  have hplain : (trim (comment.toList.dropWhile (· == '/'))).head? ≠ some '@' →
      Attribute.ofLine markdown comment = .ok none := by
    intro hhead
    rw [Attribute.ofLine_eq, Attribute.parts?_eq_none hhead]
  cases hline : Attribute.ofLine markdown comment with
  | error failure =>
    rw [hline] at h hplain
    obtain ⟨rfl, rfl⟩ := Prod.mk.inj h
    refine ⟨fun _ _ => rfl, fun hc => ?_, fun hhead => ?_, fun hc => ?_, rfl⟩
    · cases hc
    · cases hplain hhead
    · cases hc
  | ok said =>
    cases said with
    | none =>
      rw [hline] at h
      obtain ⟨rfl, rfl⟩ := Prod.mk.inj h
      refine ⟨fun failure hc => ?_, fun _ => rfl, fun _ => ⟨rfl, rfl⟩, fun _ => rfl, rfl⟩
      cases hc
    | some c =>
      rw [hline] at h hplain
      obtain ⟨rfl, rfl⟩ := Prod.mk.inj h
      refine ⟨fun failure hc => ?_, fun hc => ?_, fun hhead => ?_, fun hc => ?_, rfl⟩
      · cases hc
      · exact apply_of_not_recognized (Except.ok.inj hc)
      · cases hplain hhead
      · exact apply_of_recognized (Except.ok.inj hc)

def halfValid : String :=
  "@Header 200,oops \x7bint\x7d X-Rate \"calls left\""

theorem readInPlace_halfValid :
    (sample.readInPlace none halfValid).1 =
      .error (.comment none halfValid (.badStatusCode "oops")) ∧
    (sample.readInPlace none halfValid).2 = sample := by
  have hrefused : (sample.readInPlace none halfValid).1 =
      .error (.comment none halfValid (.badStatusCode "oops")) := by
    decide +kernel
  exact ⟨hrefused, (readInPlace_leaves (Prod.ext hrefused rfl)).1 _ rfl⟩

end Operation

end Routewright
