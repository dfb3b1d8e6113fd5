import Routewright.Proofs.Doc.Attributes

namespace Routewright.Attribute

open Text

inductive Says (markdown : Option MarkdownDirectory) (line name : String) (text : List Char) :
    String → Change → Prop
  | describe : Says markdown line name text "description" (.describe (.ofList text))
  | describeFrom {content : String}
      (h : MarkdownDirectory.textFor markdown (.ofList text) = .ok content) :
      Says markdown line name text "description.markdown" (.describe content)
  | summarize : Says markdown line name text "summary" (.summarize (.ofList text))
  | identify : Says markdown line name text "id" (.identify (.ofList text))
  | tag : Says markdown line name text "tags" (.tag ((commaList text).map String.ofList))
  | accept {types : List String} (h : mimeTypes text = .ok types) :
      Says markdown line name text "accept" (.accept types)
  | produce {types : List String} (h : mimeTypes text = .ok types) :
      Says markdown line name text "produce" (.produce types)
  | param {p : OperationParam} (h : Attribute.param text = .ok p) :
      Says markdown line name text "param" (.param p)
  | respond {lower : String} (hlower : lower ∈ ["success", "failure", "response"])
      {codes : List String} {kind dataType : Option String} {description : String}
      (h : response text = .ok (.respond codes kind dataType description)) :
      Says markdown line name text lower (.respond codes kind dataType description)
  | header {codes : Option (List String)} {headerName : String} {value : ResponseHeader}
      (h : Attribute.header text = .ok (.header codes headerName value)) :
      Says markdown line name text "header" (.header codes headerName value)
  | route {r : Route} (h : Attribute.route line text = .ok r) :
      Says markdown line name text "router" (.route r)
  | secure {alternatives : List (Dict (List String))} (h : security text = .ok alternatives) :
      Says markdown line name text "security" (.secure alternatives)
  | deprecate : Says markdown line name text "deprecated" .deprecate
  | codeSamples {value : Json} (h : json text = .ok value) :
      Says markdown line name text "x-codesamples" (.codeSamples value)
  | extend {lower : String} (hlower : lower ∉ knownNames)
      (hextension : "x-".toList.isPrefixOf lower.toList = true) {value : Json}
      (h : json text = .ok value) : Says markdown line name text lower (.extend lower value)
  | note {lower : String} (hlower : lower ∉ knownNames)
      (hextension : "x-".toList.isPrefixOf lower.toList = false) :
      Says markdown line name text lower (.note name (.ofList text))

section Inversion

variable {markdown : Option MarkdownDirectory} {line lower name : String} {text : List Char}
  {c : Change}

lemma exists_respond_of_response (h : response text = .ok c) :
    ∃ codes kind dataType description, c = .respond codes kind dataType description := by
  unfold response at h
  dsimp only at h
  split at h
  · cases h
  · split_ifs at h
    · split at h
      · cases h
      · exact ⟨_, _, _, _, (Except.ok.inj h).symm⟩
    · exact ⟨_, _, _, _, (Except.ok.inj h).symm⟩

lemma exists_header_of_header (h : header text = .ok c) :
    ∃ codes headerName value, c = .header codes headerName value := by
  unfold header at h
  split at h
  · cases h
  · dsimp only at h
    split_ifs at h
    · exact ⟨_, _, _, (Except.ok.inj h).symm⟩
    · obtain ⟨codes, -, rfl⟩ := except_map_eq_ok_iff.mp h
      exact ⟨_, _, _, rfl⟩

lemma words_of_param {p : OperationParam} (h : param text = .ok p) :
    ∃ w, paramWords? text = some w ∧ p.name = .ofList w.name ∧
      Location.ofName? (.ofList w.location) = some p.location ∧ p.dataType = .ofList w.dataType := by
  unfold param at h
  split at h
  · cases h
  · rename_i w hw
    split at h
    · cases h
    · rename_i location hlocation
      dsimp only at h
      split_ifs at h
      · obtain rfl := Except.ok.inj h
        exact ⟨w, hw, rfl, hlocation, rfl⟩
      · obtain rfl := Except.ok.inj h
        exact ⟨w, hw, rfl, hlocation, rfl⟩

lemma exists_of_checked {α : Type} (make : α → Change) {r : Except AttributeIssue α}
    (h : checked line make r = .ok c) : ∃ a, r = .ok a ∧ make a = c := by
  cases r with
  | error issue => cases h
  | ok a => exact ⟨a, rfl, Except.ok.inj h⟩

lemma says_of_response (hlower : lower ∈ ["success", "failure", "response"])
    (h : checked line id (response text) = .ok c) : Says markdown line name text lower c := by
  obtain ⟨d, hd, rfl⟩ := exists_of_checked id h
  obtain ⟨codes, kind, dataType, description, rfl⟩ := exists_respond_of_response hd
  exact .respond hlower hd

lemma says_of_change (h : change markdown line lower name text = .ok c) :
    Says markdown line name text lower c := by
  unfold change at h
  dsimp only at h
  split at h
  case h_1 => exact Except.ok.inj h ▸ .describe
  case h_2 =>
    obtain ⟨content, hcontent, rfl⟩ := exists_of_checked .describe h
    exact .describeFrom (except_mapError_eq_ok_iff.mp hcontent)
  case h_3 => exact Except.ok.inj h ▸ .summarize
  case h_4 => exact Except.ok.inj h ▸ .identify
  case h_5 => exact Except.ok.inj h ▸ .tag
  case h_6 =>
    obtain ⟨types, htypes, rfl⟩ := exists_of_checked .accept h
    exact .accept htypes
  case h_7 =>
    obtain ⟨types, htypes, rfl⟩ := exists_of_checked .produce h
    exact .produce htypes
  case h_8 =>
    obtain ⟨p, hp, rfl⟩ := exists_of_checked .param h
    exact .param hp
  case h_9 | h_10 | h_11 => exact says_of_response (by decide) h
  case h_12 =>
    obtain ⟨d, hd, rfl⟩ := exists_of_checked id h
    obtain ⟨codes, headerName, value, rfl⟩ := exists_header_of_header hd
    exact .header hd
  case h_13 =>
    obtain ⟨r, hr, rfl⟩ := except_map_eq_ok_iff.mp h
    exact .route hr
  case h_14 =>
    obtain ⟨alternatives, hs, rfl⟩ := exists_of_checked .secure h
    exact .secure hs
  case h_15 => exact Except.ok.inj h ▸ .deprecate
  case h_16 =>
    obtain ⟨value, hvalue, rfl⟩ := exists_of_checked .codeSamples h
    exact .codeSamples hvalue
  case h_17 =>
    have hlower : lower ∉ knownNames := by
      simp_all [knownNames]
    split_ifs at h with hextension
    · obtain ⟨value, hvalue, rfl⟩ := exists_of_checked (.extend lower) h
      exact .extend hlower hextension hvalue
    · obtain rfl := Except.ok.inj h
      exact .note hlower (eq_false_of_ne_true hextension)

end Inversion

end Routewright.Attribute
