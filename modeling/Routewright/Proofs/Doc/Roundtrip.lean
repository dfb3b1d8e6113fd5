import Routewright.Proofs.Doc.Security

namespace Routewright

open Text

namespace Operation

open Attribute

variable {markdown : Option MarkdownDirectory} {op : Operation} {l : List String}

lemma readLine_of_change {line : String} {c : Change}
    (h : ofLine markdown line = .ok (some c)) :
    (op.readLine markdown line).map Prod.snd = .ok (op.apply c) := by
  rw [readLine, h]
  rfl

lemma readLines_append {first second third : Operation} {m : List String}
    (hl : readLines markdown first l = .ok second) (hm : readLines markdown second m = .ok third) :
    readLines markdown first (l ++ m) = .ok third := by
  rw [readLines] at hl
  rw [readLines, List.foldlM_append, hl]
  exact hm

lemma readLines_map {α : Type} {items : List α} {text : α → String} {change : α → Change}
    (h : ∀ a ∈ items, ofLine markdown (text a) = .ok (some (change a))) :
    readLines markdown op (items.map text) =
      .ok (items.foldl (fun op a => op.apply (change a)) op) := by
  induction items generalizing op with
  | nil => rfl
  | cons a items ih =>
    obtain ⟨ha, hitems⟩ := List.forall_mem_cons.mp h
    rw [List.map_cons, readLines, List.foldlM_cons, readLine_of_change ha]
    exact ih hitems

lemma readLines_one {line : String} {c : Change} (h : ofLine markdown line = .ok (some c)) :
    readLines markdown op [line] = .ok (op.apply c) := by
  rw [readLines, List.foldlM_cons, readLine_of_change h]
  rfl

section Texts

lemma readLines_summary {text : Option String} (h : ∀ t ∈ text, trimmed t = t)
    (hop : op.summary = none) :
    readLines markdown op (text.toList.map (line "Summary")) =
      .ok { op with summary := text } := by
  cases text with
  | none =>
    have hsame : op = { op with summary := none } := by rw [← hop]
    exact congrArg Except.ok hsame
  | some t => exact readLines_one (ofLine_summary (h t rfl))

lemma readLines_id {text : Option String} (h : ∀ t ∈ text, trimmed t = t) (hop : op.id = none) :
    readLines markdown op (text.toList.map (line "ID")) = .ok { op with id := text } := by
  cases text with
  | none =>
    have hsame : op = { op with id := none } := by rw [← hop]
    exact congrArg Except.ok hsame
  | some t => exact readLines_one (ofLine_id (h t rfl))

lemma foldl_describe (texts : List String) :
    texts.foldl (fun op t => op.apply (.describe t)) op =
      { op with
        description := texts.foldl (fun d t => if d = "" then t else d ++ "\n" ++ t)
          op.description } := by
  induction texts generalizing op with
  | nil => rfl
  | cons t texts ih =>
    rw [List.foldl_cons, ih]
    rfl

lemma foldl_lines {text : String} (h : text ≠ "") (texts : List String) :
    texts.foldl (fun d t => if d = "" then t else d ++ "\n" ++ t) text =
      "\n".intercalate (text :: texts) := by
  induction texts generalizing text with
  | nil => rw [List.foldl_nil, String.intercalate_singleton]
  | cons t texts ih =>
    have hne : text ++ "\n" ++ t ≠ "" := by
      intro hempty
      have hlist := congrArg String.toList hempty
      simp at hlist
    rw [List.foldl_cons, if_neg h, ih hne, String.intercalate_cons_cons,
      String.intercalate_cons_append]

lemma foldl_descriptionLines (h : op.descriptionLines.head? ≠ some "") :
    op.descriptionLines.foldl (fun d t => if d = "" then t else d ++ "\n" ++ t) "" =
      op.description := by
  by_cases hempty : op.description = ""
  · rw [descriptionLines, if_pos hempty, hempty]
    rfl
  · have hjoin : "\n".intercalate ((splitOnChar '\n' op.description.toList).map String.ofList) =
        op.description := by
      rw [← String.toList_inj, String.toList_intercalate, List.map_map]
      have hid : (splitOnChar '\n' op.description.toList).map (String.toList ∘ String.ofList) =
          splitOnChar '\n' op.description.toList :=
        List.map_id'' (fun _ => String.toList_ofList) _
      rw [hid]
      exact intercalate_splitOnChar '\n' op.description.toList
    rw [descriptionLines, if_neg hempty] at h ⊢
    cases hlines : (splitOnChar '\n' op.description.toList).map String.ofList with
    | nil => exact absurd (List.map_eq_nil_iff.mp hlines) (splitWhere_ne_nil _ _)
    | cons t texts =>
      rw [hlines] at h hjoin
      have ht : t ≠ "" := fun heq => h (by rw [heq]; rfl)
      rw [List.foldl_cons, if_pos rfl, foldl_lines ht, hjoin]

lemma readLines_description {p : Operation} (h : ∀ text ∈ p.descriptionLines, trimmed text = text)
    (hhead : p.descriptionLines.head? ≠ some "") (hop : op.description = "") :
    readLines markdown op (p.descriptionLines.map (line "Description")) =
      .ok { op with description := p.description } := by
  rw [readLines_map fun text htext => ofLine_description (h text htext), foldl_describe, hop,
    foldl_descriptionLines hhead]

end Texts

section Lists

lemma readLines_tags {tags : List String} (h : ∀ tag ∈ tags, IsItem tag.toList) :
    readLines markdown op (listLines "Tags" tags) = .ok { op with tags := op.tags ++ tags } := by
  rw [listLines]
  split_ifs with hempty
  · rw [hempty, List.append_nil]
    rfl
  · exact readLines_one (ofLine_tags h)

lemma readLines_accept {mimes : List String}
    (h : ∀ mime ∈ mimes, IsItem mime.toList ∧ isMime mime.toList = true) :
    readLines markdown op (listLines "Accept" mimes) =
      .ok { op with accept := op.accept ++ mimes } := by
  rw [listLines]
  split_ifs with hempty
  · rw [hempty, List.append_nil]
    rfl
  · exact readLines_one (ofLine_accept h)

lemma readLines_produce {mimes : List String}
    (h : ∀ mime ∈ mimes, IsItem mime.toList ∧ isMime mime.toList = true) :
    readLines markdown op (listLines "Produce" mimes) =
      .ok { op with produce := op.produce ++ mimes } := by
  rw [listLines]
  split_ifs with hempty
  · rw [hempty, List.append_nil]
    rfl
  · exact readLines_one (ofLine_produce h)

lemma readLines_params {params : List OperationParam} (h : ∀ p ∈ params, p.Printable) :
    readLines markdown op (params.map fun p => line "Param" (paramText p)) =
      .ok { op with params := op.params ++ params } := by
  have hfold : ∀ op : Operation, params.foldl (fun op p => op.apply (.param p)) op =
      { op with params := op.params ++ params } := by
    clear h
    induction params with
    | nil => simp
    | cons p params ih =>
      intro op
      rw [List.foldl_cons, ih]
      simp [apply]
  rw [readLines_map fun p hp => ofLine_param (h p hp), hfold]

lemma readLines_routes {routes : List Route} (h : ∀ r ∈ routes, r.Printable) :
    readLines markdown op (routes.map fun r => line "Router" (routeText r)) =
      .ok { op with routes := op.routes ++ routes } := by
  have hfold : ∀ op : Operation, routes.foldl (fun op r => op.apply (.route r)) op =
      { op with routes := op.routes ++ routes } := by
    clear h
    induction routes with
    | nil => simp
    | cons r routes ih =>
      intro op
      rw [List.foldl_cons, ih]
      simp [apply]
  rw [readLines_map fun r hr => ofLine_route (h r hr), hfold]

lemma readLines_security {alternatives : List (Dict (List String))}
    (h : ∀ d ∈ alternatives, IsAlternative d) :
    readLines markdown op
        (if alternatives = [] then [] else [line "Security" (securityText alternatives)]) =
      .ok { op with security := op.security ++ alternatives } := by
  split_ifs with hempty
  · rw [hempty, List.append_nil]
    rfl
  · exact readLines_one (ofLine_security hempty h)

lemma readLines_deprecated (flag : Bool) (hop : op.deprecated = false) :
    readLines markdown op (if flag then [line "Deprecated" ""] else []) =
      .ok { op with deprecated := flag } := by
  cases flag with
  | false =>
    have hsame : op = { op with deprecated := false } := by rw [← hop]
    exact congrArg Except.ok hsame
  | true => exact readLines_one ofLine_deprecated

end Lists

section Maps

lemma readLines_metadata {entries : List (String × String)} (h : ∀ e ∈ entries, IsNote e) :
    readLines markdown op (entries.map fun e => line e.1 e.2) =
      .ok { op with
        metadata := entries.foldl (fun d e => d.insert e.1 e.2) op.metadata } := by
  have hfold : ∀ op : Operation, entries.foldl (fun op e => op.apply (.note e.1 e.2)) op =
      { op with metadata := entries.foldl (fun d e => d.insert e.1 e.2) op.metadata } := by
    clear h
    induction entries with
    | nil => simp
    | cons e entries ih =>
      intro op
      rw [List.foldl_cons, ih]
      rfl
  rw [readLines_map fun e he => ofLine_note (h e he), hfold]

lemma foldl_headers {code : String} {r : Response} {responses : Dict Response}
    (hop : op.responses = responses.insert code r) (headers : List (String × ResponseHeader)) :
    headers.foldl (fun op h => op.apply (.header (some [code]) h.1 h.2)) op =
      { op with
        responses := responses.insert code
          { r with headers := headers.foldl (fun d h => d.insert h.1 h.2) r.headers } } := by
  induction headers generalizing op r with
  | nil =>
    rw [List.foldl_nil, List.foldl_nil, ← hop]
  | cons h headers ih =>
    have hnext : (op.apply (.header (some [code]) h.1 h.2)).responses =
        responses.insert code (r.withHeader h.1 h.2) := by
      simp [apply, updateResponses, Dict.modify, hop, Dict.get?_insert, Dict.insert_insert]
    rw [List.foldl_cons, ih hnext]
    rfl

lemma readLines_response {e : String × Response} (hcode : isStatusCode e.1.toList = true)
    (h : e.2.Printable) (hnew : op.responses.get? e.1 = none) :
    readLines markdown op (responseLines e) =
      .ok { op with responses := op.responses.insert e.1 e.2 } := by
  have hdeclared : (op.apply (.respond [e.1] e.2.kind e.2.dataType e.2.description)).responses =
      op.responses.insert e.1 { e.2 with headers := ∅ } := by
    simp [apply, updateResponses, Dict.modify, hnew, Response.declare]
  have hfirst : readLines markdown op [line "Response" (e.1 ++ " " ++ responseText e.2)] =
      .ok (op.apply (.respond [e.1] e.2.kind e.2.dataType e.2.description)) :=
    readLines_one (ofLine_response hcode h)
  have hheaders : readLines markdown
      (op.apply (.respond [e.1] e.2.kind e.2.dataType e.2.description))
      (e.2.headers.entries.map fun x => line "Header" (e.1 ++ " " ++ headerText x)) = _ :=
    readLines_map fun x hx => ofLine_header hcode (h.headers x hx)
  rw [foldl_headers hdeclared] at hheaders
  refine (readLines_append hfirst hheaders).trans ?_
  have hall : e.2.headers.entries.foldl (fun d x => d.insert x.1 x.2) ∅ = e.2.headers :=
    e.2.headers.ofList_entries
  simp only [hall]
  rfl

lemma readLines_responses {entries : List (String × Response)}
    (hsorted : entries.Pairwise (·.1 < ·.1))
    (hcodes : ∀ e ∈ entries, isStatusCode e.1.toList = true) (h : ∀ e ∈ entries, e.2.Printable)
    (hnew : ∀ e ∈ entries, op.responses.get? e.1 = none) :
    readLines markdown op (entries.flatMap responseLines) =
      .ok { op with
        responses := entries.foldl (fun d e => d.insert e.1 e.2) op.responses } := by
  induction entries generalizing op with
  | nil => rfl
  | cons e entries ih =>
    obtain ⟨hlt, hsorted⟩ := List.pairwise_cons.mp hsorted
    obtain ⟨hcode, hcodes⟩ := List.forall_mem_cons.mp hcodes
    obtain ⟨he, h⟩ := List.forall_mem_cons.mp h
    obtain ⟨hfirst, hnew⟩ := List.forall_mem_cons.mp hnew
    refine readLines_append (readLines_response hcode he hfirst) (ih hsorted hcodes h ?_)
    intro x hx
    have hne : x.1 ≠ e.1 := (String.ne_of_lt (hlt x hx)).symm
    simp only [Dict.get?_insert, if_neg hne, hnew x hx]

end Maps

section Parts

variable {p : Operation} (h : p.Printable)

include h

lemma readLines_head :
    readLines markdown {} p.headLines =
      .ok { summary := p.summary, id := p.id, description := p.description } :=
  readLines_append (readLines_append (readLines_summary h.summary rfl) (readLines_id h.id rfl))
    (readLines_description h.description h.description_head rfl)

lemma readLines_media :
    readLines markdown op p.mediaLines =
      .ok { op with
        tags := op.tags ++ p.tags
        accept := op.accept ++ p.accept
        produce := op.produce ++ p.produce } :=
  readLines_append (readLines_append (readLines_tags h.tags) (readLines_accept h.accept))
    (readLines_produce h.produce)

lemma readLines_values (hop : op.responses = ∅) :
    readLines markdown op p.valueLines =
      .ok { op with params := op.params ++ p.params, responses := p.responses } := by
  have hfold : p.responses.entries.foldl (fun d e => d.insert e.1 e.2) ∅ = p.responses :=
    p.responses.ofList_entries
  have hnew : ∀ e ∈ p.responses.entries, op.responses.get? e.1 = none := by
    intro e _
    rw [hop]
    rfl
  have hread := readLines_append (readLines_params h.params)
    (@readLines_responses markdown { op with params := op.params ++ p.params }
      p.responses.entries p.responses.sorted h.codes h.responses hnew)
  rwa [hop, hfold] at hread

lemma readLines_access (hop : op.deprecated = false) :
    readLines markdown op p.accessLines =
      .ok { op with
        routes := op.routes ++ p.routes
        security := op.security ++ p.security
        deprecated := p.deprecated } :=
  readLines_append (readLines_append (readLines_routes h.routes) (readLines_security h.security))
    (readLines_deprecated p.deprecated hop)

end Parts

theorem readLines_lines (h : op.Printable) : readLines markdown {} op.lines = .ok op := by
  have hmetadata : op.metadata.entries.foldl (fun d e => d.insert e.1 e.2) ∅ = op.metadata :=
    op.metadata.ofList_entries
  have hvalues := readLines_append (readLines_append (@readLines_head markdown op h)
    (readLines_media h)) (readLines_values h rfl)
  have hall := readLines_append (readLines_append hvalues (readLines_access h rfl))
    (readLines_metadata h.metadata)
  rw [hmetadata] at hall
  have hsame : op = { op with codeSamples := none, extensions := ∅ } := by
    rw [← h.codeSamples, ← h.extensions]
  exact hall.trans (congrArg Except.ok hsame.symm)

def sample : Operation where
  summary := some "Get an item"
  id := some "get-item"
  description := "First line.\n\nThird line."
  tags := ["items", "read only"]
  accept := ["application/json"]
  produce := ["text/csv", "text/xml"]
  params := [⟨"id", .path, "int", true, "the key"⟩]
  responses :=
    ⟨[("200",
        { kind := some "object", dataType := some "Item", description := "an \"item\" of 1",
          headers := ⟨[("X-Rate", ⟨"int", ""⟩)], by decide⟩ }),
      ("default", { description := "failure" })], by decide⟩
  routes := [⟨.get, "/items/\x7bid\x7d"⟩]
  security :=
    [⟨[("Key", []), ("OAuth2", ["read", "write all"])], by decide⟩, ⟨[("Basic", [])], by decide⟩]
  deprecated := true
  metadata := ⟨[("Owner", "platform team")], by decide⟩

lemma sample_printable : sample.Printable where
  summary := by decide +kernel
  id := by decide +kernel
  description := by decide +kernel
  description_head := by decide +kernel
  tags := by decide +kernel
  accept := by decide +kernel
  produce := by decide +kernel
  params := by decide +kernel
  codes := by decide +kernel
  responses := by
    intro e he
    rcases List.mem_pair.mp he with rfl | rfl
    · exact ⟨.inr ⟨"object", "Item", by decide +kernel⟩, by decide +kernel, by decide +kernel⟩
    · exact ⟨.inl ⟨rfl, rfl⟩, by decide +kernel, by decide +kernel⟩
  routes := by decide +kernel
  security := by decide +kernel
  metadata := by decide +kernel
  codeSamples := rfl
  extensions := rfl

theorem sample_read :
    sample.lines =
      ["@Summary Get an item", "@ID get-item", "@Description First line.", "@Description",
        "@Description Third line.", "@Tags items, read only", "@Accept application/json",
        "@Produce text/csv, text/xml", "@Param id path int true \"the key\"",
        "@Response 200 \x7bobject\x7d Item \"an \"item\" of 1\"",
        "@Header 200 \x7bint\x7d X-Rate \"\"", "@Response default \"failure\"",
        "@Router /items/\x7bid\x7d [GET]",
        "@Security Key && OAuth2[read,write all] || Basic", "@Deprecated",
        "@Owner platform team"] ∧
      readLines none {} sample.lines = .ok sample :=
  ⟨by decide +kernel, readLines_lines sample_printable⟩

end Operation

end Routewright
