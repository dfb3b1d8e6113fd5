import Routewright.Proofs.Doc.Drafts
import Routewright.Proofs.Doc.Update
import Routewright.Proofs.Server.BootstrapLines

namespace Routewright

open Go Text

namespace Attribute

def declaredParam? (comment : String) : Option (String × Location) :=
  match parts? comment with
  | some p =>
    if p.lower = "param" then
      (paramWords? p.text).bind fun w =>
        (Location.ofName? (.ofList w.location)).map fun location => (.ofList w.name, location)
    else none
  | none => none

variable {markdown : Option MarkdownDirectory} {comment line name lower : String}
  {text : List Char} {said : Option Change} {c : Change}

lemma param?_of_says (h : Says markdown line name text lower c) (hlower : lower ≠ "param") :
    c.param? = none := by
  cases h with
  | param => exact absurd rfl hlower
  | _ => rfl

lemma exists_param_of_says (h : Says markdown line name text "param" c) :
    ∃ p, param text = .ok p ∧ c.param? = some p := by
  generalize hlower : "param" = lower at h
  cases h with
  | param hp => exact ⟨_, hp, rfl⟩
  | respond hmem => exact absurd (hlower ▸ hmem) (by decide)
  | extend hknown => exact absurd (by decide) (hlower ▸ hknown)
  | note hknown => exact absurd (by decide) (hlower ▸ hknown)
  | _ => exact absurd hlower (by decide)

lemma declaredParam?_eq (h : ofLine markdown comment = .ok said) :
    declaredParam? comment = (said.bind Change.param?).map fun p => (p.name, p.location) := by
  rw [declaredParam?]
  rcases ofLine_cases h with ⟨hparts, rfl⟩ | ⟨p, c, hparts, hsays, rfl⟩
  · rw [hparts]
    rfl
  · rw [hparts]
    dsimp only
    split_ifs with hlower
    · rw [hlower] at hsays
      obtain ⟨q, hq, hc⟩ := exists_param_of_says hsays
      obtain ⟨w, hw, hname, hlocation, -⟩ := words_of_param hq
      rw [hw, Option.bind_some, hlocation, Option.bind_some, hc, Option.map_some, Option.map_some,
        hname]
    · rw [Option.bind_some, param?_of_says hsays hlower]
      rfl

lemma declaredParams_eq {lines : List String} {changes : List (Option Change)}
    (h : List.Forall₂ (fun l change => ofLine markdown (trimmed l) = .ok change) lines changes) :
    lines.filterMap (fun l => declaredParam? (trimmed l)) =
      (changes.reduceOption.filterMap Change.param?).map fun p => (p.name, p.location) := by
  rw [List.reduceOption, List.filterMap_filterMap, List.map_filterMap]
  induction h with
  | nil => rfl
  | cons hchange _ ih =>
    rw [List.filterMap_cons, List.filterMap_cons, ih, declaredParam?_eq hchange]
    rfl

end Attribute

namespace HandlerDoc

/-- The sources that lines declare, each with its parameter. A body is no source. -/
def declaredSources (lines : List String) : List (String × ParamSource) :=
  ((attributeLines lines).filterMap fun l => Attribute.declaredParam? (trimmed l)).filterMap
    fun d => d.2.source?.map fun source => (d.1, source)

def sourcesFor (name : String) (lines : List String) : List ParamSource :=
  (declaredSources lines).filterMap fun d => if d.1 = name then some d.2 else none

variable {markdown : Option MarkdownDirectory} {lines : List String} {doc : HandlerDoc}

lemma sources_eq (h : ofLines markdown lines = .ok doc) :
    doc.sources = Dict.ofList (declaredSources lines) := by
  obtain ⟨dss, changes, declared, -, hchanges, -, rfl⟩ := ofLines_eq_ok_iff.mp h
  have hparams : (({} : Draft).extended dss changes).operation.params =
      changes.reduceOption.filterMap Change.param? :=
    Operation.applyAll_params changes
  rw [declaredSources, Attribute.declaredParams_eq hchanges, List.filterMap_map, ← hparams]
  rfl

lemma get?_sources (h : ofLines markdown lines = .ok doc) (name : String) :
    doc.sources.get? name = (sourcesFor name lines).getLast? := by
  rw [sources_eq h, Dict.get?_ofList_eq, sourcesFor]

lemma applySources_eq (h : ofLines markdown lines = .ok doc) (handler : Handler) :
    doc.applySources handler = { handler with params := handler.params.map fun p =>
      { p with source := ((sourcesFor p.name lines).getLast?).getD p.source } } := by
  rw [applySources]
  simp only [get?_sources h]

lemma applySources_applySources (doc : HandlerDoc) (handler : Handler) :
    doc.applySources (doc.applySources handler) = doc.applySources handler := by
  have hparam : ∀ p : Param, (doc.sources.get? p.name).getD ((doc.sources.get? p.name).getD p.source) =
      (doc.sources.get? p.name).getD p.source := by
    intro p
    cases doc.sources.get? p.name <;> rfl
  simp only [applySources, List.map_map, Function.comp_def, hparam]

end HandlerDoc

def ParamSource.reader : ParamSource → String
  | auto => "r.PathValue"
  | path => "r.PathValue"
  | query => "r.URL.Query().Get"
  | header => "r.Header.Get"

def Param.readingLines (p : Param) : List String :=
  indent 2 (p.rawVar ++ " := " ++ p.source.reader ++ "(" ++ quote p.name ++ ")") ::
    if p.source = .auto then
      [indent 2 ("if " ++ p.rawVar ++ " == \"\" \x7b"),
        indent 3 (p.rawVar ++ " = r.URL.Query().Get(" ++ quote p.name ++ ")"), indent 2 "\x7d"]
    else []

namespace Verifier

def checkingLines (package : String) (p : Param) : List String :=
  statementLines 2 (demand p ++ decode p package ++ stop)

lemma declaration_lookup (p : Param) : p.rawVar ++ " := " ++ p.lookup.source =
    p.rawVar ++ " := " ++ p.source.reader ++ "(" ++ quote p.name ++ ")" := by
  have hlookup : p.lookup.source = p.source.reader ++ "(" ++ quote p.name ++ ")" := by
    rw [Param.lookup]
    cases p.source <;> rfl
  rw [hlookup]
  simp only [String.append_assoc]

lemma assignment_query (p : Param) : p.rawVar ++ " = " ++ (TextExpr.queryValue p.name).source =
    p.rawVar ++ " = r.URL.Query().Get(" ++ quote p.name ++ ")" := by
  have hquery : (TextExpr.queryValue p.name).source =
      "r.URL.Query().Get(" ++ quote p.name ++ ")" :=
    rfl
  have hsign : " = r.URL.Query().Get(" = " = " ++ "r.URL.Query().Get(" := by
    decide
  rw [hquery, hsign]
  simp only [String.append_assoc, -String.reduceAppend]

lemma statementLines_fetch (p : Param) : statementLines 2 (fetch p) = p.readingLines := by
  rw [fetch, Param.readingLines, Param.fallsBackToQuery, statementLines, Statement.lines,
    declaration_lookup, List.singleton_append]
  by_cases hsource : p.source = .auto
  · rw [if_pos hsource, if_pos (beq_iff_eq.mpr hsource)]
    simp only [statementLines, Statement.lines, assignment_query]
    rfl
  · rw [if_neg hsource, if_neg (mt beq_iff_eq.mp hsource)]
    rfl

lemma statementLines_verify (package : String) (p : Param) :
    statementLines 2 (verify package p) = p.readingLines ++ checkingLines package p := by
  rw [verify, List.append_assoc, List.append_assoc, statementLines_append, statementLines_fetch,
    checkingLines, List.append_assoc]

lemma checkLines_eq (h : Handler) : checkLines h =
    "\t\terrS := \"\"" :: h.params.flatMap fun p => p.readingLines ++ checkingLines h.package p := by
  have hparams : ∀ params : List Param, statementLines 2 (params.flatMap (verify h.package)) =
      params.flatMap fun p => p.readingLines ++ checkingLines h.package p := by
    intro params
    induction params with
    | nil => rfl
    | cons p params ih =>
      rw [List.flatMap_cons, List.flatMap_cons, statementLines_append, statementLines_verify, ih]
  have hfaults : (Statement.declare faults (.literal "")).lines 2 = ["\t\terrS := \"\""] := by
    decide
  rw [checkLines, statementLines, hfaults, hparams, List.singleton_append]

lemma checkingLines_source (package : String) (p : Param) (source : ParamSource) :
    checkingLines package { p with source := source } = checkingLines package p :=
  rfl

lemma registration_eq (r : Route) (h : Handler) : registration r h = "\n".intercalate
    (["\tmux.HandleFunc(" ++ r.pattern ++ ", func(w http.ResponseWriter, r *http.Request) \x7b",
        "\t\terrS := \"\""] ++
      (h.params.flatMap fun p => p.readingLines ++ checkingLines h.package p) ++
        [callLine h, "\t\x7d)"]) := by
  rw [registration, statementLines_body, checkLines_eq]
  simp only [List.cons_append, List.nil_append, List.append_assoc]

end Verifier

namespace HandlerDoc

variable {markdown : Option MarkdownDirectory} {lines : List String} {doc : HandlerDoc}

theorem applySources_reads_declared (h : ofLines markdown lines = .ok doc) (handler : Handler)
    (r : Route) :
    doc.applySources handler = { handler with params := handler.params.map fun p =>
      { p with source := ((sourcesFor p.name lines).getLast?).getD p.source } } ∧
    doc.applySources (doc.applySources handler) = doc.applySources handler ∧
    (∀ (p : Param) (source : ParamSource),
      Verifier.checkingLines handler.package { p with source := source } =
        Verifier.checkingLines handler.package p) ∧
    Verifier.registration r (doc.applySources handler) = "\n".intercalate
      (["\tmux.HandleFunc(" ++ r.pattern ++
          ", func(w http.ResponseWriter, r *http.Request) \x7b", "\t\terrS := \"\""] ++
        ((doc.applySources handler).params.flatMap fun p =>
          p.readingLines ++ Verifier.checkingLines handler.package p) ++
            [Verifier.callLine (doc.applySources handler), "\t\x7d)"]) :=
  ⟨applySources_eq h handler, doc.applySources_applySources handler,
    Verifier.checkingLines_source handler.package, Verifier.registration_eq r _⟩

def locatingLines : List String :=
  ["@Param id query int true \"first\"", "@param id header int true \"last\"",
    "@Param id body int false \"\"", "@path(\"GET\", \"/items\")"]

theorem applySources_reads_declared_last : ∃ doc, ofLines none locatingLines = .ok doc ∧
    (doc.applySources ⟨"app/api", "api", "Get", [⟨"id", .ident "int", true, .auto⟩,
      ⟨"name", .ident "string", true, .auto⟩]⟩).params =
        [⟨"id", .ident "int", true, .header⟩, ⟨"name", .ident "string", true, .auto⟩] := by
  have hsources : declaredSources locatingLines = [("id", .query), ("id", .header)] := by
    decide +kernel
  have hdoc : (ofLines none locatingLines).map (fun _ => ()) = .ok () := by
    decide +kernel
  obtain ⟨doc, hdoc, -⟩ := except_map_eq_ok_iff.mp hdoc
  obtain ⟨hparams, -⟩ := applySources_reads_declared hdoc ⟨"app/api", "api", "Get",
    [⟨"id", .ident "int", true, .auto⟩, ⟨"name", .ident "string", true, .auto⟩]⟩ ⟨.get, "/items"⟩
  refine ⟨doc, hdoc, ?_⟩
  rw [hparams]
  unfold sourcesFor
  rw [hsources]
  rfl

end HandlerDoc

end Routewright
