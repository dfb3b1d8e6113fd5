import Routewright.Proofs.Server.EmittedCode

namespace Routewright

open Go Text

namespace Verifier

def readRegistration (text : String) : Option (String × List Statement) :=
  match linesOf text with
  | [] => none
  | first :: rest =>
    ((dropStart? RouteTable.registrationMark first).bind cutLiteral?).bind fun x =>
      if x.2 = ", func(w http.ResponseWriter, r *http.Request) \x7b".toList ∧
          rest.getLast? = some "\t\x7d)".toList then
        (unquote? x.1).bind fun pattern =>
          (readStatements rest.dropLast).map fun body => (.ofList pattern, body)
      else none

variable {α : Type}

def serve (packages : List String) (req : Request) (decode : Decoder α) (text : String) :
    Option (String × List (Event α)) :=
  (readRegistration text).bind fun x =>
    (run packages req decode x.2).map fun events => (x.1, events)

variable {h : Handler}

lemma readRegistration_registration (hh : h.IsSpelled) (hhttp : h.package ≠ "http") (r : Route) :
    readRegistration (registration r h) = some (r.text, body h) := by
  have hlines : linesOf (registration r h) = (RouteTable.registrationMark ++
      (quoteChars r.text.toList ++ ", func(w http.ResponseWriter, r *http.Request) \x7b".toList)) ::
        ((statementLines 2 (body h)).map String.toList ++ ["\t\x7d)".toList]) := by
    have hlines := @Framework.linesOf_registration .params r h hh.isNamed
    rwa [Framework.furtherLines, List.map_append, List.map_singleton] at hlines
  have hbody := readStatements_statementLines (areReadable_body hh hhttp) 2
  simp only [readRegistration, hlines, dropStart?_append, Option.bind_some, cutLiteral?_quoteChars,
    List.getLast?_concat, and_self, if_true, unquote?_quoteChars, List.dropLast_concat, hbody,
    Option.map_some, String.ofList_toList]

lemma readRegistration_declaresOnce_iff (hh : h.IsSpelled) (hhttp : h.package ≠ "http")
    (r : Route) : (∃ pattern statements,
      readRegistration (registration r h) = some (pattern, statements) ∧
        DeclaresOnce ["w", "r"] statements) ↔ (h.params.map Param.name).Nodup := by
  rw [readRegistration_registration hh hhttp, ← declaresOnce_body_iff]
  constructor
  · rintro ⟨_, _, hread, honce⟩
    obtain ⟨-, rfl⟩ := Prod.mk.inj (Option.some.inj hread)
    exact honce
  · exact fun honce => ⟨_, _, rfl, honce⟩

variable {packages : List String} {req : Request} {decode : Decoder α}

lemma serve_registration (hh : h.IsSpelled) (hhttp : h.package ≠ "http") (r : Route) :
    serve packages req decode (registration r h) =
      (run packages req decode (body h)).map fun events => (r.text, events) := by
  rw [serve, readRegistration_registration hh hhttp, Option.bind_some]

lemma Resolves.ne_http (hr : Resolves packages h) : h.package ≠ "http" := by
  have hnodup := hr.distinct
  rw [imports, List.cons_append, List.nodup_cons] at hnodup
  exact fun heq => hnodup.1 (heq ▸ List.mem_append_left _ (List.mem_singleton_self _))

theorem fails_fast (packages : List String) (req : Request) (decode : Decoder α) (r : Route)
    (h : Handler) (hh : h.IsPublic) (hne : h.params ≠ [])
    (hnames : (h.params.map Param.name).Nodup) (hr : Resolves packages h) :
    ((∀ p ∈ h.params, ¬p.Fails req decode h.package) →
        serve packages req decode (registration r h) =
          some (r.text, h.params.flatMap (Param.lookups req) ++
            [.called h.callExpr (h.params.map (Param.passed req decode h.package))])) ∧
      ∀ before p after, h.params = before ++ p :: after →
        (∀ q ∈ before, ¬q.Fails req decode h.package) →
          (p.IsMissing req → serve packages req decode (registration r h) =
            some (r.text, (before ++ [p]).flatMap (Param.lookups req) ++
              [.refused 418 ("param '" ++ p.name ++ "' is required\n")])) ∧
          (p.IsUndecodable req decode h.package → serve packages req decode (registration r h) =
            some (r.text, (before ++ [p]).flatMap (Param.lookups req) ++
              [.refused 418 ("param value " ++ p.raw req ++ " cannot be decoded into type " ++
                p.goType h.package ++ "\n")])) := by
  have hwell := isWellFormed_body hh hne hnames hr
  have hserve : serve packages req decode (registration r h) = _ :=
    serve_registration hh.toIsSpelled hr.ne_http r
  refine ⟨fun hpass => ?_, fun before p after hparams hbefore => ?_⟩
  · rw [hserve, run_of_passes hwell hnames hpass]
    rfl
  have hp : p ∈ h.params := by
    rw [hparams]
    exact List.mem_append_right _ List.mem_cons_self
  have hfails := fun hfail => run_of_fails hwell hparams
    (isPlainText_of_go (hh.param p hp)) hnames hbefore hfail
  refine ⟨fun hmissing => ?_, fun hundecodable => ?_⟩
  · have hcomplaint : p.complaint? req h.package = some _ := if_pos hmissing.2
    rw [hserve, hfails (.inl hmissing), hcomplaint]
    rfl
  · rw [hserve, hfails (.inr hundecodable),
      complaint?_of_present hundecodable.1 (hh.isPlainText_goType hp)]
    rfl

def sampleHandler : Handler :=
  ⟨"app/items", "items", "Find",
    [⟨"id", .ident "int", true, .auto⟩, ⟨"tag", .pointer (.ident "Tag"), false, .header⟩]⟩

def sampleRequest (header : String) : Request :=
  ⟨fun _ => "", fun key => if key = "id" then "7" else "", fun _ => header⟩

def sampleDecoder : Decoder Nat :=
  fun type text => if type = "int" ∧ text = "7" then some 7 else none

lemma sampleHandler_isPublic : sampleHandler.IsPublic where
  package := isName_of_ascii (by decide) (by decide)
  name := isIdentifier_of_ascii (by decide)
  param := List.forall_mem_cons.mpr ⟨isIdentifier_of_ascii (by decide),
    List.forall_mem_singleton.mpr (isIdentifier_of_ascii (by decide))⟩
  type := List.forall_mem_cons.mpr ⟨⟨"int", .inl rfl, isIdentifier_of_ascii (by decide)⟩,
    List.forall_mem_singleton.mpr ⟨"Tag", .inr rfl, isIdentifier_of_ascii (by decide)⟩⟩
  exported := by decide +kernel
  usable := by
    refine List.forall_mem_cons.mpr ⟨fun type htype => .inl ?_,
      List.forall_mem_singleton.mpr fun type htype => .inr ?_⟩
    · rcases htype with htype | htype
      · obtain rfl := TypeExpr.ident.inj htype
        decide
      · cases htype
    · rcases htype with htype | htype
      · cases htype
      · obtain rfl := TypeExpr.ident.inj (TypeExpr.pointer.inj htype)
        decide +kernel

theorem sample_serves : sampleHandler.IsPublic ∧
    Resolves ["http", "json", "items"] sampleHandler ∧
    serve ["http", "json", "items"] (sampleRequest "") sampleDecoder
        (registration ⟨.get, "/items"⟩ sampleHandler) =
      some ("GET /items", [.pathValue "id", .queryValue "id", .headerValue "tag",
        .called "items.Find" [.value (.decoded 7), .pointer (.zero "items.Tag")]]) ∧
    serve ["http", "json", "items"] (sampleRequest "?") sampleDecoder
        (registration ⟨.get, "/items"⟩ sampleHandler) =
      some ("GET /items", [.pathValue "id", .queryValue "id", .headerValue "tag",
        .refused 418 "param value ? cannot be decoded into type items.Tag\n"]) := by
  have hresolves : Resolves ["http", "json", "items"] sampleHandler :=
    ⟨by decide, by decide, by decide, by decide⟩
  have hserves := fun header => fails_fast ["http", "json", "items"] (sampleRequest header)
    sampleDecoder ⟨.get, "/items"⟩ sampleHandler sampleHandler_isPublic (by decide) (by decide)
    hresolves
  refine ⟨sampleHandler_isPublic, hresolves, ?_, ?_⟩
  · have hpass : ∀ p ∈ sampleHandler.params,
        ¬p.Fails (sampleRequest "") sampleDecoder sampleHandler.package := by
      decide +kernel
    rw [(hserves "").1 hpass]
    rfl
  · have hid : ∀ q ∈ [(⟨"id", .ident "int", true, .auto⟩ : Param)],
        ¬q.Fails (sampleRequest "?") sampleDecoder "items" := by
      decide +kernel
    have htag : Param.IsUndecodable (sampleRequest "?") sampleDecoder "items"
        ⟨"tag", .pointer (.ident "Tag"), false, .header⟩ :=
      ⟨by decide, by decide, rfl⟩
    rw [((hserves "?").2 _ _ [] rfl hid).2 htag]
    rfl

/-- Without parameters, nothing uses the variable of the faults. -/
def plainHandler : Handler :=
  ⟨"app/items", "items", "List", []⟩

/-- The variable of the faults hides the package. -/
def hiddenHandler : Handler :=
  ⟨"app/errS", "errS", "Find", [⟨"id", .ident "string", true, .query⟩]⟩

/-- No other package can name the type of the parameter. -/
def privateHandler : Handler :=
  ⟨"app/items", "items", "Find", [⟨"id", .pointer (.ident "item"), false, .path⟩]⟩

lemma isSpelled_of_refused : ∀ h ∈ [plainHandler, hiddenHandler, privateHandler],
    h.IsSpelled ∧ h.package ≠ "http" := by
  have hnames : ∀ h ∈ [plainHandler, hiddenHandler, privateHandler],
      isAsciiIdentifier h.package.toList = true ∧ h.package ∉ "_" :: Lexeme.keywords ∧
        isAsciiIdentifier h.name.toList = true ∧
        (∀ p ∈ h.params, isAsciiIdentifier p.name.toList = true) ∧ h.package ≠ "http" := by
    decide
  have htypes : ∀ h ∈ [plainHandler, hiddenHandler, privateHandler], ∀ p ∈ h.params,
      ∃ type, p.type.Names type ∧ isIdentifier type.toList = true := by
    simp only [List.mem_cons, List.not_mem_nil, or_false, forall_eq_or_imp, forall_eq]
    refine ⟨by simp [plainHandler], List.forall_mem_singleton.mpr ?_,
      List.forall_mem_singleton.mpr ?_⟩
    · exact ⟨"string", .inl rfl, isIdentifier_of_ascii (by decide)⟩
    · exact ⟨"item", .inr rfl, isIdentifier_of_ascii (by decide)⟩
  intro h hh
  obtain ⟨hpackage, hkeyword, hname, hparams, hhttp⟩ := hnames h hh
  exact ⟨⟨isName_of_ascii hpackage hkeyword, isIdentifier_of_ascii hname,
    fun p hp => isIdentifier_of_ascii (hparams p hp), htypes h hh⟩, hhttp⟩

/-- Whether the handler ought to be called, and Go has no meaning for the registration. -/
structure IsRefused (h : Handler) : Prop where
  param : ∀ p ∈ h.params, isIdentifier p.name.toList = true
  nodup : (h.params.map Param.name).Nodup
  passes : ∀ p ∈ h.params, ¬p.Fails (sampleRequest "") sampleDecoder h.package
  read : readRegistration (registration ⟨.get, "/items"⟩ h) = some ("GET /items", body h)
  serve_eq : serve ["http", "json", h.package] (sampleRequest "") sampleDecoder
    (registration ⟨.get, "/items"⟩ h) = none

theorem refused_by_the_language :
    IsRefused plainHandler ∧ IsRefused hiddenHandler ∧ IsRefused privateHandler := by
  have hpass : ∀ h ∈ [plainHandler, hiddenHandler, privateHandler],
      (∀ p ∈ h.params, ¬p.Fails (sampleRequest "") sampleDecoder h.package) ∧
      (h.params.map Param.name).Nodup ∧
      isWellFormed ["http", "json", h.package] (body h) = false := by
    decide +kernel
  have hrefused : ∀ h ∈ [plainHandler, hiddenHandler, privateHandler], IsRefused h := by
    intro h hh
    obtain ⟨hspelled, hhttp⟩ := isSpelled_of_refused h hh
    obtain ⟨hparams, hnames, hwell⟩ := hpass h hh
    refine ⟨hspelled.param, hnames, hparams, readRegistration_registration hspelled hhttp _, ?_⟩
    rw [serve_registration hspelled hhttp, run, if_neg (by simp [hwell])]
    rfl
  simpa only [List.mem_cons, List.not_mem_nil, or_false, forall_eq_or_imp, forall_eq] using hrefused

end Verifier

end Routewright
