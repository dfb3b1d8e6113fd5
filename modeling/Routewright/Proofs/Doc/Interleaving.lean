import Routewright.Proofs.Doc.Dispatch
import Routewright.Proofs.Doc.Placement

namespace Routewright

open Text

namespace Attribute

def name? (line : String) : Option String :=
  match trim (line.toList.dropWhile (· == '/')) with
  | '@' :: r => some (.ofList (lowercase ((((fields 2 ('@' :: r))[0]?).getD []).drop 1)))
  | _ => none

variable {markdown : Option MarkdownDirectory} {line lower name : String} {text : List Char}
  {c : Change} {change : Option Change}

lemma Says.route?_isSome (h : Says markdown line name text lower c) :
    c.route?.isSome = decide (lower = "router") := by
  cases h with
  | respond hlower _ =>
    have hne : ∀ n ∈ ["success", "failure", "response"], n ≠ "router" := by
      decide
    simp [Change.route?, hne lower hlower]
  | extend hlower _ _ | note hlower _ =>
    have hne : lower ≠ "router" := by
      rintro rfl
      exact hlower (by decide)
    simp [Change.route?, hne]
  | _ => simp [Change.route?]

lemma route?_isSome_of_ofLine (h : ofLine markdown line = .ok change) :
    (change.bind Change.route?).isSome = decide (name? line = some "router") := by
  unfold ofLine at h
  split at h
  · rename_i r hr
    have hname : name? line =
        some (.ofList (lowercase ((((fields 2 ('@' :: r))[0]?).getD []).drop 1))) := by
      simp only [name?, hr]
    obtain ⟨c, hc, rfl⟩ := except_map_eq_ok_iff.mp h
    simp only [hname, Option.bind_some, Option.some.injEq]
    exact (says_of_change hc).route?_isSome
  · rename_i hr
    obtain rfl := Except.ok.inj h
    have hname : name? line = none := by
      unfold name?
      split
      · rename_i r heq
        exact absurd heq (hr r)
      · rfl
    rw [hname]
    rfl

end Attribute

lemma Change.route?_eq_some_iff {c : Change} {r : Route} : c.route? = some r ↔ c = .route r := by
  cases c <;> simp [route?]

namespace HandlerDoc

def routerLines (lines : List String) : List String :=
  (attributeLines lines).filter fun l => Attribute.name? (trimmed l) = some "router"

/-- The routes of the decorators come first, then the ones of the router lines, each in the order of
the lines. -/
def RoutesInOrder (markdown : Option MarkdownDirectory) (lines : List String)
    (routes : List Route) : Prop :=
  ∃ dss declared routed,
    List.Forall₂ (fun l ds => Decorator.ofLine (trimmed l) = .ok ds) (decoratorLines lines) dss ∧
    List.Forall₂ (fun d r => d.route = .ok r) (dss.flatten.filter (·.name == "path")) declared ∧
    List.Forall₂ (fun l r => Attribute.ofLine markdown (trimmed l) = .ok (some (.route r)))
      (routerLines lines) routed ∧
    routes = declared ++ routed

section Routes

variable {markdown : Option MarkdownDirectory} {lines : List String} {doc : HandlerDoc}
  {changes : List (Option Change)}

lemma forall₂_filter_router
    (h : List.Forall₂ (fun l change => Attribute.ofLine markdown (trimmed l) = .ok change)
      lines changes) :
    List.Forall₂ (fun l r => Attribute.ofLine markdown (trimmed l) = .ok (some (.route r)))
      (lines.filter fun l => Attribute.name? (trimmed l) = some "router")
      (changes.reduceOption.filterMap Change.route?) := by
  induction h with
  | nil => exact .nil
  | @cons line change lines changes hchange _ ih =>
    have hroute := Attribute.route?_isSome_of_ofLine hchange
    have hadded : ((change :: changes).reduceOption).filterMap Change.route? =
        (change.bind Change.route?).toList ++ changes.reduceOption.filterMap Change.route? := by
      cases change with
      | none => rfl
      | some c =>
        rw [List.reduceOption_cons_of_some, List.filterMap_cons]
        cases hc : c.route? <;> simp [hc]
    rw [hadded, List.filter_cons]
    cases hr : change.bind Change.route? with
    | none =>
      rw [hr, Option.isSome_none] at hroute
      rw [if_neg (by rw [← hroute]; simp)]
      exact ih
    | some r =>
      rw [hr, Option.isSome_some] at hroute
      obtain ⟨c, rfl, hc⟩ := Option.bind_eq_some_iff.mp hr
      rw [if_pos hroute.symm]
      rw [Change.route?_eq_some_iff.mp hc] at hchange
      exact .cons hchange ih

lemma routes_inOrder (h : ofLines markdown lines = .ok doc) :
    RoutesInOrder markdown lines doc.routes := by
  obtain ⟨dss, changes, declared, hdss, hchanges, hdeclared, rfl⟩ := ofLines_eq_ok_iff.mp h
  refine ⟨dss, declared, _, hdss, hdeclared, forall₂_filter_router hchanges, ?_⟩
  exact congrArg (declared ++ ·) (Operation.applyAll_routes changes)

lemma empty_of_not_recognized (h : ofLines markdown lines = .ok doc)
    (hnot : doc.recognized = false) : doc.routes = [] ∧ doc.sources = ∅ := by
  obtain ⟨dss, changes, declared, -, -, hdeclared, rfl⟩ := ofLines_eq_ok_iff.mp h
  simp only [assembled, Draft.extended, Bool.false_or, Bool.or_eq_false_iff, List.any_eq_false]
    at hnot
  obtain ⟨hdss, hchanges⟩ := hnot
  have hdecorators : dss.flatten = [] :=
    List.flatten_eq_nil_iff.mpr fun ds hds => by simpa using hdss ds hds
  have hnotes : ∀ c ∈ changes.reduceOption, c.route? = none ∧ c.param? = none := by
    intro c hc
    have hrecognized := hchanges (some c) (List.reduceOption_mem_iff.mp hc)
    cases c with
    | note name text => exact ⟨rfl, rfl⟩
    | _ => exact absurd rfl hrecognized
  have hroutes : changes.reduceOption.filterMap Change.route? = [] :=
    List.filterMap_eq_nil_iff.mpr fun c hc => (hnotes c hc).1
  have hparams : changes.reduceOption.filterMap Change.param? = [] :=
    List.filterMap_eq_nil_iff.mpr fun c hc => (hnotes c hc).2
  have hnone : declared = [] := by
    rw [hdecorators] at hdeclared
    exact List.forall₂_nil_left_iff.mp hdeclared
  constructor
  · simp [assembled, Draft.extended, Operation.applyAll_routes, hroutes, hnone]
  · simp only [assembled, Draft.extended, Operation.applyAll_params, hparams]
    rfl

end Routes

section Interleaving

variable {markdown : Option MarkdownDirectory} {lines lines' : List String}

lemma ofLines_congr (hdecorators : decoratorLines lines = decoratorLines lines')
    (hattributes : attributeLines lines = attributeLines lines') (doc : HandlerDoc) :
    ofLines markdown lines = .ok doc ↔ ofLines markdown lines' = .ok doc := by
  rw [ofLines_eq_ok_iff, ofLines_eq_ok_iff, hdecorators, hattributes]

theorem ofLines_interleaved (hdecorators : decoratorLines lines = decoratorLines lines')
    (hattributes : attributeLines lines = attributeLines lines') :
    (∀ doc, ofLines markdown lines = .ok doc ↔ ofLines markdown lines' = .ok doc) ∧
      ((∃ failure, ofLines markdown lines = .error failure) ↔
        ∃ failure, ofLines markdown lines' = .error failure) ∧
      ∀ doc, ofLines markdown lines = .ok doc → RoutesInOrder markdown lines doc.routes ∧
        (doc.recognized = false → doc.routes = [] ∧ doc.sources = ∅) := by
  have hcongr : ∀ doc, ofLines markdown lines = .ok doc ↔ ofLines markdown lines' = .ok doc :=
    ofLines_congr hdecorators hattributes
  refine ⟨hcongr, ?_, fun doc h => ⟨routes_inOrder h, empty_of_not_recognized h⟩⟩
  cases h : ofLines markdown lines with
  | ok doc => simp [(hcongr doc).mp h]
  | error failure =>
    cases h' : ofLines markdown lines' with
    | ok doc =>
      rw [(hcongr doc).mpr h'] at h
      cases h
    | error failure' => exact ⟨fun _ => ⟨failure', rfl⟩, fun _ => ⟨failure, rfl⟩⟩

theorem ofLines_interleaved_router :
    let lines := ["@Router /b [POST]", "@path(\"GET\", \"/a\")"]
    let lines' := ["@path(\"GET\", \"/a\")", "@Router /b [POST]"]
    decoratorLines lines = decoratorLines lines' ∧ attributeLines lines = attributeLines lines' ∧
      ∃ doc, ofLines none lines = .ok doc ∧ ofLines none lines' = .ok doc ∧
        doc.routes = [⟨.get, "/a"⟩, ⟨.post, "/b"⟩] := by
  intro lines lines'
  have hdecorators : decoratorLines lines = ["@path(\"GET\", \"/a\")"] := by
    decide +kernel
  have hattributes : attributeLines lines = ["@Router /b [POST]"] := by
    decide +kernel
  have hdecorators' : decoratorLines lines = decoratorLines lines' := by
    decide +kernel
  have hattributes' : attributeLines lines = attributeLines lines' := by
    decide +kernel
  have hpath : Decorator.ofLine (trimmed "@path(\"GET\", \"/a\")") =
      .ok [⟨"path", ["GET", "/a"]⟩] :=
    Decorator.ofLine_text (d := ⟨"path", ["GET", "/a"]⟩) (by decide)
  have hrouter : Attribute.ofLine none (trimmed "@Router /b [POST]") =
      .ok (some (.route ⟨.post, "/b"⟩)) :=
    Attribute.ofLine_route (r := ⟨.post, "/b"⟩) (by decide +kernel)
  have hdoc : ofLines none lines =
      .ok (assembled [[⟨"path", ["GET", "/a"]⟩]] [some (.route ⟨.post, "/b"⟩)] [⟨.get, "/a"⟩]) := by
    refine ofLines_eq_ok_iff.mpr ⟨_, _, _, ?_, ?_, .cons (by decide +kernel) .nil, rfl⟩
    · rw [hdecorators]
      exact .cons hpath .nil
    · rw [hattributes]
      exact .cons hrouter .nil
  exact ⟨hdecorators', hattributes', _, hdoc,
    ((ofLines_interleaved hdecorators' hattributes').1 _).mp hdoc, rfl⟩

end Interleaving

end HandlerDoc

end Routewright
