import Routewright.Proofs.Doc.Accumulation
import Routewright.Proofs.Text.Lowercase

namespace Routewright

open Text

namespace Attribute

@[mk_iff]
structure IsMediaType (s : List Char) : Prop extends IsItem s where
  one_slash : s.count '/' = 1
  not_first : s.head? ≠ some '/'
  not_last : s.getLast? ≠ some '/'

instance (s : List Char) : Decidable (IsMediaType s) :=
  decidable_of_iff' _ (isMediaType_iff s)

structure IsExtensionName (name : String) : Prop where
  start : "x-".toList <+: name.toList
  ne : name ≠ "x-codesamples"
  lowered : ∀ c ∈ name.toList, isBlank c = false ∧ c.isUpper = false

structure IsRequirement (schemes : Dict (List String)) : Prop where
  keys_ne : schemes.keys ≠ []
  scopes : ∀ scopes ∈ schemes.values, ∀ scope ∈ scopes, IsItem scope.toList

end Attribute

open Attribute

structure OperationParam.IsWellFormed (p : OperationParam) : Prop where
  location : p.location.name ∈ ["query", "path", "header", "body", "formData"]
  name : IsField p.name.toList
  dataType : IsField p.dataType.toList

structure Route.IsWellFormed (r : Route) : Prop where
  method : r.method.name ∈ ["GET", "POST", "PUT", "DELETE", "PATCH", "OPTIONS", "HEAD"]
  head_eq : r.path.toList.head? = some '/'
  path : ∀ c ∈ r.path.toList, isBlank c = false ∧ c ≠ '\x22'

structure Operation.IsWellFormed (op : Operation) : Prop where
  tags : ∀ tag ∈ op.tags, IsItem tag.toList
  accept : ∀ mime ∈ op.accept, IsMediaType mime.toList
  produce : ∀ mime ∈ op.produce, IsMediaType mime.toList
  params : ∀ p ∈ op.params, p.IsWellFormed
  routes : ∀ r ∈ op.routes, r.IsWellFormed
  security : ∀ schemes ∈ op.security, IsRequirement schemes
  extensions : ∀ name ∈ op.extensions.keys, IsExtensionName name

def Change.IsWellFormed : Change → Prop
  | .tag tags => ∀ tag ∈ tags, IsItem tag.toList
  | .accept types => ∀ mime ∈ types, IsMediaType mime.toList
  | .produce types => ∀ mime ∈ types, IsMediaType mime.toList
  | .param p => p.IsWellFormed
  | .route r => r.IsWellFormed
  | .secure alternatives => ∀ schemes ∈ alternatives, IsRequirement schemes
  | .extend name _ => IsExtensionName name
  | _ => True

namespace Attribute

variable {markdown : Option MarkdownDirectory} {comment line : String} {text item : List Char}
  {mime : String} {types : List String} {p : OperationParam} {r : Route} {c : Change}

lemma isMediaType_aliases : ∀ a ∈ mimeAliases, IsMediaType a.2.toList := by
  decide +kernel

lemma isMediaType_of_mimeType (hitem : IsItem item) (h : mimeType item = .ok mime) :
    IsMediaType mime.toList := by
  unfold mimeType at h
  split at h
  · rename_i found hlookup
    obtain rfl := Except.ok.inj h
    obtain ⟨before, behind, heq, -⟩ := List.lookup_eq_some_iff.mp hlookup
    exact isMediaType_aliases (_, found) (heq ▸ List.mem_append_right before List.mem_cons_self)
  · split_ifs at h with hmime
    rw [← Except.ok.inj h, String.toList_ofList]
    simp only [isMime, Bool.and_eq_true, beq_iff_eq, bne_iff_ne] at hmime
    exact ⟨hitem, hmime.1.1, hmime.1.2, hmime.2⟩

lemma isMediaType_of_mimeTypes (h : mimeTypes text = .ok types) (hmime : mime ∈ types) :
    IsMediaType mime.toList := by
  obtain ⟨item, hitem, h⟩ := exists_of_mem_mapM h hmime
  exact isMediaType_of_mimeType (isItem_of_mem_commaList hitem) h

lemma isItem_of_mem_map_commaList {x : String} (h : x ∈ (commaList text).map String.ofList) :
    IsItem x.toList := by
  obtain ⟨item, hitem, rfl⟩ := List.mem_map.mp h
  rw [String.toList_ofList]
  exact isItem_of_mem_commaList hitem

lemma isField_of_spanField? {word rest : List Char} (h : spanField? text = some (word, rest)) :
    IsField word := by
  unfold spanField? at h
  dsimp only at h
  split_ifs at h with hempty
  obtain ⟨rfl, -⟩ := Prod.mk.inj (Option.some.inj h)
  simp only [Bool.or_eq_true, List.isEmpty_iff, not_or] at hempty
  exact ⟨hempty.1, fun c hc => by simpa using List.mem_takeWhile_imp hc⟩

lemma isField_of_paramWords? {w : ParamWords} (h : paramWords? text = some w) :
    IsField w.name ∧ IsField w.dataType := by
  unfold paramWords? at h
  obtain ⟨⟨name, r⟩, hname, h⟩ := Option.bind_eq_some_iff.mp h
  obtain ⟨⟨location, r⟩, -, h⟩ := Option.bind_eq_some_iff.mp h
  obtain ⟨⟨dataType, r⟩, hdataType, h⟩ := Option.bind_eq_some_iff.mp h
  obtain ⟨⟨required, r⟩, -, h⟩ := Option.bind_eq_some_iff.mp h
  dsimp only at h
  split at h
  · split at h
    · split_ifs at h
      rw [← Option.some.inj h]
      exact ⟨isField_of_spanField? hname, isField_of_spanField? hdataType⟩
    · cases h
  · cases h

lemma isWellFormed_of_param (h : param text = .ok p) : p.IsWellFormed := by
  obtain ⟨w, hw, hname, -, hdataType⟩ := words_of_param h
  obtain ⟨hnameField, hdataTypeField⟩ := isField_of_paramWords? hw
  have hlocation : ∀ location : Location,
      location.name ∈ ["query", "path", "header", "body", "formData"] := by
    rintro ⟨⟩ <;> decide
  refine ⟨hlocation p.location, ?_, ?_⟩
  · rwa [hname, String.toList_ofList]
  · rwa [hdataType, String.toList_ofList]

lemma isPathChar_quote : isPathChar '\x22' = false := by
  rw [isPathChar, isWord_of_ascii (by decide)]
  decide

lemma path_of_routeWords? {path word : List Char} (h : routeWords? text = some (path, word)) :
    path.head? = some '/' ∧ ∀ c ∈ path, isPathChar c = true := by
  unfold routeWords? at h
  dsimp only at h
  split at h
  · split_ifs at h with hroute
    obtain ⟨rfl, rfl⟩ := Prod.mk.inj (Option.some.inj h)
    exact ⟨hroute.1, fun c hc => List.mem_takeWhile_imp hc⟩
  · cases h

lemma isWellFormed_of_route (h : route line text = .ok r) : r.IsWellFormed := by
  unfold route at h
  split at h
  · cases h
  · rename_i path word hwords
    obtain ⟨m, -, rfl⟩ := except_map_eq_ok_iff.mp h
    obtain ⟨hhead, hpath⟩ := path_of_routeWords? hwords
    have hne : path ≠ [] := by
      rintro rfl
      cases hhead
    have hmethod : ∀ m : Method,
        m.name ∈ ["GET", "POST", "PUT", "DELETE", "PATCH", "OPTIONS", "HEAD"] := by
      rintro ⟨⟩ <;> decide
    refine ⟨hmethod m, by rwa [String.toList_ofList], ?_⟩
    rw [String.toList_ofList]
    intro c hc
    refine ⟨(isField_of_isPathChar hne hpath).not_blank c hc, ?_⟩
    rintro rfl
    exact absurd (hpath _ hc) (by simp [isPathChar_quote])

lemma isItem_of_scheme {e : String × List String} (h : scheme text = .ok e) :
    ∀ scope ∈ e.2, IsItem scope.toList := by
  unfold scheme at h
  split at h
  · cases h
  · rename_i found hfound
    obtain rfl := Except.ok.inj h
    unfold scheme? at hfound
    dsimp only at hfound
    split_ifs at hfound
    split at hfound
    · rw [← Option.some.inj hfound]
      exact List.forall_mem_nil _
    · split_ifs at hfound
      rw [← Option.some.inj hfound]
      exact fun scope hscope => isItem_of_mem_map_commaList hscope
    · cases hfound

lemma isRequirement_of_security {alternatives : List (Dict (List String))}
    {schemes : Dict (List String)} (h : security text = .ok alternatives)
    (hmem : schemes ∈ alternatives) : IsRequirement schemes := by
  obtain ⟨alternative, -, h⟩ := exists_of_mem_mapM h hmem
  obtain ⟨found, hfound, rfl⟩ := except_map_eq_ok_iff.mp h
  have hne : found ≠ [] := by
    rintro rfl
    have hlength := (except_mapM_eq_ok_iff.mp hfound).length_eq
    exact splitOnPair_ne_nil '&' alternative (List.length_eq_zero_iff.mp hlength)
  constructor
  · obtain ⟨e, he⟩ := List.exists_mem_of_ne_nil found hne
    exact List.ne_nil_of_mem ((Dict.mem_keys_iff ..).mpr (Dict.exists_get?_ofList he))
  · intro scopes hscopes
    obtain ⟨e, he, rfl⟩ := List.mem_map.mp hscopes
    refine Dict.forall_mem_ofList (p := fun _ scopes => ∀ scope ∈ scopes, IsItem scope.toList)
      (fun e he => ?_) e.1 e.2 ((Dict.mem_entries_iff ..).mp he)
    obtain ⟨piece, -, h⟩ := exists_of_mem_mapM hfound he
    exact isItem_of_scheme h

lemma isLowered_of_parts? {p : Parts} (h : parts? comment = some p) :
    ∀ c ∈ p.lower.toList, IsLowered c := by
  unfold parts? at h
  split at h
  · rename_i r hline
    rw [← Option.some.inj h]
    dsimp only
    rw [String.toList_ofList, fields_cons (by decide) r (by decide),
      List.takeWhile_cons_of_pos (by decide)]
    exact fun c hc => isLowered_of_mem_lowercase
      (fun d hd => by simpa using List.mem_takeWhile_imp hd) hc
  · cases h

lemma isExtensionName {lower : String} (hlower : lower ∉ knownNames)
    (hextension : "x-".toList.isPrefixOf lower.toList = true)
    (hlowered : ∀ c ∈ lower.toList, IsLowered c) : IsExtensionName lower := by
  refine ⟨List.isPrefixOf_iff_prefix.mp hextension, ?_, hlowered⟩
  rintro rfl
  exact hlower (by decide)

lemma isWellFormed_of_ofLine (h : ofLine markdown comment = .ok (some c)) : c.IsWellFormed := by
  obtain ⟨-, hnone⟩ | ⟨⟨line, lower, name, text⟩, c', hp, hsays, hsome⟩ := ofLine_cases h
  · cases hnone
  · obtain rfl := Option.some.inj hsome
    have hlowered := isLowered_of_parts? hp
    cases hsays with
    | tag => exact fun tag htag => isItem_of_mem_map_commaList htag
    | accept htypes => exact fun mime hmime => isMediaType_of_mimeTypes htypes hmime
    | produce htypes => exact fun mime hmime => isMediaType_of_mimeTypes htypes hmime
    | param hparam => exact isWellFormed_of_param hparam
    | route hroute => exact isWellFormed_of_route hroute
    | secure hall => exact fun schemes hschemes => isRequirement_of_security hall hschemes
    | extend hlower hextension => exact isExtensionName hlower hextension hlowered
    | _ => trivial

end Attribute

namespace Operation

variable {op : Operation} {c : Change}

lemma isWellFormed_default : ({} : Operation).IsWellFormed where
  tags := List.forall_mem_nil _
  accept := List.forall_mem_nil _
  produce := List.forall_mem_nil _
  params := List.forall_mem_nil _
  routes := List.forall_mem_nil _
  security := List.forall_mem_nil _
  extensions := List.forall_mem_nil _

lemma IsWellFormed.apply (h : op.IsWellFormed) (hc : c.IsWellFormed) :
    (op.apply c).IsWellFormed := by
  cases c with
  | tag tags => exact { h with tags := List.forall_mem_append.mpr ⟨h.tags, hc⟩ }
  | accept types => exact { h with accept := List.forall_mem_append.mpr ⟨h.accept, hc⟩ }
  | produce types => exact { h with produce := List.forall_mem_append.mpr ⟨h.produce, hc⟩ }
  | param p =>
    exact { h with
      params := List.forall_mem_append.mpr ⟨h.params, List.forall_mem_singleton.mpr hc⟩ }
  | route r =>
    exact { h with
      routes := List.forall_mem_append.mpr ⟨h.routes, List.forall_mem_singleton.mpr hc⟩ }
  | secure alternatives =>
    exact { h with security := List.forall_mem_append.mpr ⟨h.security, hc⟩ }
  | extend name value =>
    refine { h with extensions := fun other hother => ?_ }
    rw [Operation.apply, Dict.mem_keys_iff, ← Dict.contains_iff, Dict.contains_insert] at hother
    rcases hother with rfl | hother
    · exact hc
    · exact h.extensions other ((Dict.mem_keys_iff ..).mpr ((Dict.contains_iff ..).mp hother))
  | header codes name value => cases codes <;> exact { h with }
  | _ => exact { h with }

theorem accumulate_isWellFormed (markdown : Option MarkdownDirectory) (lines : List String) :
    (accumulate markdown {} lines).IsWellFormed :=
  accumulate_induction isWellFormed_default
    (fun _ _ _ hline hop => hop.apply (isWellFormed_of_ofLine hline)) lines

-- A list with empty items, a list of which one item is refused, and a name with a Kelvin sign.
example :
    let op := accumulate none {} ["@Tags a, ,b c,", "@Produce json,/html", "@Accept json,image/webp",
      "@Security Key && OAuth[read, ,write] || Basic", "@X-\u212aEY 1", "@X-codeSamples 2"]
    op.tags = ["a", "b c"] ∧ op.produce = [] ∧ op.accept = ["application/json", "image/webp"] ∧
      op.security.map (·.entries) = [[("Key", []), ("OAuth", ["read", "write"])], [("Basic", [])]] ∧
      op.extensions.keys = ["x-key"] := by
  decide +kernel

end Operation

end Routewright
