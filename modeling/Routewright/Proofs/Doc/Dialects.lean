import Routewright.Proofs.Doc.Placement

namespace Routewright

open Text

lemma Attribute.method_of_named {word : String} {m : Method} (h : isName word.toList = true)
    (hm : Method.ofName? (.ofList (asciiUppercase word.toList)) = some m) :
    method word.toList = .ok m := by
  rw [method, (isField_of_isName h).trim_eq, hm]

lemma Attribute.method_of_unnamed {word : String} (h : isName word.toList = true)
    (hm : Method.ofName? (.ofList (asciiUppercase word.toList)) = none) :
    method word.toList = .error (.method word) := by
  rw [method, (isField_of_isName h).trim_eq, hm, String.ofList_toList]

lemma Attribute.trimmed_of_isPathChar {path : String}
    (h : ∀ c ∈ path.toList, isPathChar c = true) : trimmed path = path := by
  by_cases hne : path.toList = []
  · rw [String.toList_eq_nil_iff.mp hne]
    rfl
  · rw [trimmed, (isField_of_isPathChar hne h).trim_eq, String.ofList_toList]

namespace Route

variable {method path : String} {r : Route}

lemma ofWords_of_head (htrim : trimmed path = path) (hhead : path.toList.head? = some '/') :
    ofWords method path = (Attribute.method method.toList).map fun m => ⟨m, path⟩ := by
  rw [ofWords, htrim]
  cases Attribute.method method.toList with
  | error failure => rfl
  | ok m => exact if_pos hhead

lemma ofWords_eq_ok_iff : ofWords method path = .ok r ↔
    Attribute.method method.toList = .ok r.method ∧ r.path = trimmed path ∧
      r.path.toList.head? = some '/' := by
  rw [ofWords, except_bind_eq_ok_iff]
  constructor
  · rintro ⟨m, hm, h⟩
    dsimp only at h
    split_ifs at h with hhead
    obtain rfl := Except.ok.inj h
    exact ⟨hm, rfl, hhead⟩
  · rintro ⟨hm, hpath, hhead⟩
    refine ⟨r.method, hm, ?_⟩
    dsimp only
    rw [← hpath, if_pos hhead]

lemma exists_error_of_relative (method : String) (htrim : trimmed path = path)
    (hhead : path.toList.head? ≠ some '/') : ∃ failure, ofWords method path = .error failure := by
  cases h : ofWords method path with
  | error failure => exact ⟨failure, rfl⟩
  | ok r =>
    obtain ⟨-, hpath, hslash⟩ := ofWords_eq_ok_iff.mp h
    rw [hpath, htrim] at hslash
    exact absurd hslash hhead

lemma ofWords_name_path (h : ofWords method path = .ok r) : ofWords r.method.name r.path = .ok r := by
  obtain ⟨-, hpath, hhead⟩ := ofWords_eq_ok_iff.mp h
  refine ofWords_eq_ok_iff.mpr ⟨Attribute.method_name r.method, ?_, hhead⟩
  rw [hpath, trimmed, trimmed, String.toList_ofList, trim_trim]

end Route

namespace HandlerDoc

variable {markdown : Option MarkdownDirectory} {line method path word : String}

lemma ofLines_singleton (line : String) :
    ofLines markdown [line] = readLine markdown {} line >>= complete := by
  rw [ofLines, List.foldlM_cons]
  simp only [List.foldlM_nil, bind_pure]

lemma routes_of_decorator (hline : Decorator.isLine (trimmed line).toList = true)
    (hds : Decorator.ofLine (trimmed line) = .ok [⟨"path", [method, path]⟩]) :
    (ofLines markdown [line]).map HandlerDoc.routes =
      (Route.ofWords method path).map fun r => [r] := by
  have hpath : ([⟨"path", [method, path]⟩] : List Decorator).filter (·.name == "path") =
      [⟨"path", [method, path]⟩] := by
    rfl
  have hroute : Decorator.route ⟨"path", [method, path]⟩ = Route.ofWords method path :=
    rfl
  rw [ofLines_singleton, readLine_of_decorators hline hds, except_ok_bind, complete,
    List.nil_append, hpath, List.mapM_cons, List.mapM_nil, hroute]
  cases Route.ofWords method path <;> rfl

lemma routes_of_attribute {route : Except Failure Route}
    (hline : Decorator.isLine (trimmed line).toList = false)
    (hchange : Attribute.ofLine markdown (trimmed line) = route.map fun r => some (.route r)) :
    (ofLines markdown [line]).map HandlerDoc.routes = route.map fun r => [r] := by
  have hread : readLine markdown {} line =
      route.map fun r => { recognized := true, operation := ({} : Operation).apply (.route r) } := by
    unfold readLine Operation.readLine
    dsimp only
    rw [if_neg (by simp [hline]), hchange]
    cases route <;> rfl
  rw [ofLines_singleton, hread]
  cases route <;> rfl

section Lines

def routerLine (path word : String) : String :=
  "@Router " ++ path ++ " [" ++ word ++ "]"

def pathLine (path word : String) : String :=
  "@path(" ++ Go.quote word ++ ", " ++ Go.quote path ++ ")"

lemma trimmed_of_ends {a b : Char} {inside : List Char} (hline : line.toList = a :: (inside ++ [b]))
    (ha : isBlank a = false) (hb : isBlank b = false) : trimmed line = line := by
  rw [trimmed, hline, Attribute.trim_of_ends ha hb, ← hline, String.ofList_toList]

lemma toList_routerText (path word : String) : (path ++ " [" ++ word ++ "]").toList =
    path.toList ++ ' ' :: '[' :: (word.toList ++ [']']) := by
  simp

lemma routerLine_eq (path word : String) :
    routerLine path word = Attribute.line "Router" (path ++ " [" ++ word ++ "]") := by
  have hne : path ++ " [" ++ word ++ "]" ≠ "" := by
    intro hempty
    have htext := toList_routerText path word
    rw [hempty] at htext
    simp at htext
  rw [routerLine, Attribute.line, if_neg hne, ← String.toList_inj]
  simp only [String.toList_append, String.append_assoc]
  rfl

lemma pathLine_eq (path word : String) :
    pathLine path word = Decorator.text ⟨"path", [word, path]⟩ := by
  have hargs : ", ".intercalate [Go.quote word, Go.quote path] =
      Go.quote word ++ ", " ++ Go.quote path := by
    rw [← String.toList_inj, String.toList_intercalate]
    simp [List.intercalate_cons_cons]
  rw [pathLine, Decorator.text, List.map_cons, List.map_singleton, hargs, ← String.toList_inj]
  simp

lemma trimmed_pathLine (path word : String) :
    trimmed (pathLine path word) = pathLine path word := by
  have hline : (pathLine path word).toList =
      '@' :: (("path(" ++ Go.quote word ++ ", " ++ Go.quote path).toList ++ [')']) := by
    simp [pathLine]
  exact trimmed_of_ends hline (by decide) (by decide)

lemma isLine_pathLine (path word : String) :
    Decorator.isLine (pathLine path word).toList = true := by
  have hline : (pathLine path word).toList =
      "@path(".toList ++ (Go.quote word ++ ", " ++ Go.quote path ++ ")").toList := by
    simp [pathLine]
  have hword : ∀ c ∈ "@path(".toList, (!isBlank c) = true := by
    decide
  rw [hline]
  refine Decorator.isLine_of_mem rfl ?_
  rw [List.takeWhile_append_of_pos hword]
  exact List.mem_append_left _ (by decide)

lemma trimmed_routerLine (path word : String) :
    trimmed (routerLine path word) = routerLine path word := by
  have hline : (routerLine path word).toList =
      '@' :: (("Router " ++ path ++ " [" ++ word).toList ++ [']']) := by
    simp [routerLine]
  exact trimmed_of_ends hline (by decide) (by decide)

lemma isLine_routerLine (path word : String) :
    Decorator.isLine (routerLine path word).toList = false := by
  have hline : (routerLine path word).toList =
      "@Router".toList ++ ' ' :: (path ++ " [" ++ word ++ "]").toList := by
    simp [routerLine]
  have hfield : IsField "@Router".toList := by
    decide
  rw [hline, Decorator.isLine, hfield.words_append]
  rfl

lemma routes_pathLine (markdown : Option MarkdownDirectory) (path word : String) :
    (ofLines markdown [pathLine path word]).map HandlerDoc.routes =
      (Route.ofWords word path).map fun r => [r] := by
  apply routes_of_decorator
  · rw [trimmed_pathLine]
    exact isLine_pathLine path word
  · rw [trimmed_pathLine, pathLine_eq]
    exact Decorator.ofLine_text (List.mem_singleton.mpr rfl)

lemma routes_routerLine (markdown : Option MarkdownDirectory) (hne : path.toList ≠ [])
    (hpath : ∀ c ∈ path.toList, Attribute.isPathChar c = true)
    (hword : Attribute.isName word.toList = true) :
    (ofLines markdown [routerLine path word]).map HandlerDoc.routes =
      (if path.toList.head? = some '/' then
        (Attribute.method word.toList).map fun m => ⟨m, path⟩
      else .error (.comment none (routerLine path word) .badRoute)).map fun r => [r] := by
  have htext : trim (path ++ " [" ++ word ++ "]").toList =
      (path ++ " [" ++ word ++ "]").toList := by
    rw [toList_routerText]
    exact Attribute.trim_route hne hpath _
  apply routes_of_attribute
  · rw [trimmed_routerLine]
    exact isLine_routerLine path word
  · rw [trimmed_routerLine, routerLine_eq,
      Attribute.ofLine_written "router" (by decide) htext, Attribute.change_router,
      toList_routerText, Attribute.route_append hne hpath hword, String.ofList_toList]
    split_ifs
    · cases Attribute.method word.toList <;> rfl
    · rfl

lemma ofLines_agree_of_head (hhead : path.toList.head? = some '/')
    (hpath : ∀ c ∈ path.toList, Attribute.isPathChar c = true)
    (hword : Attribute.isName word.toList = true) :
    (∃ m : Method, m.name = .ofList (asciiUppercase word.toList) ∧ ∃ doc doc',
      ofLines markdown [routerLine path word] = .ok doc ∧ doc.routes = [⟨m, path⟩] ∧
      ofLines markdown [pathLine path word] = .ok doc' ∧ doc'.routes = [⟨m, path⟩]) ∨
    ((∀ m : Method, m.name ≠ .ofList (asciiUppercase word.toList)) ∧
      ofLines markdown [routerLine path word] = .error (.method word) ∧
      ofLines markdown [pathLine path word] = .error (.method word)) := by
  have hne : path.toList ≠ [] := by
    intro hempty
    simp [hempty] at hhead
  have hrouter := routes_routerLine markdown hne hpath hword
  have hdecorator := routes_pathLine markdown path word
  rw [if_pos hhead] at hrouter
  rw [Route.ofWords_of_head (Attribute.trimmed_of_isPathChar hpath) hhead] at hdecorator
  cases hm : Method.ofName? (.ofList (asciiUppercase word.toList)) with
  | some m =>
    rw [Attribute.method_of_named hword hm] at hrouter hdecorator
    obtain ⟨doc, hdoc, hroutes⟩ := except_map_eq_ok_iff.mp hrouter
    obtain ⟨doc', hdoc', hroutes'⟩ := except_map_eq_ok_iff.mp hdecorator
    exact .inl ⟨m, Method.ofName?_eq_some_iff.mp hm, doc, doc', hdoc, hroutes, hdoc', hroutes'⟩
  | none =>
    rw [Attribute.method_of_unnamed hword hm] at hrouter hdecorator
    refine .inr ⟨fun m hname => ?_, except_map_eq_error_iff.mp hrouter,
      except_map_eq_error_iff.mp hdecorator⟩
    rw [Method.ofName?_eq_some_iff.mpr hname] at hm
    cases hm

lemma ofLines_refuse_relative (hne : path ≠ "") (hhead : path.toList.head? ≠ some '/')
    (hpath : ∀ c ∈ path.toList, Attribute.isPathChar c = true)
    (hword : Attribute.isName word.toList = true) :
    ∃ failure failure', ofLines markdown [routerLine path word] = .error failure ∧
      ofLines markdown [pathLine path word] = .error failure' := by
  have hrouter := routes_routerLine markdown (mt String.toList_eq_nil_iff.mp hne) hpath hword
  have hdecorator := routes_pathLine markdown path word
  obtain ⟨failure, hfailure⟩ := Route.exists_error_of_relative word
    (Attribute.trimmed_of_isPathChar hpath) hhead
  rw [if_neg hhead] at hrouter
  rw [hfailure] at hdecorator
  exact ⟨_, failure, except_map_eq_error_iff.mp hrouter, except_map_eq_error_iff.mp hdecorator⟩

end Lines

theorem ofLines_agree_on_routes :
    (∀ (markdown : Option MarkdownDirectory) (path word : String),
      path.toList.head? = some '/' → (∀ c ∈ path.toList, Attribute.isPathChar c = true) →
        Attribute.isName word.toList = true →
        (∃ m : Method, m.name = .ofList (asciiUppercase word.toList) ∧ ∃ doc doc',
          ofLines markdown [routerLine path word] = .ok doc ∧ doc.routes = [⟨m, path⟩] ∧
          ofLines markdown [pathLine path word] = .ok doc' ∧ doc'.routes = [⟨m, path⟩]) ∨
        ((∀ m : Method, m.name ≠ .ofList (asciiUppercase word.toList)) ∧
          ofLines markdown [routerLine path word] = .error (.method word) ∧
          ofLines markdown [pathLine path word] = .error (.method word))) ∧
      (∀ (markdown : Option MarkdownDirectory) (path word : String), path ≠ "" →
        path.toList.head? ≠ some '/' → (∀ c ∈ path.toList, Attribute.isPathChar c = true) →
          Attribute.isName word.toList = true →
          ∃ failure failure', ofLines markdown [routerLine path word] = .error failure ∧
            ofLines markdown [pathLine path word] = .error failure') ∧
      ∀ (method path : String) (r : Route), Route.ofWords method path = .ok r →
        Route.ofWords r.method.name r.path = .ok r :=
  ⟨fun _ _ _ => ofLines_agree_of_head, fun _ _ _ => ofLines_refuse_relative,
    fun _ _ _ => Route.ofWords_name_path⟩

theorem ofLines_agree_on_parcels : ∃ doc doc',
    ofLines none ["@Router /parcels/\x7bid\x7d [gEt]"] = .ok doc ∧
      ofLines none ["@path(\"gEt\", \"/parcels/\x7bid\x7d\")"] = .ok doc' ∧
        doc.routes = doc'.routes := by
  obtain ⟨hagree, -, -⟩ := ofLines_agree_on_routes
  have hchars : ∀ c ∈ "/parcels/\x7bid\x7d".toList, Attribute.isPathChar c = true := by
    decide +kernel
  rcases hagree none "/parcels/\x7bid\x7d" "gEt" (by decide) hchars (by decide +kernel) with
    ⟨m, -, doc, doc', hdoc, hroutes, hdoc', hroutes'⟩ | ⟨hnone, -⟩
  · exact ⟨doc, doc', hdoc, hdoc', hroutes.trans hroutes'.symm⟩
  · exact absurd (by decide) (hnone .get)

end HandlerDoc

end Routewright
