import Routewright.Proofs.Doc.Attributes
import Routewright.Proofs.Doc.Decorators
import Routewright.Proofs.Doc.Drafts
import Routewright.Proofs.Doc.Recognition

namespace Routewright

open Text

section Words

variable {s t : List Char}

lemma Decorator.isLine_of_mem (hat : s.head? = some '@')
    (hparen : '(' ∈ s.takeWhile (!isBlank ·)) : isLine s = true := by
  obtain ⟨r, rfl⟩ := List.head?_eq_some_iff.mp hat
  have hfield : IsField (('@' :: r).takeWhile (!isBlank ·)) :=
    ⟨List.ne_nil_of_mem hparen, fun c hc => by simpa using List.mem_takeWhile_imp hc⟩
  obtain ⟨u, ws, hwords⟩ := hfield.exists_words (('@' :: r).dropWhile (!isBlank ·))
  rw [List.takeWhile_append_dropWhile] at hwords
  rw [List.takeWhile_cons_of_pos (by decide)] at hwords hparen
  have hmem : '(' ∈ r.takeWhile (!isBlank ·) := by
    rcases List.mem_cons.mp hparen with heq | hmem
    · exact absurd heq (by decide)
    · exact hmem
  rw [isLine, hwords, List.head?_cons]
  simp [hmem]

lemma Decorator.head_of_ofLine_trimmed {line : String} {ds : List Decorator}
    (h : ofLine (trimmed line) = .ok ds) (hne : ds ≠ []) :
    (trimmed line).toList.head? = some '@' := by
  have hhead := head_of_ofLine h hne
  rw [trimmed, String.toList_ofList] at hhead ⊢
  rwa [trimStart_of_trim_eq (trim_trim _)] at hhead

end Words

namespace HandlerDoc

section Drafts

variable {markdown : Option MarkdownDirectory} {lines : List String} {draft after : Draft}

lemma foldlM_adds (h : lines.foldlM (readLine markdown) draft = .ok after) :
    ∃ ds, after.decorators = draft.decorators ++ ds ∧ ∀ other : Draft, ∃ next,
      lines.foldlM (readLine markdown) other = .ok next ∧
        next.decorators = other.decorators ++ ds := by
  obtain ⟨dss, changes, hdss, hchanges, rfl⟩ := foldlM_eq_ok_iff.mp h
  exact ⟨dss.flatten, rfl, fun other => ⟨other.extended dss changes,
    foldlM_eq_ok_iff.mpr ⟨dss, changes, hdss, hchanges, rfl⟩, rfl⟩⟩

end Drafts

section Docs

variable {markdown : Option MarkdownDirectory} {line : String} {before behind : List String}
  {doc : HandlerDoc} {draft : Draft} {ds : List Decorator}

lemma routes_append {ds ds' : List Decorator} {routes : List Route}
    (h : ((ds ++ ds').filter (·.name == "path")).mapM Decorator.route = .ok routes) :
    (∃ rs, (ds.filter (·.name == "path")).mapM Decorator.route = .ok rs) ∧
      ∃ rs, (ds'.filter (·.name == "path")).mapM Decorator.route = .ok rs := by
  rw [List.filter_append, List.mapM_append] at h
  obtain ⟨rs, hrs, h⟩ := except_bind_eq_ok_iff.mp h
  obtain ⟨rs', hrs', -⟩ := except_bind_eq_ok_iff.mp h
  exact ⟨⟨rs, hrs⟩, rs', hrs'⟩

lemma ofLines_append (h : ofLines markdown (before ++ behind) = .ok doc) :
    ∃ doc₁ doc₂, ofLines markdown before = .ok doc₁ ∧ ofLines markdown behind = .ok doc₂ ∧
      doc.decorators = doc₁.decorators ++ doc₂.decorators := by
  obtain ⟨draft, hdraft, hdoc⟩ := except_bind_eq_ok_iff.mp h
  obtain ⟨routes, hroutes, rfl⟩ := complete_eq_ok_iff.mp hdoc
  rw [List.foldlM_append] at hdraft
  obtain ⟨first, hfirst, hdraft⟩ := except_bind_eq_ok_iff.mp hdraft
  obtain ⟨ds, hds, hbehind⟩ := foldlM_adds hdraft
  obtain ⟨second, hsecond, hadded⟩ := hbehind {}
  rw [List.nil_append] at hadded
  rw [hds, ← hadded] at hroutes
  obtain ⟨⟨rs, hrs⟩, rs', hrs'⟩ := routes_append hroutes
  have hdoc₁ := complete_eq_ok_iff.mpr ⟨rs, hrs, rfl⟩
  have hdoc₂ := complete_eq_ok_iff.mpr ⟨rs', hrs', rfl⟩
  have hparts : first.decorators ++ ds = first.decorators ++ second.decorators := by
    rw [hadded]
  exact ⟨_, _, except_bind_eq_ok_iff.mpr ⟨first, hfirst, hdoc₁⟩,
    except_bind_eq_ok_iff.mpr ⟨second, hsecond, hdoc₂⟩, hds.trans hparts⟩

lemma readLine_of_decorators (hline : Decorator.isLine (trimmed line).toList = true)
    (hds : Decorator.ofLine (trimmed line) = .ok ds) : readLine markdown draft line =
      .ok { draft with
        recognized := draft.recognized || !ds.isEmpty
        decorators := draft.decorators ++ ds } := by
  unfold readLine
  dsimp only
  rw [if_pos hline, hds]

lemma decorators_of_line (h : ofLines markdown [line] = .ok doc)
    (hline : Decorator.isLine (trimmed line).toList = true)
    (hds : Decorator.ofLine (trimmed line) = .ok ds) : doc.decorators = ds := by
  obtain ⟨draft, hdraft, hdoc⟩ := except_bind_eq_ok_iff.mp h
  obtain ⟨routes, -, rfl⟩ := complete_eq_ok_iff.mp hdoc
  rw [List.foldlM_cons, readLine_of_decorators hline hds] at hdraft
  obtain rfl := Except.ok.inj hdraft
  exact List.nil_append ds

lemma ofLines_note {name text : String} (hline : Decorator.isLine (trimmed line).toList = false)
    (h : Attribute.ofLine markdown (trimmed line) = .ok (some (.note name text))) :
    ∃ doc, ofLines markdown [line] = .ok doc ∧ doc.decorators = [] ∧ doc.recognized = false := by
  have hread : readLine markdown {} line =
      .ok { operation := ({} : Operation).apply (.note name text) } := by
    unfold readLine Operation.readLine
    dsimp only
    rw [if_neg (by simp [hline]), h]
    rfl
  have hfold : [line].foldlM (readLine markdown) {} =
      .ok { operation := ({} : Operation).apply (.note name text) } := by
    rw [List.foldlM_cons, hread]
    rfl
  exact ⟨_, except_bind_eq_ok_iff.mpr ⟨_, hfold, complete_eq_ok_iff.mpr ⟨[], rfl, rfl⟩⟩, rfl, rfl⟩

theorem ofLines_places_decorators (h : ofLines markdown (before ++ line :: behind) = .ok doc)
    (hds : Decorator.ofLine (trimmed line) = .ok ds) (hne : ds ≠ [])
    (hparen : '(' ∈ (trimmed line).toList.takeWhile (!isBlank ·)) :
    (∃ doc₁ doc₂, ofLines markdown before = .ok doc₁ ∧ ofLines markdown behind = .ok doc₂ ∧
      doc.decorators = doc₁.decorators ++ ds ++ doc₂.decorators) ∧ doc.recognized = true := by
  have hline := Decorator.isLine_of_mem (Decorator.head_of_ofLine_trimmed hds hne) hparen
  constructor
  · obtain ⟨doc₁, rest, hdoc₁, hrest, hdecorators⟩ := ofLines_append h
    rw [← List.singleton_append] at hrest
    obtain ⟨doc₀, doc₂, hdoc₀, hdoc₂, hsecond⟩ := ofLines_append hrest
    refine ⟨doc₁, doc₂, hdoc₁, hdoc₂, ?_⟩
    rw [hdecorators, hsecond, decorators_of_line hdoc₀ hline hds, List.append_assoc]
  · rw [ofLines_recognized h, List.any_append, List.any_cons]
    have hrecognizes : recognizes markdown line = true := by
      unfold recognizes
      dsimp only
      rw [if_pos hline, hds]
      simpa using hne
    rw [hrecognizes, Bool.true_or, Bool.or_true]

theorem ofLines_places_decorators_between :
    ∃ doc, ofLines none ["Greets.", "  @path(\"GET\", \"/a\")", "@path(\"PUT\", \"/b\")"] =
        .ok doc ∧
      (∃ doc₁ doc₂, ofLines none ["Greets."] = .ok doc₁ ∧
        ofLines none ["@path(\"PUT\", \"/b\")"] = .ok doc₂ ∧
          doc.decorators = doc₁.decorators ++ [⟨"path", ["GET", "/a"]⟩] ++ doc₂.decorators) ∧
        doc.recognized = true := by
  have hfirst : Decorator.ofLine (trimmed "  @path(\"GET\", \"/a\")") =
      .ok [⟨"path", ["GET", "/a"]⟩] :=
    Decorator.ofLine_text (d := ⟨"path", ["GET", "/a"]⟩) (by decide)
  have hsecond : Decorator.ofLine (trimmed "@path(\"PUT\", \"/b\")") =
      .ok [⟨"path", ["PUT", "/b"]⟩] :=
    Decorator.ofLine_text (d := ⟨"path", ["PUT", "/b"]⟩) (by decide)
  obtain ⟨doc, hdoc⟩ : ∃ doc, ofLines none ["Greets.", "  @path(\"GET\", \"/a\")",
      "@path(\"PUT\", \"/b\")"] = .ok doc := by
    have hgreets : readLine none {} "Greets." = .ok {} := by
      rfl
    refine ⟨_, except_bind_eq_ok_iff.mpr ⟨{
      recognized := true
      decorators := [⟨"path", ["GET", "/a"]⟩, ⟨"path", ["PUT", "/b"]⟩] }, ?_, rfl⟩⟩
    rw [List.foldlM_cons, hgreets, except_ok_bind, List.foldlM_cons,
      readLine_of_decorators (by decide +kernel) hfirst, except_ok_bind, List.foldlM_cons,
      readLine_of_decorators (by decide +kernel) hsecond]
    rfl
  have hsplit : ofLines none (["Greets."] ++ "  @path(\"GET\", \"/a\")" ::
      ["@path(\"PUT\", \"/b\")"]) = .ok doc := hdoc
  exact ⟨doc, hdoc, ofLines_places_decorators hsplit hfirst (by simp) (by decide +kernel)⟩

/-- A blank before the parenthesis, or a slash before the at sign, hides a decorator. -/
theorem ofLines_passes_over_decorators :
    (Decorator.ofLine "@path (\"GET\", \"/x\")" = .ok [⟨"path", ["GET", "/x"]⟩] ∧
      ∃ doc, ofLines none ["@path (\"GET\", \"/x\")"] = .ok doc ∧ doc.decorators = [] ∧
        doc.recognized = false) ∧
      Decorator.ofLine "@path(\"GET\", \"/x\")" = .ok [⟨"path", ["GET", "/x"]⟩] ∧
        ∃ doc, ofLines none ["/ @path(\"GET\", \"/x\")"] = .ok doc ∧ doc.decorators = [] ∧
          doc.recognized = false := by
  have hgap : ∀ c ∈ [' '], isBlank c = true := by
    decide
  have hspans := Decorator.layout_spans (d := ⟨"path", ["GET", "/x"]⟩) (by decide) hgap
  have hline : Decorator.ofLine "@path (\"GET\", \"/x\")" = .ok [⟨"path", ["GET", "/x"]⟩] := by
    have hfills : Decorator.Layout.Fills _ "@path (\"GET\", \"/x\")".toList :=
      hspans.fills (t := []) (by simp)
    rw [hfills.ofLine_eq]
    exact Decorator.mapM_layout [⟨"path", ["GET", "/x"]⟩]
  have hblank : Attribute.ofLine none "@path (\"GET\", \"/x\")" =
      .ok (some (.note "path" "(\"GET\", \"/x\")")) :=
    @Attribute.ofLine_line none "path" "(\"GET\", \"/x\")" (by decide) (by decide)
  have hslash : Attribute.ofLine none "@path(\"GET\", \"/x\")" =
      .ok (some (.note "path(\"GET\"," "\"/x\")")) :=
    @Attribute.ofLine_line none "path(\"GET\"," "\"/x\")" (by decide) (by decide)
  exact ⟨⟨hline, ofLines_note (by decide +kernel) hblank⟩,
    Decorator.ofLine_text (d := ⟨"path", ["GET", "/x"]⟩) (by decide),
    ofLines_note (by decide +kernel) hslash⟩

end Docs

end HandlerDoc

end Routewright
