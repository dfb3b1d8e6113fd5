import Routewright.Proofs.Doc.Drafts
import Routewright.Proofs.Doc.Update

namespace Routewright

inductive Family
  | description
  | summary
  | id
  | tags
  | accept
  | produce
  | param
  | response
  | router
  | security
  | deprecated
  | codeSamples
  | extension
  | unknown
deriving DecidableEq, Repr

namespace Family

def named : List (String × Family) :=
  [("description", description), ("description.markdown", description), ("summary", summary),
    ("id", id), ("tags", tags), ("accept", accept), ("produce", produce), ("param", param),
    ("success", response), ("failure", response), ("response", response), ("header", response),
    ("router", router), ("security", security), ("deprecated", deprecated),
    ("x-codesamples", codeSamples)]

def ofName (lower : String) : Family :=
  (named.lookup lower).getD (if "x-".toList.isPrefixOf lower.toList then extension else unknown)

def ofLine (comment : String) : Option Family :=
  (Attribute.parts? comment).map fun p => ofName p.lower

def ofChange : Change → Family
  | .describe _ => description
  | .summarize _ => summary
  | .identify _ => id
  | .tag _ => tags
  | .accept _ => accept
  | .produce _ => produce
  | .param _ => param
  | .respond .. => response
  | .header .. => response
  | .route _ => router
  | .secure _ => security
  | .deprecate => deprecated
  | .codeSamples _ => codeSamples
  | .extend _ _ => extension
  | .note _ _ => unknown

end Family

def Operation.only (op : Operation) : Family → Operation
  | .description => { description := op.description }
  | .summary => { summary := op.summary }
  | .id => { id := op.id }
  | .tags => { tags := op.tags }
  | .accept => { accept := op.accept }
  | .produce => { produce := op.produce }
  | .param => { params := op.params }
  | .response => { responses := op.responses }
  | .router => { routes := op.routes }
  | .security => { security := op.security }
  | .deprecated => { deprecated := op.deprecated }
  | .codeSamples => { codeSamples := op.codeSamples }
  | .extension => { extensions := op.extensions }
  | .unknown => { metadata := op.metadata }

section Names

open Attribute

variable {markdown : Option MarkdownDirectory} {line lower name comment : String}
  {text : List Char} {c : Change} {said : Option Change}

lemma Family.ofName_of_not_known (h : lower ∉ knownNames) :
    ofName lower = if "x-".toList.isPrefixOf lower.toList then extension else unknown := by
  have hlookup : named.lookup lower = none := by
    rw [List.lookup_eq_none_iff]
    intro e he
    apply bne_iff_ne.mpr
    rintro rfl
    exact h (List.mem_map_of_mem he)
  rw [ofName, hlookup, Option.getD_none]

lemma Family.ofName_eq_ofChange (h : Says markdown line name text lower c) :
    ofName lower = ofChange c := by
  cases h with
  | respond hlower _ =>
    have hall : ∀ lower ∈ ["success", "failure", "response"], ofName lower = response := by
      decide
    exact hall lower hlower
  | extend hlower hextension _ => rw [ofName_of_not_known hlower, if_pos hextension]; rfl
  | note hlower hextension => rw [ofName_of_not_known hlower, hextension]; rfl
  | _ => rfl

lemma Family.ofLine_of_said (h : Attribute.ofLine markdown comment = .ok said) :
    ofLine comment = said.map ofChange := by
  rw [ofLine]
  obtain ⟨hp, rfl⟩ | ⟨p, c, hp, hsays, rfl⟩ := ofLine_cases h
  · rw [hp]
    rfl
  · rw [hp]
    exact congrArg some (ofName_eq_ofChange hsays)

end Names

namespace Operation

variable {markdown : Option MarkdownDirectory} {op after : Operation} {lines : List String}
  {c : Change} {f : Family}

lemma apply_only (op : Operation) (c : Change) :
    (op.apply c).only (.ofChange c) = (op.only (.ofChange c)).apply c := by
  cases c with
  | header codes name header => cases codes <;> rfl
  | _ => rfl

lemma apply_only_of_ne (h : Family.ofChange c ≠ f) : (op.apply c).only f = op.only f := by
  cases c with
  | header codes name header => cases codes <;> cases f <;> first | rfl | exact absurd rfl h
  | _ => cases f <;> first | rfl | exact absurd rfl h

lemma only_default (f : Family) : ({} : Operation).only f = {} := by
  cases f <;> rfl

@[simp]
lemma applyAll_cons_none (op : Operation) (said : List (Option Change)) :
    op.applyAll (none :: said) = op.applyAll said :=
  rfl

@[simp]
lemma applyAll_cons_some (op : Operation) (c : Change) (said : List (Option Change)) :
    op.applyAll (some c :: said) = (op.apply c).applyAll said :=
  rfl

lemma applyAll_only (op : Operation) (said : List (Option Change)) (f : Family) :
    (op.applyAll said).only f =
      (op.only f).applyAll (said.filter fun c => c.map Family.ofChange = some f) := by
  induction said generalizing op with
  | nil => rfl
  | cons c said ih =>
    cases c with
    | none =>
      rw [applyAll_cons_none, ih, List.filter_cons_of_neg (by simp)]
    | some c =>
      -- A change of the family needs no other field, and any other change leaves the field alone.
      rw [applyAll_cons_some, ih]
      by_cases hf : Family.ofChange c = f
      · rw [List.filter_cons_of_pos (by simp [hf]), applyAll_cons_some, ← hf, apply_only]
      · rw [List.filter_cons_of_neg (by simp [hf]), apply_only_of_ne hf]

lemma readLine_eq_ok_iff {comment : String} :
    (op.readLine markdown comment).map Prod.snd = .ok after ↔
      ∃ said, Attribute.ofLine markdown comment = .ok said ∧ after = op.applyAll [said] := by
  rw [readLine]
  cases Attribute.ofLine markdown comment with
  | error failure => simp [Except.map]
  | ok said => cases said <;> simp [Except.map, applyAll, eq_comm]

lemma readLines_eq_ok_iff : readLines markdown op lines = .ok after ↔
    ∃ said, List.Forall₂ (fun line c => Attribute.ofLine markdown line = .ok c) lines said ∧
      after = op.applyAll said := by
  induction lines generalizing op with
  | nil =>
    constructor
    · intro h
      exact ⟨[], .nil, (Except.ok.inj h).symm⟩
    · rintro ⟨said, h, rfl⟩
      cases h
      rfl
  | cons line lines ih =>
    rw [readLines, List.foldlM_cons, except_bind_eq_ok_iff]
    constructor
    · rintro ⟨next, hnext, hrest⟩
      obtain ⟨c, hc, rfl⟩ := readLine_eq_ok_iff.mp hnext
      obtain ⟨said, hsaid, rfl⟩ := ih.mp hrest
      exact ⟨c :: said, .cons hc hsaid, (applyAll_append [c] said).symm⟩
    · rintro ⟨said, h, rfl⟩
      cases h with
      | @cons _ c _ said hc hsaid =>
        exact ⟨_, readLine_eq_ok_iff.mpr ⟨c, hc, rfl⟩, ih.mpr
          ⟨said, hsaid, applyAll_append [c] said⟩⟩

lemma readInPlace_fst (markdown : Option MarkdownDirectory) (op : Operation) (comment : String) :
    (op.readInPlace markdown comment).1 = (Attribute.ofLine markdown comment).map fun said =>
      said.any Change.recognized := by
  rw [readInPlace_eq]
  cases Attribute.ofLine markdown comment with
  | error failure => rfl
  | ok said => cases said <;> rfl

/-- The lines of a family are accepted without the others, and they give its field the same value
and write to no other field. What a line is answered does not depend on the operation it is read
into. -/
theorem readLines_only (h : readLines markdown {} lines = .ok op) :
    (∀ f, readLines markdown {} (lines.filter fun line => Family.ofLine line = some f) =
      .ok (op.only f)) ∧
    ∀ (first second : Operation) (comment : String),
      (first.readInPlace markdown comment).1 = (second.readInPlace markdown comment).1 := by
  obtain ⟨said, hsaid, rfl⟩ := readLines_eq_ok_iff.mp h
  constructor
  · intro f
    refine readLines_eq_ok_iff.mpr ⟨said.filter fun c => c.map Family.ofChange = some f, ?_, ?_⟩
    · refine List.rel_filter ?_ hsaid
      intro line c hc
      simp only [Family.ofLine_of_said hc]
    · rw [applyAll_only, only_default]
  · intro first second comment
    rw [readInPlace_fst, readInPlace_fst]

def mixedLines : List String :=
  ["// Lists the items.", "// @Success 200,404 \"ok\"", "@Tags a", "@Owner team",
    "@HEADER All \x7bint\x7d X-Rate", "@tags b"]

theorem readLines_only_mixed : ∃ op, readLines none {} mixedLines = .ok op ∧
    op.tags = ["a", "b"] ∧ readLines none {} ["@Tags a", "@tags b"] = .ok (op.only .tags) ∧
    readLines none {} ["// @Success 200,404 \"ok\"", "@HEADER All \x7bint\x7d X-Rate"] =
      .ok (op.only .response) := by
  have htags : (readLines none {} mixedLines).map (·.tags) = .ok ["a", "b"] := by
    decide +kernel
  have hfamilies : mixedLines.map Family.ofLine =
      [none, some .response, some .tags, some .unknown, some .response, some .tags] := by
    decide +kernel
  obtain ⟨op, hop, hvalue⟩ := except_map_eq_ok_iff.mp htags
  have honly := (readLines_only hop).1
  simp only [mixedLines, List.map_cons, List.cons.injEq] at hfamilies honly
  refine ⟨op, hop, hvalue, ?_, ?_⟩
  · simpa [List.filter_cons, hfamilies] using honly .tags
  · simpa [List.filter_cons, hfamilies] using honly .response

end Operation

end Routewright
