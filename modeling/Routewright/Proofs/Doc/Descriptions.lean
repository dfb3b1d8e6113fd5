import Routewright.Proofs.Doc.Update

namespace Routewright

open Text

structure IsCore (text core : String) : Prop where
  exists_quotes : ∃ before behind : List Char,
    (∀ c ∈ before ++ behind, c = '\x22') ∧ text.toList = before ++ core.toList ++ behind
  head_ne : core.toList.head? ≠ some '\x22'
  last_ne : core.toList.getLast? ≠ some '\x22'

lemma IsCore.eq_self_iff {text core : String} (h : IsCore text core) :
    core = text ↔ text.toList.head? ≠ some '\x22' ∧ text.toList.getLast? ≠ some '\x22' := by
  constructor
  · rintro rfl
    exact ⟨h.head_ne, h.last_ne⟩
  · rintro ⟨hhead, hlast⟩
    obtain ⟨before, behind, hquotes, htext⟩ := h.exists_quotes
    have hbefore : before = [] := by
      by_contra hne
      obtain ⟨c, r, rfl⟩ := List.exists_cons_of_ne_nil hne
      rw [htext, hquotes c (by simp)] at hhead
      exact hhead rfl
    have hbehind : behind = [] := by
      by_contra hne
      have hc := hquotes _ (List.mem_append_right before (List.getLast_mem hne))
      rw [htext, List.getLast?_append_of_ne_nil _ hne, List.getLast?_eq_some_getLast hne, hc]
        at hlast
      exact hlast rfl
    rw [hbefore, hbehind, List.nil_append, List.append_nil] at htext
    exact (String.toList_inj.mp htext).symm

section Core

open Attribute

lemma isCore_dropQuotes (text : String) : IsCore text (.ofList (dropQuotes text.toList)) := by
  generalize hstart : text.toList.dropWhile (· == '\x22') = start
  have hcore : (String.ofList (dropQuotes text.toList)).toList =
      start.rdropWhile (· == '\x22') := by
    rw [String.toList_ofList, dropQuotes, dropEndWhile_eq_rdropWhile, hstart]
  have hsplit := List.rdropWhile_append_rtakeWhile (p := (· == '\x22')) (l := start)
  refine ⟨⟨text.toList.takeWhile (· == '\x22'), start.rtakeWhile (· == '\x22'), ?_, ?_⟩, ?_, ?_⟩
  · refine List.forall_mem_append.mpr ⟨fun c hc => ?_, fun c hc => ?_⟩
    · simpa using List.mem_takeWhile_imp hc
    · simpa using List.mem_rtakeWhile_imp hc
  · rw [hcore, List.append_assoc, hsplit, ← hstart, List.takeWhile_append_dropWhile]
  · intro hhead
    have hquote := List.head?_dropWhile_not (· == '\x22') text.toList
    rw [hcore] at hhead
    rw [hstart, ← hsplit, List.head?_append, hhead] at hquote
    simp at hquote
  · intro hlast
    rw [hcore] at hlast
    have hne : start.rdropWhile (· == '\x22') ≠ [] := by
      intro hnil
      rw [hnil] at hlast
      cases hlast
    rw [List.getLast?_eq_some_getLast hne] at hlast
    exact List.rdropWhile_last_not _ _ hne (by rw [Option.some.inj hlast]; rfl)

end Core

namespace Operation

open Attribute

variable {markdown : Option MarkdownDirectory} {op : Operation} {code : String}

lemma readInPlace_of_change {line : String} {c : Change} (hc : c.recognized = true)
    (h : ofLine markdown line = .ok (some c)) :
    op.readInPlace markdown line = (.ok true, op.apply c) := by
  rw [readInPlace_eq, h]
  exact congrArg (fun b => (Except.ok b, op.apply c)) hc

lemma apply_respond_get? (kind dataType : Option String) (description : String) :
    (op.apply (.respond [code] kind dataType description)).responses.get? code =
      some (((op.responses.get? code).getD {}).declare kind dataType description) :=
  (Dict.get?_modify ..).trans (if_pos rfl)

lemma apply_header_get? (name : String) (header : ResponseHeader) :
    (op.apply (.header (some [code]) name header)).responses.get? code =
      some (((op.responses.get? code).getD {}).withHeader name header) :=
  (Dict.get?_modify ..).trans (if_pos rfl)

theorem readInPlace_describes {kind word description : String}
    (hcode : isStatusCode code.toList = true) (hkind : isName kind.toList = true)
    (hword : IsField word.toList) (hline : '\n' ∉ description.toList)
    (markdown : Option MarkdownDirectory) (op : Operation) :
    ∃ core, IsCore description core ∧
      (core = description ↔
        description.toList.head? ≠ some '\x22' ∧ description.toList.getLast? ≠ some '\x22') ∧
      (∃ after, op.readInPlace markdown
          (line "Response" (code ++ " " ++ typedText kind word description)) = (.ok true, after) ∧
        after.responses.get? code = some { (op.responses.get? code).getD {} with
          kind := some kind, dataType := some word, description := core }) ∧
      (∃ after, op.readInPlace markdown (line "Response" (code ++ " " ++ quoted description)) =
          (.ok true, after) ∧
        after.responses.get? code = some { (op.responses.get? code).getD {} with
          kind := none, dataType := none, description := core }) ∧
      ∃ after, op.readInPlace markdown
          (line "Header" (code ++ " " ++ typedText kind word description)) = (.ok true, after) ∧
        (after.responses.get? code).bind (·.headers.get? word) = some ⟨kind, core⟩ := by
  have hcore := isCore_dropQuotes description
  generalize hdropped : String.ofList (dropQuotes description.toList) = core at hcore
  refine ⟨core, hcore, hcore.eq_self_iff,
    ⟨op.apply (.respond [code] (some kind) (some word) core), ?_, apply_respond_get? ..⟩,
    ⟨op.apply (.respond [code] none none core), ?_, apply_respond_get? ..⟩,
    op.apply (.header (some [code]) word ⟨kind, core⟩), ?_, ?_⟩
  · rw [← hdropped]
    exact readInPlace_of_change rfl (ofLine_response_typed hcode hkind hword hline)
  · rw [← hdropped]
    exact readInPlace_of_change rfl (ofLine_response_quoted hcode description)
  · rw [← hdropped]
    exact readInPlace_of_change rfl (ofLine_header_typed hcode hkind hword hline)
  · rw [apply_header_get?, Option.bind_some, Response.withHeader, Dict.get?_insert, if_pos rfl]

theorem readInPlace_describes_inside :
    (isStatusCode "200".toList = true ∧ isName "object".toList = true ∧ IsField "Item".toList ∧
      '\n' ∉ "an \"\"item\"\" of 1".toList) ∧
    ∃ after, ({} : Operation).readInPlace none
        "@Response 200 \x7bobject\x7d Item \"an \"\"item\"\" of 1\"" = (.ok true, after) ∧
      after.responses.get? "200" =
        some ⟨some "object", some "Item", "an \"\"item\"\" of 1", ∅⟩ := by
  have hvalid : isStatusCode "200".toList = true ∧ isName "object".toList = true ∧
      IsField "Item".toList ∧ '\n' ∉ "an \"\"item\"\" of 1".toList := by
    decide +kernel
  obtain ⟨core, -, hkept, ⟨after, hread, hget⟩, -⟩ :=
    readInPlace_describes hvalid.1 hvalid.2.1 hvalid.2.2.1 hvalid.2.2.2 none {}
  rw [hkept.mpr (by decide)] at hget
  exact ⟨hvalid, after, hread, hget⟩

theorem readInPlace_loses_quotes :
    (({} : Operation).readInPlace none
        "@Response 200 \x7bobject\x7d Item \"\"a\"\"").2.responses.get? "200" =
      some ⟨some "object", some "Item", "a", ∅⟩ ∧
    (({} : Operation).readInPlace none "@Response 200 \"\"a\"\"").2.responses.get? "200" =
      some ⟨none, none, "a", ∅⟩ ∧
    ((({} : Operation).readInPlace none
        "@Header 200 \x7bstring\x7d X-Id \"\"a\"\"").2.responses.get? "200").bind
          (·.headers.get? "X-Id") = some ⟨"string", "a"⟩ ∧
    "a" ≠ "\"a\"" := by
  decide +kernel

end Operation

end Routewright
