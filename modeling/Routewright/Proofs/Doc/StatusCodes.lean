import Routewright.Proofs.Doc.Accumulation
import Routewright.Proofs.Doc.Responses
import Routewright.Proofs.Text.Digits

/-! The codes that responses are kept by. A code is checked as a number but kept as it is written, so
a status has as many entries as there are ways in which lines write it. -/

namespace Routewright

open Text

namespace Attribute

def status? (code : String) : Option ℕ :=
  boundedDecimal? (Nat.pow 2 16) code.toList

def IsPlain (code : String) : Prop :=
  ∀ n ∈ status? code, code = toString n

instance (code : String) : Decidable (IsPlain code) :=
  inferInstanceAs (Decidable (∀ n ∈ status? code, code = toString n))

variable {markdown : Option MarkdownDirectory} {comment code code' : String}
  {said : Option Change} {n : ℕ}

lemma status?_eq_some_iff : status? code = some n ↔ n < 65536 ∧ Spells code.toList n :=
  boundedDecimal?_eq_some_iff

lemma status?_default : status? "default" = none := by
  decide

lemma isStatusCode_iff : isStatusCode code.toList = true ↔
    code = "default" ∨ ∃ n, status? code = some n := by
  rw [isStatusCode, Bool.or_eq_true, beq_iff_eq, String.toList_inj, Option.isSome_iff_exists]
  rfl

lemma isStatusCode_of_statusCodes {s : List Char} {codes : List String}
    (h : statusCodes s = .ok codes) (hcode : code ∈ codes) : isStatusCode code.toList = true := by
  unfold statusCodes at h
  split at h
  · cases h
  · split at h
    · cases h
    · rename_i hnone
      obtain rfl := Except.ok.inj h
      obtain ⟨x, hx, rfl⟩ := List.mem_map.mp hcode
      rw [String.toList_ofList]
      simpa using List.find?_eq_none.mp hnone x hx

lemma isStatusCode_of_mem_codesOf (h : ofLine markdown comment = .ok said)
    (hcode : code ∈ codesOf comment) : isStatusCode code.toList = true := by
  obtain ⟨hp, -⟩ | ⟨⟨line, lower, name, text⟩, c, hp, hsays, -⟩ := ofLine_cases h
  · simp [codesOf, hp] at hcode
  · have hknown : ∀ lower ∈ "header" :: responseNames, lower ∈ knownNames := by
      decide
    obtain ⟨⟨hlower, hall⟩, hword⟩ : ((lower ∈ responseNames ∨ lower = "header") ∧
        isForAll comment = false) ∧ code ∈ (commaList (codeWord text)).map String.ofList := by
      simpa only [codesOf, hp, List.mem_ite_nil_right] using hcode
    have hmem : lower ∈ "header" :: responseNames := by
      simpa [or_comm] using hlower
    cases hsays with
    | respond _ h =>
      have hcodes := statusCodes_of_response h
      exact isStatusCode_of_statusCodes hcodes (statusCodes_eq hcodes ▸ hword)
    | @header codes _ _ h =>
      have hcodes := statusCodes_of_header h
      cases codes with
      | none => simp [isForAll, hp, hcodes] at hall
      | some codes => exact isStatusCode_of_statusCodes hcodes.2 (statusCodes_eq hcodes.2 ▸ hword)
    | extend hnot _ _ | note hnot _ => exact absurd (hknown _ hmem) hnot
    | _ => simp [responseNames] at hmem

lemma IsPlain.eq_of_status (h : IsPlain code) (h' : IsPlain code')
    (hcode : isStatusCode code.toList = true) (hcode' : isStatusCode code'.toList = true)
    (hstatus : status? code = status? code') : code = code' := by
  rcases isStatusCode_iff.mp hcode with rfl | ⟨n, hn⟩
  · rcases isStatusCode_iff.mp hcode' with rfl | ⟨n, hn⟩
    · rfl
    · rw [status?_default, hn] at hstatus
      cases hstatus
  · exact (h n hn).trans (h' n (hstatus ▸ hn)).symm

end Attribute

namespace Operation

open Attribute

lemma mem_keys_accumulate (markdown : Option MarkdownDirectory) (lines : List String)
    (code : String) : code ∈ (accumulate markdown {} lines).responses.keys ↔
      ∃ line ∈ lines, isAccepted markdown line = true ∧ code ∈ codesOf line := by
  have haccounts := readLines_accounts (readLines_accepted markdown {} lines) code
  rw [Dict.mem_keys_iff, ← Option.isSome_iff_exists, haccounts.isSome_iff]
  simp only [List.mem_filter, and_assoc]

/-- The responses are kept by the codes as the accepted lines write them. Each is a number of 16 bits
or the default, and a number is written in any way that differs by zeros in front and a plus sign; so
a status has one entry if all codes are written without these. -/
theorem accumulate_statuses (markdown : Option MarkdownDirectory) (lines : List String) :
    let keys := (accumulate markdown {} lines).responses.keys
    (∀ code, code ∈ keys ↔
      ∃ line ∈ lines, isAccepted markdown line = true ∧ code ∈ codesOf line) ∧
    (∀ code ∈ keys, code = "default" ∨ ∃ n, status? code = some n) ∧
    (∀ code n, status? code = some n ↔ n < 65536 ∧ Spells code.toList n) ∧
    ((∀ line ∈ lines, isAccepted markdown line = true → ∀ code ∈ codesOf line, IsPlain code) →
      ∀ code ∈ keys, ∀ code' ∈ keys, status? code = status? code' → code = code') := by
  intro keys
  have hkeys : ∀ code, code ∈ keys ↔ _ := mem_keys_accumulate markdown lines
  have hvalid : ∀ code ∈ keys, isStatusCode code.toList = true := by
    intro code hcode
    obtain ⟨line, -, haccepted, hnamed⟩ := (hkeys code).mp hcode
    obtain ⟨said, hsaid⟩ := isAccepted_iff.mp haccepted
    exact isStatusCode_of_mem_codesOf hsaid hnamed
  refine ⟨hkeys, fun code hcode => isStatusCode_iff.mp (hvalid code hcode),
    fun code n => status?_eq_some_iff, fun hplain code hcode code' hcode' hstatus => ?_⟩
  have hshort : ∀ code ∈ keys, IsPlain code := by
    intro code hcode
    obtain ⟨line, hline, haccepted, hnamed⟩ := (hkeys code).mp hcode
    exact hplain line hline haccepted code hnamed
  exact (hshort code hcode).eq_of_status (hshort code' hcode') (hvalid code hcode)
    (hvalid code' hcode') hstatus

def plainLines : List String :=
  ["@Success 200,default \"ok\"", "@Header 200,oops \x7bint\x7d X-Rate", "@Failure 70000 \"far\"",
    "@Header 404,200 \x7bstring\x7d X-Trace", "@Failure 404 \"none\""]

theorem accumulate_statuses_plain :
    let keys := (accumulate none {} plainLines).responses.keys
    keys = ["200", "404", "default"] ∧
      ∀ code ∈ keys, ∀ code' ∈ keys, status? code = status? code' → code = code' := by
  have hplain : ∀ line ∈ plainLines, isAccepted none line = true →
      ∀ code ∈ codesOf line, IsPlain code := by
    decide +kernel
  exact ⟨by decide +kernel, (accumulate_statuses none plainLines).2.2.2 hplain⟩

def paddedLines : List String :=
  ["@Success 200 \"ok\"", "@Header 0200 \x7bstring\x7d X-Id \"id\""]

theorem accumulate_doubles_status :
    (accumulate none {} paddedLines).responses.entries =
      [("0200", ⟨none, none, "", ⟨[("X-Id", ⟨"string", "id"⟩)], by decide⟩⟩),
        ("200", ⟨none, none, "ok", ∅⟩)] ∧
    status? "0200" = some 200 ∧ status? "200" = some 200 ∧ "0200" ≠ "200" := by
  decide +kernel

end Operation

end Routewright
