import Mathlib.Data.List.Induction
import Routewright.Proofs.Doc.Families

namespace Routewright

open Text

namespace Attribute

def responseNames : List String :=
  ["success", "failure", "response"]

def codeWord (text : List Char) : List Char :=
  ((fields 2 text)[0]?).getD []

def isForAll (comment : String) : Bool :=
  match parts? comment with
  | some p => p.lower = "header" && asciiLowercase (codeWord p.text) = "all".toList
  | none => false

/-- The status codes that a comment line names; the word for all codes names none. -/
def codesOf (comment : String) : List String :=
  match parts? comment with
  | some p =>
    if (p.lower ∈ responseNames ∨ p.lower = "header") ∧ isForAll comment = false then
      (commaList (codeWord p.text)).map String.ofList
    else []
  | none => []

def declaration? (comment : String) : Option Response :=
  match parts? comment with
  | some p =>
    if p.lower ∈ responseNames then
      match response p.text with
      | .ok (.respond _ kind dataType description) => some ⟨kind, dataType, description, ∅⟩
      | _ => none
    else none
  | none => none

def header? (comment : String) : Option (String × ResponseHeader) :=
  match parts? comment with
  | some p =>
    if p.lower = "header" then
      match header p.text with
      | .ok (.header _ name value) => some (name, value)
      | _ => none
    else none
  | none => none

section Codes

variable {text : List Char} {codes : List String} {kind dataType : Option String}
  {description name : String} {value : ResponseHeader}

lemma statusCodes_eq {s : List Char} (h : statusCodes s = .ok codes) :
    codes = (commaList s).map String.ofList := by
  unfold statusCodes at h
  split at h
  · cases h
  · split at h
    · cases h
    · exact (Except.ok.inj h).symm

lemma statusCodes_of_response
    (h : response text = .ok (.respond codes kind dataType description)) :
    statusCodes (codeWord text) = .ok codes := by
  unfold response at h
  dsimp only at h
  split at h
  · cases h
  · rename_i found hfound
    have hcodes : found = codes := by
      split_ifs at h
      · split at h
        · cases h
        · cases h
          rfl
      · cases h
        rfl
    rwa [hcodes] at hfound

lemma codes_of_response (h : response text = .ok (.respond codes kind dataType description)) :
    codes = (commaList (codeWord text)).map String.ofList :=
  statusCodes_eq (statusCodes_of_response h)

lemma codeWord_of_spanField? {word rest : List Char} (h : spanField? text = some (word, rest)) :
    codeWord text = word := by
  unfold spanField? at h
  dsimp only at h
  split_ifs at h with hempty
  obtain ⟨rfl, rfl⟩ := Prod.mk.inj (Option.some.inj h)
  cases text with
  | nil => simp at hempty
  | cons c r =>
    have hc : isBlank c = false := by
      by_contra hblank
      rw [Bool.not_eq_false] at hblank
      simp [hblank] at hempty
    rw [codeWord, fields_cons hc r (by decide)]
    rfl

lemma statusCodes_of_header {codes : Option (List String)}
    (h : header text = .ok (.header codes name value)) :
    match codes with
    | none => asciiLowercase (codeWord text) = "all".toList
    | some codes => asciiLowercase (codeWord text) ≠ "all".toList ∧
      statusCodes (codeWord text) = .ok codes := by
  unfold header at h
  split at h
  · cases h
  · rename_i word t ht
    obtain ⟨f, hf, ht⟩ := Option.bind_eq_some_iff.mp ht
    obtain ⟨t', -, heq⟩ := Option.map_eq_some_iff.mp ht
    obtain ⟨rfl, rfl⟩ := Prod.mk.inj heq
    rw [codeWord_of_spanField? hf]
    dsimp only at h
    split_ifs at h with hall
    · cases h
      exact hall
    · obtain ⟨found, hfound, heq⟩ := except_map_eq_ok_iff.mp h
      cases heq
      exact ⟨hall, hfound⟩

lemma codes_of_header {codes : Option (List String)}
    (h : header text = .ok (.header codes name value)) :
    match codes with
    | none => asciiLowercase (codeWord text) = "all".toList
    | some codes => asciiLowercase (codeWord text) ≠ "all".toList ∧
      codes = (commaList (codeWord text)).map String.ofList := by
  have hword := statusCodes_of_header h
  cases codes with
  | none => exact hword
  | some codes => exact ⟨hword.1, statusCodes_eq hword.2⟩

end Codes

section Writes

def headerNamed? (name comment : String) : Option ResponseHeader :=
  (header? comment).bind fun h => if h.1 = name then some h.2 else none

structure Writes (comment : String) (write : Response → Response) : Prop where
  declared : ∀ r,
    { write r with headers := ∅ } = (declaration? comment).getD { r with headers := ∅ }
  headers : ∀ r name,
    (write r).headers.get? name = (headerNamed? name comment).or (r.headers.get? name)

def written (write : Response → Response) (comment code : String) (r : Option Response) :
    Option Response :=
  if code ∈ codesOf comment then some (write (r.getD {}))
  else if isForAll comment then r.map write
  else r

def WritesAs (comment : String) (c : Change) : Prop :=
  ∃ write, Writes comment write ∧ ∀ (op : Operation) (code : String),
    (op.apply c).responses.get? code = written write comment code (op.responses.get? code)

variable {markdown : Option MarkdownDirectory} {comment line lower name : String} {text : List Char}
  {p : Parts} {c : Change} {said : Option Change}

lemma Writes.of_none (hdeclaration : declaration? comment = none)
    (hheader : header? comment = none) : Writes comment id :=
  ⟨fun r => by rw [hdeclaration]; rfl, fun r name => by rw [headerNamed?, hheader]; rfl⟩

lemma Writes.of_declaration {kind dataType : Option String} {description : String}
    (hdeclaration : declaration? comment = some ⟨kind, dataType, description, ∅⟩)
    (hheader : header? comment = none) :
    Writes comment (.declare kind dataType description) :=
  ⟨fun r => by rw [hdeclaration]; rfl, fun r name => by rw [headerNamed?, hheader]; rfl⟩

lemma Writes.of_header {value : ResponseHeader} (hdeclaration : declaration? comment = none)
    (hheader : header? comment = some (name, value)) : Writes comment (.withHeader name value) := by
  refine ⟨fun r => by rw [hdeclaration]; rfl, fun r other => ?_⟩
  rw [headerNamed?, hheader, Response.withHeader, Dict.get?_insert, Option.bind_some]
  by_cases hname : name = other
  · simp [hname]
  · simp [hname, Ne.symm hname]

lemma written_of_quiet (hp : parts? comment = some p) (hlower : p.lower ∉ "header" :: responseNames)
    (hc : ∀ op : Operation, (op.apply c).responses = op.responses) : WritesAs comment c := by
  rw [List.mem_cons, not_or] at hlower
  have hall : isForAll comment = false := by
    simp [isForAll, hp, hlower]
  have hcodes : codesOf comment = [] := by
    simp [codesOf, hp, hlower]
  refine ⟨id, .of_none ?_ ?_, fun op code => ?_⟩
  · simp [declaration?, hp, hlower]
  · simp [header?, hp, hlower]
  · rw [written, hcodes, hall, if_neg List.not_mem_nil, if_neg Bool.false_ne_true, hc]

lemma written_of_response (hp : parts? comment = some p) (hlower : p.lower ∈ responseNames)
    {codes : List String} {kind dataType : Option String} {description : String}
    (h : response p.text = .ok (.respond codes kind dataType description)) :
    WritesAs comment (.respond codes kind dataType description) := by
  have hne : p.lower ≠ "header" := by
    intro heq
    rw [heq] at hlower
    exact absurd hlower (by decide)
  have hall : isForAll comment = false := by
    simp [isForAll, hp, hne]
  have hcodes : codesOf comment = codes := by
    simp [codesOf, hp, hall, hlower, codes_of_response h]
  refine ⟨.declare kind dataType description, .of_declaration ?_ ?_, fun op code => ?_⟩
  · simp [declaration?, hp, hlower, h]
  · simp [header?, hp, hne]
  · have hagain : ∀ r : Response, (r.declare kind dataType description).declare kind dataType
        description = r.declare kind dataType description := fun _ => rfl
    rw [written, hcodes, hall, if_neg Bool.false_ne_true]
    exact updateResponses_get? hagain codes op.responses code

lemma written_of_header (hp : parts? comment = some p) (hlower : p.lower = "header")
    {codes : Option (List String)} {value : ResponseHeader}
    (h : header p.text = .ok (.header codes name value)) :
    WritesAs comment (.header codes name value) := by
  have hnot : p.lower ∉ responseNames := by
    rw [hlower]
    decide
  have hword := codes_of_header h
  refine ⟨.withHeader name value, .of_header ?_ ?_, fun op code => ?_⟩
  · simp [declaration?, hp, hnot]
  · simp [header?, hp, hlower, h]
  · cases codes with
    | none =>
      have hall : isForAll comment = true := by
        simp [isForAll, hp, hlower, hword]
      have hcodes : codesOf comment = [] := by
        simp [codesOf, hp, hall]
      rw [written, hcodes, hall, if_neg List.not_mem_nil, if_pos rfl]
      exact Dict.get?_mapValues ..
    | some codes =>
      have hall : isForAll comment = false := by
        simp only [isForAll, hp, hword.1, decide_false, Bool.and_false]
      have hcodes : codesOf comment = codes := by
        simp [codesOf, hp, hall, hlower, hword.2]
      rw [written, hcodes, hall, if_neg Bool.false_ne_true]
      exact updateResponses_get? (Response.withHeader_withHeader name value) codes op.responses code

lemma written_of_says (hp : parts? comment = some ⟨line, lower, name, text⟩)
    (h : Says markdown line name text lower c) : WritesAs comment c := by
  have hknown : ∀ lower ∈ "header" :: responseNames, lower ∈ knownNames := by
    decide
  cases h with
  | respond hlower h => exact written_of_response hp hlower h
  | header h => exact written_of_header hp rfl h
  | extend hlower _ _ | note hlower _ =>
    exact written_of_quiet hp (fun hmem => hlower (hknown _ hmem)) fun _ => rfl
  | _ => exact written_of_quiet hp (by simp [responseNames]) fun _ => rfl

lemma exists_written (h : ofLine markdown comment = .ok said) :
    ∃ write, Writes comment write ∧ ∀ (op : Operation) (code : String),
      (op.applyAll [said]).responses.get? code =
        written write comment code (op.responses.get? code) := by
  obtain ⟨hp, rfl⟩ | ⟨p, c, hp, hsays, rfl⟩ := ofLine_cases h
  · refine ⟨id, .of_none ?_ ?_, fun op code => ?_⟩
    · simp [declaration?, hp]
    · simp [header?, hp]
    · simp [written, codesOf, isForAll, hp, Operation.applyAll]
  · exact written_of_says hp hsays

end Writes

def declarationOf? (code comment : String) : Option Response :=
  if code ∈ codesOf comment then declaration? comment else none

def headerOf? (code name comment : String) : Option ResponseHeader :=
  if code ∈ codesOf comment ∨ isForAll comment = true then headerNamed? name comment else none

def linesFrom (code : String) (lines : List String) : List String :=
  lines.dropWhile (code ∉ codesOf ·)

def lastOf? {α : Type} (f : String → Option α) (lines : List String) : Option α :=
  lines.reverse.findSome? f

structure Describes (lines : List String) (code : String) (r : Response) : Prop where
  declared : { r with headers := ∅ } = (lastOf? (declarationOf? code) lines).getD {}
  headers : ∀ name, r.headers.get? name = lastOf? (headerOf? code name) (linesFrom code lines)

section Describes

variable {line code : String} {lines : List String} {r : Response} {write : Response → Response}

lemma lastOf?_append {α : Type} (f : String → Option α) (lines : List String) (line : String) :
    lastOf? f (lines ++ [line]) = (f line).or (lastOf? f lines) := by
  rw [lastOf?, List.reverse_append, List.findSome?_append, lastOf?]
  cases h : f line <;> simp [h]

lemma lastOf?_eq_none {α : Type} {f : String → Option α} (h : ∀ line ∈ lines, f line = none) :
    lastOf? f lines = none := by
  rw [lastOf?, List.findSome?_eq_none_iff]
  simpa using h

lemma linesFrom_eq_nil (h : ∀ line ∈ lines, code ∉ codesOf line) : linesFrom code lines = [] := by
  rw [linesFrom, List.dropWhile_eq_nil_iff]
  simpa using h

lemma linesFrom_append_of_named (h : ∃ line ∈ lines, code ∈ codesOf line) (line : String) :
    linesFrom code (lines ++ [line]) = linesFrom code lines ++ [line] := by
  have hne : linesFrom code lines ≠ [] := by
    rw [linesFrom, Ne, List.dropWhile_eq_nil_iff]
    simpa using h
  rw [linesFrom, List.dropWhile_append, ← linesFrom, if_neg (by simpa using hne)]

lemma linesFrom_append_of_new (h : ∀ line ∈ lines, code ∉ codesOf line) (line : String) :
    linesFrom code (lines ++ [line]) = linesFrom code [line] := by
  rw [linesFrom, List.dropWhile_append, ← linesFrom, linesFrom_eq_nil h]
  rfl

lemma declaration?_of_isForAll (h : isForAll line = true) : declaration? line = none := by
  unfold isForAll at h
  unfold declaration?
  cases hp : parts? line with
  | none => rfl
  | some p =>
    simp only [hp, Bool.and_eq_true, decide_eq_true_eq] at h
    simp [h.1, responseNames]

-- Nothing that is said to all codes counts for a code before the first line that names it.
lemma Writes.describes_new (hwrite : Writes line write)
    (hnew : ∀ line ∈ lines, code ∉ codesOf line) (hline : code ∈ codesOf line) :
    Describes (lines ++ [line]) code (write {}) := by
  have hnone : lastOf? (declarationOf? code) lines = none :=
    lastOf?_eq_none fun line hmem => by rw [declarationOf?, if_neg (hnew line hmem)]
  have hfrom : linesFrom code (lines ++ [line]) = [] ++ [line] := by
    rw [linesFrom_append_of_new hnew, linesFrom]
    simp [hline]
  constructor
  · rw [lastOf?_append, hnone, Option.or_none, declarationOf?, if_pos hline, hwrite.declared]
  · intro name
    rw [hwrite.headers, hfrom, lastOf?_append, headerOf?, if_pos (.inl hline)]
    rfl

lemma Writes.describes (hwrite : Writes line write) (hknown : ∃ line ∈ lines, code ∈ codesOf line)
    (hline : code ∈ codesOf line ∨ isForAll line = true) (h : Describes lines code r) :
    Describes (lines ++ [line]) code (write r) := by
  have hdeclaration : declarationOf? code line = declaration? line := by
    rw [declarationOf?]
    split_ifs with hcode
    · rfl
    · exact (declaration?_of_isForAll (hline.resolve_left hcode)).symm
  constructor
  · rw [hwrite.declared, lastOf?_append, hdeclaration, h.declared]
    cases declaration? line <;> rfl
  · intro name
    rw [hwrite.headers, linesFrom_append_of_named hknown, lastOf?_append, headerOf?, if_pos hline,
      h.headers]

lemma Describes.append_other (hknown : ∃ line ∈ lines, code ∈ codesOf line)
    (hline : code ∉ codesOf line) (hall : isForAll line = false) (h : Describes lines code r) :
    Describes (lines ++ [line]) code r := by
  constructor
  · rw [lastOf?_append, declarationOf?, if_neg hline, Option.none_or, h.declared]
  · intro name
    rw [linesFrom_append_of_named hknown, lastOf?_append, headerOf?, if_neg (by simp [hline, hall]),
      Option.none_or, h.headers]

end Describes

end Attribute

namespace Operation

open Attribute

variable {markdown : Option MarkdownDirectory} {op : Operation} {lines : List String}
  {code : String}

def Accounts (lines : List String) (code : String) : Option Response → Prop
  | none => ∀ line ∈ lines, code ∉ codesOf line
  | some r => (∃ line ∈ lines, code ∈ codesOf line) ∧ Describes lines code r

lemma Accounts.isSome_iff {r : Option Response} (h : Accounts lines code r) :
    r.isSome = true ↔ ∃ line ∈ lines, code ∈ codesOf line := by
  cases r with
  | none =>
    refine iff_of_false (by simp) ?_
    rintro ⟨line, hmem, hcode⟩
    exact h line hmem hcode
  | some r => exact iff_of_true rfl h.1

lemma Accounts.append {line : String} {write : Response → Response} {r : Option Response}
    (hwrite : Writes line write) (h : Accounts lines code r) :
    Accounts (lines ++ [line]) code (written write line code r) := by
  rw [written]
  by_cases hline : code ∈ codesOf line
  · rw [if_pos hline]
    refine ⟨⟨line, by simp, hline⟩, ?_⟩
    cases r with
    | none => exact hwrite.describes_new h hline
    | some r => exact hwrite.describes h.1 (.inl hline) h.2
  · rw [if_neg hline]
    cases r with
    | none =>
      have hlines : ∀ l ∈ lines, code ∉ codesOf l := h
      have hnew : ∀ l ∈ lines ++ [line], code ∉ codesOf l := by
        simpa [or_imp, forall_and, hline] using hlines
      split_ifs <;> exact hnew
    | some r =>
      obtain ⟨⟨first, hfirst, hcode⟩, hr⟩ := h
      have hknown : ∃ l ∈ lines ++ [line], code ∈ codesOf l := ⟨first, by simp [hfirst], hcode⟩
      split_ifs with hall
      · exact ⟨hknown, hwrite.describes ⟨first, hfirst, hcode⟩ (.inr hall) hr⟩
      · exact ⟨hknown, hr.append_other ⟨first, hfirst, hcode⟩ hline (by simpa using hall)⟩

lemma readLines_accounts (h : readLines markdown {} lines = .ok op) (code : String) :
    Accounts lines code (op.responses.get? code) := by
  -- By the last line: a header for all codes reaches those that the lines before it name.
  induction lines using List.reverseRecOn generalizing op with
  | nil =>
    obtain rfl := Except.ok.inj h
    exact fun _ h => absurd h List.not_mem_nil
  | append_singleton lines line ih =>
    rw [readLines, List.foldlM_append] at h
    obtain ⟨before, hbefore, h⟩ := except_bind_eq_ok_iff.mp h
    obtain ⟨said, hsaid, rfl⟩ := readLines_eq_ok_iff.mp h
    cases hsaid with
    | cons hsaid hnil =>
      cases hnil
      obtain ⟨write, hwrite, hget⟩ := exists_written hsaid
      rw [hget]
      exact (ih hbefore).append hwrite

/-- The responses in closed form: a code has one if a line names it; the last of its response lines
describes it, and its headers are the last ones given to it by name or, from its first line on, to
all codes. -/
theorem readLines_responds (h : readLines markdown {} lines = .ok op) (code : String) :
    (code ∈ op.responses.keys ↔ ∃ line ∈ lines, code ∈ codesOf line) ∧
    ∀ r, op.responses.get? code = some r →
      { r with headers := ∅ } = (lastOf? (declarationOf? code) lines).getD {} ∧
      ∀ name, r.headers.get? name = lastOf? (headerOf? code name) (linesFrom code lines) := by
  have haccounts := readLines_accounts h code
  rw [Dict.mem_keys_iff]
  cases hr : op.responses.get? code with
  | none =>
    rw [hr] at haccounts
    refine ⟨iff_of_false (by simp) ?_, nofun⟩
    rintro ⟨line, hmem, hcode⟩
    exact haccounts line hmem hcode
  | some r =>
    rw [hr] at haccounts
    refine ⟨iff_of_true ⟨r, rfl⟩ haccounts.1, ?_⟩
    rintro r' ⟨⟩
    exact ⟨haccounts.2.declared, haccounts.2.headers⟩

/-- Lines with a header for all codes before there is one, a code that is first named by a header,
and a code that is declared anew. -/
def respondingLines : List String :=
  ["@Header all \x7bint\x7d X-Early", "@Success 200 \x7bobject\x7d Item \"ok\"",
    "@Header ALL \x7bint\x7d X-Rate \"left\"", "@Header 404 \x7bstring\x7d X-Trace",
    "@Failure 200,404 \"gone\""]

theorem readLines_responds_sample : ∃ op, readLines none {} respondingLines = .ok op ∧
    op.responses.keys = ["200", "404"] ∧
    op.responses.get? "200" =
      some ⟨none, none, "gone", ⟨[("X-Rate", ⟨"int", "left"⟩)], by decide⟩⟩ ∧
    lastOf? (headerOf? "200" "X-Rate") (linesFrom "200" respondingLines) = some ⟨"int", "left"⟩ ∧
    lastOf? (headerOf? "404" "X-Rate") (linesFrom "404" respondingLines) = none := by
  have hresponses : (readLines none {} respondingLines).map (·.responses) =
      .ok ⟨[("200", ⟨none, none, "gone", ⟨[("X-Rate", ⟨"int", "left"⟩)], by decide⟩⟩),
        ("404", ⟨none, none, "gone", ⟨[("X-Trace", ⟨"string", ""⟩)], by decide⟩⟩)], by decide⟩ := by
    decide +kernel
  obtain ⟨op, hop, hvalue⟩ := except_map_eq_ok_iff.mp hresponses
  have hfirst := (readLines_responds hop "200").2 _ (by rw [hvalue]; rfl)
  have hsecond := (readLines_responds hop "404").2 _ (by rw [hvalue]; rfl)
  refine ⟨op, hop, by rw [hvalue]; rfl, by rw [hvalue]; rfl, ?_, ?_⟩
  · rw [← hfirst.2]
    rfl
  · rw [← hsecond.2]
    rfl

end Operation

end Routewright
