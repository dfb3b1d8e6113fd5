import Routewright.Proofs.Go.Reading

namespace Routewright.Go

mutual

def Statement.decodes : Statement → Bool
  | .whenEmpty _ body => anyDecodes body
  | .whenPresent _ body => anyDecodes body
  | .decode .. => true
  | _ => false

def anyDecodes : List Statement → Bool
  | [] => false
  | s :: rest => s.decodes || anyDecodes rest

end

lemma anyDecodes_append (l m : List Statement) :
    anyDecodes (l ++ m) = (anyDecodes l || anyDecodes m) := by
  induction l with
  | nil => rfl
  | cons s l ih => rw [List.cons_append, anyDecodes, anyDecodes, ih, Bool.or_assoc]

def decodingMark : String :=
  "if err := json.Unmarshal([]byte("

def opensDecoding (line : List Char) : Bool :=
  decodingMark.toList.isPrefixOf (line.dropWhile (· == '\t'))

section Lines

variable {name : String} {s t : List Char} {depth : ℕ}

lemma opensDecoding_indent (depth : ℕ) (line : String) :
    opensDecoding (indent depth line).toList = opensDecoding line.toList := by
  have htabs : ∀ c ∈ List.replicate depth '\t', (c == '\t') = true := by
    intro c hc
    rw [List.eq_of_mem_replicate hc]
    rfl
  rw [opensDecoding, indent, String.toList_append, String.toList_ofList,
    List.dropWhile_append_of_pos htabs]
  rfl

lemma opensDecoding_of_head {c : Char} (hc : c ≠ '\t') (hi : c ≠ 'i') :
    opensDecoding (c :: s) = false := by
  have hmark : decodingMark.toList = 'i' :: decodingMark.toList.tail := by
    decide
  have hne : ('i' == c) = false := beq_false_of_ne hi.symm
  rw [opensDecoding, List.dropWhile_cons_of_neg (by simpa using hc), hmark, List.isPrefixOf, hne,
    Bool.false_and]

lemma decodingMark_eq : decodingMark.toList = "if".toList ++ ' ' :: decodingMark.toList.drop 3 := by
  decide

lemma head_of_isName (h : IsName name) : ∃ c r, name.toList = c :: r ∧ c ≠ '\t' := by
  have hchars := isNameChar_of_mem h.1
  cases hname : name.toList with
  | nil =>
    have hidentifier := h.1
    rw [hname] at hidentifier
    cases hidentifier
  | cons c r =>
    refine ⟨c, r, rfl, ?_⟩
    rintro rfl
    have htab : Lexeme.isNameChar '\t' = false :=
      isNameChar_of_ascii (by decide)
    rw [hname] at hchars
    rw [hchars '\t' List.mem_cons_self] at htab
    cases htab

lemma opensDecoding_name (h : IsName name) (ht : EndsName t) :
    opensDecoding (name.toList ++ t) = false := by
  obtain ⟨c, r, hname, hc⟩ := head_of_isName h
  have hdrop : (name.toList ++ t).dropWhile (· == '\t') = name.toList ++ t := by
    rw [hname, List.cons_append, List.dropWhile_cons_of_neg (by simpa using hc)]
  rw [opensDecoding, hdrop, Bool.eq_false_iff]
  intro hprefix
  obtain ⟨rest, hrest⟩ := List.isPrefixOf_iff_prefix.mp hprefix
  have hcut := cutName?_append h.1 ht
  have hif : cutName? ("if".toList ++ ' ' :: (decodingMark.toList.drop 3 ++ rest)) =
      some ("if", ' ' :: (decodingMark.toList.drop 3 ++ rest)) :=
    cutName?_append (isIdentifier_of_ascii (by decide)) (endsName_cons (by decide) _)
  rw [← hrest, decodingMark_eq, List.append_assoc, List.cons_append, hif] at hcut
  obtain ⟨rfl, -⟩ := Prod.mk.inj (Option.some.inj hcut)
  exact h.2 (by decide)

lemma opensDecoding_condition {sign : String} (hsign : sign ∈ [" == \"\" \x7b", " != \"\" \x7b"])
    (h : IsName name) : opensDecoding ("if " ++ name ++ sign).toList = false := by
  have hsigns : ∀ sign ∈ [" == \"\" \x7b", " != \"\" \x7b"], sign.toList.take 2 ≠ " :".toList ∧
      (sign.toList.head?.any fun c => [' ', '.', '(', ')', ','].contains c) = true := by
    decide
  obtain ⟨hne, hhead⟩ := hsigns sign hsign
  have hmark : decodingMark.toList =
      "if ".toList ++ ("err".toList ++ (" :".toList ++ decodingMark.toList.drop 8)) := by
    decide
  have htext : ("if " ++ name ++ sign).toList = "if ".toList ++ (name.toList ++ sign.toList) := by
    rw [String.toList_append, String.toList_append, List.append_assoc]
  have hdrop : ("if ".toList ++ (name.toList ++ sign.toList)).dropWhile (· == '\t') =
      "if ".toList ++ (name.toList ++ sign.toList) := rfl
  rw [htext, opensDecoding, hdrop, Bool.eq_false_iff, ne_eq, List.isPrefixOf_iff_prefix, hmark,
    List.prefix_append_right_inj]
  rintro ⟨rest, hrest⟩
  have hends := endsName_append hhead []
  rw [List.append_nil] at hends
  have hcut := cutName?_append h.1 hends
  have herr : cutName? ("err".toList ++ (" :".toList ++ (decodingMark.toList.drop 8 ++ rest))) =
      some ("err", " :".toList ++ (decodingMark.toList.drop 8 ++ rest)) :=
    cutName?_append (isIdentifier_of_ascii (by decide)) (endsName_append (by decide) _)
  rw [← hrest, List.append_assoc, List.append_assoc, herr] at hcut
  obtain ⟨-, hsame⟩ := Prod.mk.inj (Option.some.inj hcut)
  refine hne ?_
  rw [← hsame]
  rfl

lemma opensDecoding_statement {sign : String} (h : IsName name) (hsign : sign.toList.head?.any
    fun c => [' ', '.', '(', ')', ','].contains c) (rest : String) :
    opensDecoding (name ++ sign ++ rest).toList = false := by
  rw [String.toList_append, String.toList_append, List.append_assoc]
  exact opensDecoding_name h (endsName_append hsign _)

lemma opensDecoding_decode (raw pointer : String) : opensDecoding
    (decodingMark ++ raw ++ "), " ++ pointer ++ "); err != nil \x7b").toList = true := by
  have hdrop : ∀ rest, (decodingMark.toList ++ rest).dropWhile (· == '\t') =
      decodingMark.toList ++ rest := fun _ => rfl
  rw [String.toList_append, String.toList_append, String.toList_append, String.toList_append,
    opensDecoding, List.append_assoc, List.append_assoc, List.append_assoc, hdrop]
  exact List.isPrefixOf_iff_prefix.mpr (List.prefix_append _ _)

end Lines

section Blocks

def anyOpensDecoding (lines : List String) : Bool :=
  lines.any fun line => opensDecoding line.toList

variable {depth : ℕ} {line : String}

lemma anyOpensDecoding_line (h : opensDecoding line.toList = false) :
    anyOpensDecoding [indent depth line] = false := by
  rw [anyOpensDecoding, List.any_cons, opensDecoding_indent, h]
  rfl

lemma anyOpensDecoding_block (line : String) (lines : List String) :
    anyOpensDecoding (indent depth line :: (lines ++ [indent depth "\x7d"])) =
      (opensDecoding line.toList || anyOpensDecoding lines) := by
  have hbrace : anyOpensDecoding [indent depth "\x7d"] = false :=
    anyOpensDecoding_line (by decide)
  rw [anyOpensDecoding, List.any_cons, List.any_append, opensDecoding_indent]
  rw [anyOpensDecoding] at hbrace
  rw [hbrace, Bool.or_false]
  rfl

mutual

lemma Statement.anyOpensDecoding_lines (s : Statement) (depth : ℕ) (h : s.IsReadable) :
    anyOpensDecoding (s.lines depth) = s.decodes := by
  cases s with
  | declare name value => exact anyOpensDecoding_line (opensDecoding_statement h.1 (by decide) _)
  | assign name value => exact anyOpensDecoding_line (opensDecoding_statement h.1 (by decide) _)
  | append name value => exact anyOpensDecoding_line (opensDecoding_statement h.1 (by decide) _)
  | allocate name type =>
    refine anyOpensDecoding_line ?_
    rw [String.append_assoc]
    exact opensDecoding_statement h (by decide) _
  | store pointer value =>
    refine anyOpensDecoding_line ?_
    rw [String.append_assoc, String.append_assoc, String.toList_append]
    exact opensDecoding_of_head (by decide) (by decide)
  | whenEmpty name body =>
    obtain ⟨hname, hbody⟩ : IsName name ∧ AreReadable body := h
    rw [Statement.lines, anyOpensDecoding_block, opensDecoding_condition (by simp) hname,
      anyOpensDecoding_statementLines body (depth + 1) hbody]
    rfl
  | whenPresent name body =>
    obtain ⟨hname, hbody⟩ : IsName name ∧ AreReadable body := h
    rw [Statement.lines, anyOpensDecoding_block, opensDecoding_condition (by simp) hname,
      anyOpensDecoding_statementLines body (depth + 1) hbody]
    rfl
  | decode raw pointer onFailure =>
    rw [Statement.lines, anyOpensDecoding_block]
    exact (congrArg (· || _) (opensDecoding_decode raw pointer)).trans (Bool.true_or _)
  | refuse name =>
    refine anyOpensDecoding_line ?_
    rw [String.append_assoc, String.toList_append]
    exact opensDecoding_of_head (by decide) (by decide)
  | leave => exact anyOpensDecoding_line (by decide)
  | call function args =>
    obtain ⟨⟨package, member, rfl, hpackage, -, -⟩, -⟩ := h
    refine anyOpensDecoding_line ?_
    rw [String.append_assoc, String.append_assoc, String.append_assoc]
    exact opensDecoding_statement hpackage (by decide) _

lemma anyOpensDecoding_statementLines (l : List Statement) (depth : ℕ) (h : AreReadable l) :
    anyOpensDecoding (statementLines depth l) = anyDecodes l := by
  cases l with
  | nil => rfl
  | cons s rest =>
    obtain ⟨hs, hrest⟩ : s.IsReadable ∧ AreReadable rest := h
    rw [statementLines, anyOpensDecoding, List.any_append]
    exact congrArg₂ or (s.anyOpensDecoding_lines depth hs)
      (anyOpensDecoding_statementLines rest depth hrest)

end

end Blocks

end Routewright.Go
