import Routewright.Proofs.Go.ManifestLines
import Routewright.Proofs.Go.Quoting
import Routewright.Proofs.Text.Utf8

namespace Routewright.Go.Manifest

open Text

variable {p s l gap : List Char}

def moduleKeyword : List Char :=
  ['m', 'o', 'd', 'u', 'l', 'e']

structure IsBare (p : List Char) : Prop extends IsField p where
  no_quote : p.head? ≠ some stringQuote
  no_rawQuote : p.head? ≠ some rawQuote
  ne_open : p ≠ ['(']
  ne_close : p ≠ [')']

inductive Spelling (p : List Char) : List Char → Prop
  | quoted : Spelling p (quoteChars p)
  | bare (h : IsBare p) : Spelling p p

inductive Directive (p : List Char) : List (List Char) → Prop
  | line {gap s : List Char} (hgap : IsGap gap) (hne : gap ≠ []) (hs : Spelling p s) :
      Directive p [moduleKeyword ++ (gap ++ s)]
  | block {gap s : List Char} {voids : List (List Char)} (hgap : IsGap gap)
      (hvoids : ∀ l ∈ voids, IsVoid l) (hs : Spelling p s) :
      Directive p ((moduleKeyword ++ (gap ++ ['('])) :: voids ++ [s])

@[mk_iff]
structure IsOther (l : List Char) : Prop where
  ne_keyword : (words (code l)).head? ≠ some moduleKeyword
  no_block : ¬moduleKeyword ++ ['('] <+: code l

instance (l : List Char) : Decidable (IsOther l) :=
  decidable_of_iff' _ (isOther_iff l)

section Spellings

lemma slash_not_mem_quoteChar {c : Char} (hc : c ≠ '/') : '/' ∉ quoteChar c := by
  intro hmem
  rcases quoteChar_cases c with ⟨-, heq⟩ | ⟨d, hd, -, heq⟩ | ⟨-, heq⟩ <;> rw [heq] at hmem
  · exact hc (List.mem_singleton.mp hmem).symm
  · have hall : ∀ d ∈ escapeLetters, '/' ∉ ['\\', d] := by
      decide
    exact hall d hd hmem
  · have hdigits := (List.mem_cons.mp ((List.mem_cons.mp hmem).resolve_left (by decide))).resolve_left
      (by decide)
    exact absurd (mem_fourHexDigits hdigits).1 (by decide)

lemma contains_quoteChars (hp : contains ['/', '/'] p = false) :
    contains ['/', '/'] (quoteChars p) = false := by
  have hbody : ∀ p, contains ['/', '/'] p = false →
      contains ['/', '/'] (p.flatMap quoteChar ++ [stringQuote]) = false ∧
        ((p.flatMap quoteChar ++ [stringQuote]).head? = some '/' → p.head? = some '/') := by
    intro p hp
    induction p with
    | nil => decide
    | cons c p ih =>
      rw [contains_pair_cons, Bool.or_eq_false_iff] at hp
      obtain ⟨hbody, hhead⟩ := ih hp.2
      rw [List.flatMap_cons, List.append_assoc]
      by_cases hc : c = '/'
      · subst hc
        have hslash : quoteChar '/' = ['/'] := rfl
        have hnext : p.head? ≠ some '/' := by
          simpa using hp.1
        rw [hslash, List.singleton_append, contains_pair_cons, hbody]
        exact ⟨by simpa using mt hhead hnext, fun _ => rfl⟩
      · have hfree := slash_not_mem_quoteChar hc
        refine ⟨by rw [contains_pair_append_left hfree, hbody], fun h => ?_⟩
        have hne : quoteChar c ≠ [] := by
          rcases quoteChar_cases c with ⟨-, heq⟩ | ⟨d, -, -, heq⟩ | ⟨-, heq⟩ <;> simp [heq]
        rw [List.head?_append_of_ne_nil _ hne] at h
        exact absurd (List.mem_of_head? h) hfree
  rw [quoteChars, contains_pair_cons, (hbody p hp).1]
  rfl

structure IsValue (p s : List Char) : Prop where
  ne_nil : s ≠ []
  trim_eq : trim s = s
  no_comment : contains ['/', '/'] s = false
  no_newline : '\n' ∉ s
  ne_open : s ≠ ['(']
  ne_close : s ≠ [')']
  value_eq : pathValue? s = some p

lemma Spelling.isValue (h : Spelling p s) (hne : p ≠ []) (hp : contains ['/', '/'] p = false) :
    IsValue p s := by
  have hfilter : (some p).filter (!·.isEmpty) = some p := by
    simp [hne]
  cases h with
  | quoted =>
    have htrim : trim (quoteChars p) = quoteChars p := trim_quoted _
    refine ⟨by simp [quoteChars], htrim, contains_quoteChars hp, newline_not_mem_quoteChars p,
      fun h => absurd (List.cons.inj h).1 (by decide),
      fun h => absurd (List.cons.inj h).1 (by decide), ?_⟩
    have hquote : (quoteChars p).head? = some stringQuote := rfl
    rw [pathValue?, htrim, hquote, if_pos (.inl rfl), unquote?_quoteChars, hfilter]
  | bare h =>
    refine ⟨hne, h.trim_eq, hp, fun hmem => absurd (h.not_blank _ hmem) (by decide), h.ne_open,
      h.ne_close, ?_⟩
    rw [pathValue?, h.trim_eq, if_neg (not_or.mpr ⟨h.no_quote, h.no_rawQuote⟩),
      h.toIsField.words_self, List.head?_cons, hfilter]

end Spellings

section Search

variable {e : List Char} {rest ls : List (List Char)}

lemma moduleOperand?_append (rest : List Char) : moduleOperand? (moduleKeyword ++ rest) =
    if (trimStart rest).length = rest.length ∧ (trimStart rest).head? ≠ some '(' then none
    else some (trimStart rest) := by
  have hdrop : dropStart? "module".toList (moduleKeyword ++ rest) = some rest :=
    dropStart?_append _ _
  rw [moduleOperand?, hdrop]

lemma IsOther.moduleOperand?_eq (h : IsOther l) : moduleOperand? (code l) = none := by
  obtain ⟨hword, hblock⟩ := h
  cases hdrop : dropStart? "module".toList (code l) with
  | none => rw [moduleOperand?, hdrop]
  | some rest =>
    have htext : moduleKeyword ++ rest = code l := dropStart?_eq_some_iff.mp hdrop
    rw [← htext] at hword hblock ⊢
    have hkeyword : IsField moduleKeyword := by
      decide
    cases rest with
    | nil =>
      rw [List.append_nil, hkeyword.words_self] at hword
      exact absurd rfl hword
    | cons c rest =>
      have hc : isBlank c = false := by
        by_contra hblank
        rw [words_append_cons (Bool.not_eq_false _ ▸ hblank), hkeyword.words_self] at hword
        exact hword rfl
      have hopen : c ≠ '(' := by
        rintro rfl
        exact hblock ⟨rest, by simp⟩
      have hstart : trimStart (c :: rest) = c :: rest := List.dropWhile_cons_of_neg (by simp [hc])
      rw [moduleOperand?_append, hstart, if_pos ⟨rfl, by simpa using hopen⟩]

lemma findPath_others (h : ∀ e ∈ ls, code e = e ∧ e ≠ [] ∧ moduleOperand? e = none)
    (rest : List (List Char)) : findPath false (ls ++ rest) = findPath false rest := by
  induction ls with
  | nil => rfl
  | cons e ls ih =>
    obtain ⟨⟨hcode, hne, hoperand⟩, hls⟩ := List.forall_mem_cons.mp h
    simp only [List.cons_append, findPath, hcode, List.isEmpty_iff, hne, hoperand, if_false,
      Bool.false_eq_true, ih hls]

lemma findPath_directive {operand : List Char} (hcode : code e = e)
    (hoperand : moduleOperand? e = some operand) (rest : List (List Char)) :
    findPath false (e :: rest) =
      if operand = ['('] then findPath true rest else pathValue? operand := by
  have hne : e ≠ [] := by
    rintro rfl
    cases hoperand
  simp only [findPath, hcode, List.isEmpty_iff, hne, hoperand, if_false, Bool.false_eq_true]

lemma findPath_value (h : IsValue p s) (rest : List (List Char)) :
    findPath true (s :: rest) = some p := by
  have hcode : code s = s := code_of_not_contains h.no_comment h.trim_eq
  simp only [findPath, hcode, List.isEmpty_iff, h.ne_nil, h.ne_close, if_false, if_true, h.value_eq]

end Search

section Reading

variable {e r : List Char} {earlier directive rest : List (List Char)}

lemma findPath_earlier (h : ∀ l ∈ earlier, '\n' ∉ l ∧ IsOther l) (rest : List (List Char)) :
    findPath false (earlier.flatMap entries ++ rest) = findPath false rest := by
  refine findPath_others (fun e he => ?_) rest
  obtain ⟨l, hl, he⟩ := List.mem_flatMap.mp he
  obtain ⟨hcode, hne⟩ := code_of_mem_entries he
  rw [entries_of_line (h l hl).1] at he
  obtain rfl := List.mem_singleton.mp (List.mem_filter.mp he).1
  exact ⟨hcode, hne, (h l hl).2.moduleOperand?_eq⟩

lemma entries_keyword (hgap : IsGap gap) (hne : r ≠ []) (htrim : trim r = r)
    (hcomment : contains ['/', '/'] r = false) (hline : '\n' ∉ r) :
    code (moduleKeyword ++ (gap ++ r)) = moduleKeyword ++ (gap ++ r) ∧
      entries (moduleKeyword ++ (gap ++ r)) = [moduleKeyword ++ (gap ++ r)] := by
  have hcode : code (moduleKeyword ++ (gap ++ r)) = moduleKeyword ++ (gap ++ r) := by
    refine code_of_not_contains ?_ ?_
    · rw [contains_pair_append_left (by decide), contains_pair_append_left hgap.no_slash, hcomment]
    · rw [← List.append_assoc]
      exact trim_between (by decide) (by decide) htrim hne gap
  refine ⟨hcode, ?_⟩
  have hfree : '\n' ∉ moduleKeyword ++ (gap ++ r) := by
    simp [hgap.no_newline, hline, moduleKeyword]
  rw [entries_of_line hfree, hcode]
  rfl

lemma IsValue.entries_eq (h : IsValue p s) : entries s = [s] := by
  rw [entries_of_line h.no_newline, code_of_not_contains h.no_comment h.trim_eq]
  simp [h.ne_nil]

lemma flatMap_entries_voids {voids : List (List Char)} (h : ∀ l ∈ voids, IsVoid l) :
    voids.flatMap entries = [] :=
  List.flatMap_eq_nil_iff.mpr fun l hl => (h l hl).entries_eq

lemma Directive.findPath_eq (h : Directive p directive) (hne : p ≠ [])
    (hp : contains ['/', '/'] p = false) (rest : List (List Char)) :
    findPath false (directive.flatMap entries ++ rest) = some p := by
  cases h with
  | @line gap s hgap hgapne hs =>
    have hvalue := hs.isValue hne hp
    obtain ⟨hcode, hentries⟩ := entries_keyword hgap hvalue.ne_nil hvalue.trim_eq
      hvalue.no_comment hvalue.no_newline
    have hstart : trimStart (gap ++ s) = s := by
      rw [trimStart_blanks_append hgap.blank, trimStart_of_trim_eq hvalue.trim_eq]
    have hoperand : moduleOperand? (moduleKeyword ++ (gap ++ s)) = some s := by
      rw [moduleOperand?_append, hstart, if_neg]
      simp [hgapne]
    rw [List.flatMap_singleton, hentries, List.singleton_append,
      findPath_directive hcode hoperand, if_neg hvalue.ne_open, hvalue.value_eq]
  | @block gap s voids hgap hvoids hs =>
    have hvalue := hs.isValue hne hp
    obtain ⟨hcode, hentries⟩ :=
      entries_keyword (r := ['(']) hgap (by decide) (by decide) (by decide) (by decide)
    have hoperand : moduleOperand? (moduleKeyword ++ (gap ++ ['('])) = some ['('] := by
      rw [moduleOperand?_append, trimStart_blanks_append hgap.blank]
      exact if_neg fun h => h.2 rfl
    rw [List.cons_append, List.flatMap_cons, List.flatMap_append, flatMap_entries_voids hvoids,
      List.flatMap_singleton, hentries, hvalue.entries_eq]
    exact (findPath_directive hcode hoperand _).trans (findPath_value hvalue rest)

end Reading

/-- The module path is read in every layout of its directive, behind lines that begin no other one
and whatever follows. No change in the layout of a manifest changes what is read. -/
theorem modulePath?_reads (hne : p ≠ []) (hp : ¬['/', '/'] <:+: p) :
    (∀ (earlier directive : List (List Char)) (later : List Char) (bytes : ByteArray),
      (∀ l ∈ earlier, '\n' ∉ l ∧ IsOther l) → Directive p directive → AtLineEnd later →
      Utf8.decodeLossy bytes = ['\n'].intercalate (earlier ++ directive) ++ later →
      modulePath? bytes = some (.ofList p)) ∧
    ∀ bytes bytes' : ByteArray,
      Relation.ReflTransGen Relaid (Utf8.decodeLossy bytes) (Utf8.decodeLossy bytes') →
      modulePath? bytes' = modulePath? bytes := by
  have hslashes : contains ['/', '/'] p = false := by
    rwa [← Bool.not_eq_true, contains_iff_infix]
  constructor
  · intro earlier directive later bytes hearlier hdirective hlater hbytes
    rw [modulePath?, hbytes, modulePathOfText_eq, hlater.entries_append, entries_intercalate,
      List.flatMap_append, List.append_assoc, findPath_earlier hearlier,
      hdirective.findPath_eq hne hslashes, Option.map_some]
  · intro bytes bytes' h
    rw [modulePath?, modulePath?, modulePathOfText_eq, modulePathOfText_eq, entries_eq_of_layout h]

theorem modulePath?_reads_block :
    modulePath? "modulex\r\nmodule (\n// its path\n\"app/x\"\n)\n".toUTF8 = some "app/x" ∧
      modulePath? "modulex\r\nmodule (\n// its path\n\"app/x\" // here\n)\n".toUTF8 =
        modulePath? "modulex\r\nmodule (\n// its path\n\"app/x\"\n)\n".toUTF8 := by
  have hgap : IsGap [' '] := by
    decide
  have hvoid : IsVoid ([] ++ '/' :: '/' :: " its path".toList) :=
    .comment (by decide) (by decide)
  have hdirective : Directive ['a', 'p', 'p', '/', 'x']
      ((moduleKeyword ++ ([' '] ++ ['('])) :: [[] ++ '/' :: '/' :: " its path".toList] ++
        [quoteChars ['a', 'p', 'p', '/', 'x']]) :=
    .block hgap (List.forall_mem_singleton.mpr hvoid) .quoted
  have hlater : AtLineEnd ['\n', ')', '\n'] := .inr (.inl rfl)
  have htail : IsTail ([' '] ++ '/' :: '/' :: " here".toList) :=
    .comment hgap (by decide) (by decide)
  have hplain : "modulex\r\nmodule (\n// its path\n\"app/x\"\n)\n".toList =
      "modulex\r\nmodule (\n// its path\n\"app/x\"".toList ++ ['\n', ')', '\n'] := by
    decide +kernel
  have hlonger : "modulex\r\nmodule (\n// its path\n\"app/x\" // here\n)\n".toList =
      "modulex\r\nmodule (\n// its path\n\"app/x\"".toList ++
        ([' '] ++ '/' :: '/' :: " here".toList ++ ['\n', ')', '\n']) := by
    decide +kernel
  obtain ⟨hreads, hrelaid⟩ := modulePath?_reads (p := ['a', 'p', 'p', '/', 'x']) (by decide) (by decide)
  refine ⟨hreads ["modulex\r".toList] _ _ _ (by decide +kernel) hdirective hlater ?_,
    hrelaid _ _ (.single ?_)⟩
  · rw [Utf8.decodeLossy_toUTF8]
    decide +kernel
  · rw [Utf8.decodeLossy_toUTF8, Utf8.decodeLossy_toUTF8, hplain, hlonger]
    exact .tail hlater htail

end Routewright.Go.Manifest
