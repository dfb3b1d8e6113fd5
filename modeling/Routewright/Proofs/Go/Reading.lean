import Routewright.Proofs.Go.Identifier
import Routewright.Proofs.Go.Layout

/-! The statements that a reader finds in the lines of a function. How deep a line is indented
means nothing: a block goes on up to the brace that closes it. -/

namespace Routewright.Go

open Text Lexeme

def cutName? (s : List Char) : Option (String × List Char) :=
  if s.head?.any isNameStart then
    some (.ofList (s.takeWhile isNameChar), s.dropWhile isNameChar)
  else none

def cutKey? (s : List Char) : Option (String × List Char) :=
  match cutLiteral? s with
  | some (literal, ')' :: rest) => (unquote? literal).map fun key => (.ofList key, rest)
  | _ => none

def lookupCalls : List (String × (String → TextExpr)) :=
  [(".PathValue(", .pathValue), (".URL.Query().Get(", .queryValue), (".Header.Get(", .headerValue)]

def cutTerm? (s : List Char) : Option (TextExpr × List Char) :=
  match s with
  | '\x22' :: _ =>
    (cutLiteral? s).map fun x => (.literal (.ofList x.1.tail.dropLast), x.2)
  | _ =>
    (cutName? s).bind fun x =>
      if x.1 = "r" then
        lookupCalls.findSome? fun call =>
          ((dropStart? call.1.toList x.2).bind cutKey?).map fun y => (call.2 y.1, y.2)
      else some (.var x.1, x.2)

/-- The sum of a text and at most `n` others. -/
def readSum : ℕ → TextExpr → List Char → Option TextExpr
  | _, left, [] => some left
  | n + 1, left, ' ' :: '+' :: ' ' :: s =>
    (cutTerm? s).bind fun x => readSum n (.append left x.1) x.2
  | _, _, _ => none

def readText (s : List Char) : Option TextExpr :=
  (cutTerm? s).bind fun x => readSum s.length x.1 x.2

def readArgument (s : List Char) : Option Argument :=
  match s with
  | '*' :: s => (cutName? s).bind fun x => if x.2 = [] then some ⟨x.1, true⟩ else none
  | s => (cutName? s).bind fun x => if x.2 = [] then some ⟨x.1, false⟩ else none

def readArguments (s : List Char) : Option (List Argument) :=
  if s = [] then some []
  else ((splitOnChar ',' s).map (·.dropWhile (· == ' '))).mapM readArgument

inductive Line
  | simple (s : Statement)
  | opens (block : List Statement → Statement)
  | closes

def readDeclaration (name : String) (s : List Char) : Option Line :=
  match cutTerm? s with
  | some (.var x, '(' :: type) =>
    if x = "new" ∧ type.getLast? = some ')' then
      some (.simple (.allocate name (.ofList type.dropLast)))
    else none
  | _ => (readText s).map fun value => .simple (.declare name value)

def readRefusal (s : List Char) : Option Line :=
  ((dropStart? "w, ".toList s).bind cutName?).bind fun x =>
    if x.2 = ", http.StatusTeapot)".toList then some (.simple (.refuse x.1)) else none

def readCall (package : String) (s : List Char) : Option Line :=
  (cutName? s).bind fun x =>
    match x.2 with
    | '(' :: args =>
      if package = "http" ∧ x.1 = "Error" then readRefusal args
      else if args.getLast? = some ')' then
        (readArguments args.dropLast).map fun args =>
          .simple (.call (package ++ "." ++ x.1) args)
      else none
    | _ => none

def readCondition (s : List Char) : Option Line :=
  (cutName? s).bind fun x =>
    if x.2 = " == \"\" \x7b".toList then some (.opens (.whenEmpty x.1))
    else if x.2 = " != \"\" \x7b".toList then some (.opens (.whenPresent x.1))
    else if x.1 = "err" then
      ((dropStart? " := json.Unmarshal([]byte(".toList x.2).bind cutName?).bind fun raw =>
        ((dropStart? "), ".toList raw.2).bind cutName?).bind fun pointer =>
          if pointer.2 = "); err != nil \x7b".toList then
            some (.opens (.decode raw.1 pointer.1))
          else none
    else none

def readStatement (name : String) (s : List Char) : Option Line :=
  match s with
  | ' ' :: ':' :: '=' :: ' ' :: s => readDeclaration name s
  | ' ' :: '=' :: ' ' :: s => (readText s).map fun value => .simple (.assign name value)
  | ' ' :: '+' :: '=' :: ' ' :: s => (readText s).map fun value => .simple (.append name value)
  | '.' :: s => readCall name s
  | _ => none

def readLine (s : List Char) : Option Line :=
  match s with
  | ['\x7d'] => some .closes
  | '*' :: s =>
    (cutName? s).bind fun x =>
      ((dropStart? " = ".toList x.2).bind readText).map fun value => .simple (.store x.1 value)
  | s =>
    (cutName? s).bind fun x =>
      if x.1 = "return" then if x.2 = [] then some (.simple .leave) else none
      else if x.1 = "if" then (dropStart? [' '] x.2).bind readCondition
      else readStatement x.1 x.2

/-- The statements of the innermost block so far, and for each block that is open what it becomes
and the statements in front of it. -/
structure Reading where
  done : List Statement
  outer : List ((List Statement → Statement) × List Statement)

def Reading.add (r : Reading) : Line → Option Reading
  | .simple s => some ⟨r.done ++ [s], r.outer⟩
  | .opens block => some ⟨[], (block, r.done) :: r.outer⟩
  | .closes =>
    match r.outer with
    | [] => none
    | (block, before) :: outer => some ⟨before ++ [block r.done], outer⟩

def Reading.feed (r : Reading) (line : List Char) : Option Reading :=
  (readLine (line.dropWhile (· == '\t'))).bind r.add

def readStatements (lines : List (List Char)) : Option (List Statement) :=
  match lines.foldlM Reading.feed ⟨[], []⟩ with
  | some ⟨body, []⟩ => some body
  | _ => none

section Names

variable {name : String} {s t : List Char}

def EndsName (s : List Char) : Prop :=
  ∀ c, s.head? = some c → isNameChar c = false

lemma not_isNameChar_of_sign : ∀ c ∈ [' ', '.', '(', ')', ','], isNameChar c = false := by
  have hsigns : ∀ c ∈ [' ', '.', '(', ')', ','], c.toNat < 128 ∧ isAsciiWord c = false := by
    decide
  exact fun c hc => (isNameChar_of_ascii (hsigns c hc).1).trans (hsigns c hc).2

lemma endsName_nil : EndsName [] :=
  fun _ h => nomatch h

lemma endsName_cons {c : Char} (hc : c ∈ [' ', '.', '(', ')', ',']) (s : List Char) :
    EndsName (c :: s) := by
  intro d hd
  obtain rfl := Option.some.inj hd
  exact not_isNameChar_of_sign c hc

lemma endsName_append {mark : String} (hmark : mark.toList.head?.any fun c =>
    [' ', '.', '(', ')', ','].contains c) (s : List Char) : EndsName (mark.toList ++ s) := by
  intro c hc
  obtain ⟨d, hd, hsign⟩ := (Option.any_eq_true _ _).mp hmark
  rw [List.head?_append, hd] at hc
  obtain rfl := Option.some.inj hc
  exact not_isNameChar_of_sign d (List.contains_iff_mem.mp hsign)

lemma cutName?_append (h : isIdentifier name.toList = true) (hs : EndsName s) :
    cutName? (name.toList ++ s) = some (name, s) := by
  have hchars := isNameChar_of_mem h
  have htake : (name.toList ++ s).takeWhile isNameChar = name.toList := by
    rw [List.takeWhile_append_of_pos hchars]
    cases s with
    | nil => simp
    | cons c s => rw [List.takeWhile_cons_of_neg (by simp [hs c rfl]), List.append_nil]
  have hdrop : (name.toList ++ s).dropWhile isNameChar = s := by
    rw [List.dropWhile_append_of_pos hchars]
    cases s with
    | nil => rfl
    | cons c s => rw [List.dropWhile_cons_of_neg (by simp [hs c rfl])]
  have hhead : (name.toList ++ s).head?.any isNameStart = true := by
    cases hname : name.toList with
    | nil =>
      rw [hname] at h
      cases h
    | cons c r =>
      rw [hname] at h
      exact (Bool.and_eq_true_iff.mp h).1
  rw [cutName?, if_pos hhead, htake, hdrop, String.ofList_toList]

lemma cutName?_self (h : isIdentifier name.toList = true) :
    cutName? name.toList = some (name, []) := by
  have hcut := cutName?_append h endsName_nil
  rwa [List.append_nil] at hcut

end Names

section Texts

variable {e : TextExpr} {s : List Char}

def IsLiteralSource (source : String) : Prop :=
  ∀ rest, cutLiteral? ('\x22' :: (source.toList ++ '\x22' :: rest)) =
    some ('\x22' :: (source.toList ++ ['\x22']), rest)

lemma isLiteralSource_of_length {source : String} (h : ∀ r : SourceText,
    stringLength? (source.toList.map some ++ some '\x22' :: r) =
      some (source.toList.length + 1)) : IsLiteralSource source := by
  intro rest
  have htext : (source.toList ++ '\x22' :: rest).map some =
      source.toList.map some ++ some '\x22' :: rest.map some := by
    simp
  have hsplit : '\x22' :: (source.toList ++ '\x22' :: rest) =
      ('\x22' :: (source.toList ++ ['\x22'])) ++ rest := by
    simp
  rw [cutLiteral?, first?_quote, htext, h, Option.map_some, hsplit]
  simp only [List.splitAt_eq]
  rw [List.take_left' (by simp), List.drop_left' (by simp)]

lemma isLiteralSource_of_plain {source : String} (h : isPlainText source = true) :
    IsLiteralSource source := by
  refine isLiteralSource_of_length fun r => ?_
  rw [stringLength?_plain_append (List.all_eq_true.mp h), stringLength?, Option.map_some,
    Nat.add_comm]

lemma isLiteralSource_line {source : String} (h : isPlainText source = true) :
    IsLiteralSource (source ++ "\\n") := by
  refine isLiteralSource_of_length fun r => ?_
  have hline : "\\n".toList = ['\\', 'n'] := by
    decide
  have htext : (source ++ "\\n").toList.map some ++ some '\x22' :: r =
      source.toList.map some ++ some '\\' :: some 'n' :: some '\x22' :: r := by
    simp [hline]
  rw [htext, stringLength?_plain_append (List.all_eq_true.mp h), stringLength?,
    if_pos (escapeFits_letter (by decide) _), stringLength?, Option.map_some, Option.map_some,
    String.toList_append, List.length_append, hline]
  exact congrArg some (by simp; omega)

def TextExpr.IsTerm : TextExpr → Prop
  | var name => isIdentifier name.toList = true ∧ name ≠ "r"
  | literal source => IsLiteralSource source
  | append _ _ => False
  | _ => True

def TextExpr.IsReadable : TextExpr → Prop
  | append left right => left.IsReadable ∧ right.IsTerm
  | e => e.IsTerm

def EndsTerm (s : List Char) : Prop :=
  s = [] ∨ ∃ rest, s = ' ' :: rest

lemma EndsTerm.endsName (h : EndsTerm s) : EndsName s := by
  rcases h with rfl | ⟨rest, rfl⟩
  · exact endsName_nil
  · exact endsName_cons (by decide) rest

lemma cutName?_quote (s : List Char) : cutName? ('\x22' :: s) = none := by
  have hstart : isNameStart '\x22' = false :=
    isNameStart_of_ascii (by decide) (by decide)
  simp [cutName?, hstart]

lemma cutTerm?_name {name : String} (h : isIdentifier name.toList = true) (hs : EndsName s) :
    cutTerm? (name.toList ++ s) =
      if name = "r" then
        lookupCalls.findSome? fun call =>
          ((dropStart? call.1.toList s).bind cutKey?).map fun y => (call.2 y.1, y.2)
      else some (.var name, s) := by
  have hcut := cutName?_append h hs
  rw [cutTerm?.eq_def]
  split
  · rename_i rest heq
    rw [heq, cutName?_quote] at hcut
    cases hcut
  · rw [hcut]
    rfl

lemma cutKey?_quote (key : String) (s : List Char) :
    cutKey? (quoteChars key.toList ++ ')' :: s) = some (key, s) := by
  simp only [cutKey?, cutLiteral?_quoteChars, unquote?_quoteChars, Option.map_some,
    String.ofList_toList]

lemma cutTerm?_literal {source : String} (h : IsLiteralSource source) (s : List Char) :
    cutTerm? ('\x22' :: (source.toList ++ '\x22' :: s)) = some (.literal source, s) := by
  simp only [cutTerm?, h s, Option.map_some, List.tail_cons, List.dropLast_concat,
    String.ofList_toList]

lemma cutTerm?_lookup {call : String × (String → TextExpr)} (h : call ∈ lookupCalls)
    (key : String) (s : List Char) :
    cutTerm? ("r".toList ++ (call.1.toList ++ (quoteChars key.toList ++ ')' :: s))) =
      some (call.2 key, s) := by
  have hends : EndsName (call.1.toList ++ (quoteChars key.toList ++ ')' :: s)) := by
    intro c hc
    have hhead : ∀ call ∈ lookupCalls, call.1.toList.head? = some '.' := by
      decide
    rw [List.head?_append, hhead call h] at hc
    obtain rfl := Option.some.inj hc
    exact not_isNameChar_of_sign '.' (by decide)
  have hquery : ∀ t, dropStart? ".PathValue(".toList (".URL.Query().Get(".toList ++ t) = none :=
    fun _ => rfl
  have hheader : ∀ t, dropStart? ".PathValue(".toList (".Header.Get(".toList ++ t) = none ∧
      dropStart? ".URL.Query().Get(".toList (".Header.Get(".toList ++ t) = none :=
    fun _ => ⟨rfl, rfl⟩
  rw [cutTerm?_name (isIdentifier_of_ascii (by decide)) hends, if_pos rfl]
  simp only [lookupCalls, List.mem_cons, List.not_mem_nil, or_false] at h
  rcases h with rfl | rfl | rfl
  · simp only [lookupCalls, List.findSome?_cons, dropStart?_append, Option.bind_some,
      cutKey?_quote, Option.map_some]
  · simp only [lookupCalls, List.findSome?_cons, hquery, dropStart?_append, Option.bind_none,
      Option.map_none, Option.bind_some, cutKey?_quote, Option.map_some]
  · simp only [lookupCalls, List.findSome?_cons, hheader, dropStart?_append, Option.bind_none,
      Option.map_none, Option.bind_some, cutKey?_quote, Option.map_some]

lemma cutTerm?_request {call : String × (String → TextExpr)} (h : call ∈ lookupCalls)
    {start : String} (hstart : start.toList = "r".toList ++ call.1.toList) (key : String)
    (s : List Char) :
    cutTerm? ((start ++ quote key ++ ")").toList ++ s) = some (call.2 key, s) := by
  have htext : (start ++ quote key ++ ")").toList ++ s =
      "r".toList ++ (call.1.toList ++ (quoteChars key.toList ++ ')' :: s)) := by
    rw [String.toList_append, String.toList_append, hstart, toList_quote]
    simp only [List.append_assoc]
    rfl
  rw [htext, cutTerm?_lookup h]

lemma cutTerm?_append (he : e.IsTerm) (hs : EndsTerm s) :
    cutTerm? (e.source.toList ++ s) = some (e, s) := by
  cases e with
  | var name =>
    obtain ⟨hname, hne⟩ : isIdentifier name.toList = true ∧ name ≠ "r" := he
    have hcut := cutTerm?_name hname hs.endsName
    rwa [if_neg hne] at hcut
  | literal source =>
    have hsource : (TextExpr.literal source).source = "\"" ++ source ++ "\"" := rfl
    have hquote : "\"".toList = ['\x22'] := by
      decide
    have htext : ("\"" ++ source ++ "\"").toList ++ s =
        '\x22' :: (source.toList ++ '\x22' :: s) := by
      simp [hquote]
    rw [hsource, htext]
    exact cutTerm?_literal he s
  | pathValue key =>
    exact @cutTerm?_request (".PathValue(", .pathValue) (by simp [lookupCalls]) _ (by decide) key s
  | queryValue key =>
    exact @cutTerm?_request (".URL.Query().Get(", .queryValue) (by simp [lookupCalls]) _
      (by decide) key s
  | headerValue key =>
    exact @cutTerm?_request (".Header.Get(", .headerValue) (by simp [lookupCalls]) _
      (by decide) key s
  | append left right => exact he.elim

def TextExpr.sums : TextExpr → ℕ
  | append left _ => left.sums + 1
  | _ => 0

lemma TextExpr.sums_le (e : TextExpr) : e.sums ≤ e.source.toList.length := by
  induction e with
  | append left right ih =>
    have hsource : (TextExpr.append left right).source =
        left.source ++ " + " ++ right.source := rfl
    have hplus : " + ".toList.length = 3 := by
      decide
    rw [hsource, TextExpr.sums, String.toList_append, String.toList_append, List.length_append,
      List.length_append, hplus]
    omega
  | _ => exact Nat.zero_le _

lemma TextExpr.source_append (left right : TextExpr) (s : List Char) :
    (TextExpr.append left right).source.toList ++ s =
      left.source.toList ++ ' ' :: '+' :: ' ' :: (right.source.toList ++ s) := by
  have hsource : (TextExpr.append left right).source = left.source ++ " + " ++ right.source := rfl
  have hplus : " + ".toList = [' ', '+', ' '] := by
    decide
  rw [hsource]
  simp [hplus]

lemma readSum_append (he : e.IsReadable) (hs : EndsTerm s) (n : ℕ) :
    (cutTerm? (e.source.toList ++ s)).bind (fun x => readSum (n + e.sums) x.1 x.2) =
      readSum n e s := by
  induction e generalizing s n with
  | append left right ihleft =>
    obtain ⟨hleft, hright⟩ : left.IsReadable ∧ right.IsTerm := he
    have hsums : n + (TextExpr.append left right).sums = n + 1 + left.sums := by
      rw [TextExpr.sums]
      omega
    rw [TextExpr.source_append, hsums, ihleft hleft (.inr ⟨_, rfl⟩), readSum,
      cutTerm?_append hright hs]
    rfl
  | _ =>
    rw [cutTerm?_append he hs]
    rfl

lemma readText_source (he : e.IsReadable) : readText e.source.toList = some e := by
  obtain ⟨n, hn⟩ : ∃ n, e.source.toList.length = n + e.sums :=
    ⟨_, (Nat.sub_add_cancel e.sums_le).symm⟩
  have hsum := readSum_append he (.inl rfl) n
  rw [List.append_nil] at hsum
  rw [readText, hn, hsum, readSum]

lemma exists_cutTerm? (he : e.IsReadable) (hs : EndsTerm s) :
    ∃ x rest, cutTerm? (e.source.toList ++ s) = some (x, rest) ∧ EndsTerm rest := by
  induction e generalizing s with
  | append left right ihleft =>
    rw [TextExpr.source_append]
    exact ihleft he.1 (.inr ⟨_, rfl⟩)
  | _ => exact ⟨_, _, cutTerm?_append he hs, hs⟩

lemma readDeclaration_text (he : e.IsReadable) (name : String) :
    readDeclaration name e.source.toList = some (.simple (.declare name e)) := by
  obtain ⟨x, rest, hcut, hrest⟩ := exists_cutTerm? he (.inl rfl)
  rw [List.append_nil] at hcut
  rw [readDeclaration.eq_def, hcut]
  split
  · rename_i heq
    obtain ⟨-, rfl⟩ := Prod.mk.inj (Option.some.inj heq)
    rcases hrest with hrest | ⟨t, hrest⟩
    · cases hrest
    · cases hrest
  · rw [readText_source he]
    rfl

lemma readDeclaration_new (name type : String) :
    readDeclaration name ("new(" ++ type ++ ")").toList =
      some (.simple (.allocate name type)) := by
  have htext : ("new(" ++ type ++ ")").toList = "new".toList ++ '(' :: (type.toList ++ [')']) := by
    simp
  have hcut := @cutTerm?_name ('(' :: (type.toList ++ [')'])) "new"
    (isIdentifier_of_ascii (by decide)) (endsName_cons (by decide) _)
  rw [if_neg (by decide)] at hcut
  rw [htext, readDeclaration, hcut]
  simp

end Texts

section Arguments

variable {args : List Argument}

lemma readArgument_source {a : Argument} (ha : isIdentifier a.name.toList = true) :
    readArgument a.source.toList = some a := by
  obtain ⟨name, dereferenced⟩ := a
  cases dereferenced with
  | true =>
    have htext : (Argument.source ⟨name, true⟩).toList = '*' :: name.toList := by
      simp [Argument.source]
    rw [htext, readArgument, cutName?_self ha]
    rfl
  | false =>
    have htext : (Argument.source ⟨name, false⟩).toList = name.toList := by
      simp [Argument.source]
    rw [htext, readArgument, cutName?_self ha]
    · rfl
    · rintro s heq
      have hstar := isNameChar_of_mem ha '*' (by simp [heq])
      have hsign : isNameChar '*' = false :=
        isNameChar_of_ascii (by decide)
      rw [hsign] at hstar
      cases hstar

lemma not_mem_source {a : Argument} (ha : isIdentifier a.name.toList = true) {c : Char}
    (hc : c ∈ [' ', ',']) : c ∉ a.source.toList := by
  have hsign : ∀ c ∈ [' ', ','], isNameChar c = false ∧ c ≠ '*' := by
    have hsigns : ∀ c ∈ [' ', ','], c ∈ [' ', '.', '(', ')', ','] ∧ c ≠ '*' := by
      decide
    exact fun c hc => (hsigns c hc).imp_left (not_isNameChar_of_sign c)
  have hname : c ∉ a.name.toList := fun hmem =>
    absurd (isNameChar_of_mem ha c hmem) (by simp [(hsign c hc).1])
  obtain ⟨name, dereferenced⟩ := a
  cases dereferenced with
  | true => simpa [Argument.source, (hsign c hc).2] using hname
  | false => simpa [Argument.source] using hname

lemma pieces_cons_space (s : List Char) :
    (splitOnChar ',' (' ' :: s)).map (·.dropWhile (· == ' ')) =
      (splitOnChar ',' s).map (·.dropWhile (· == ' ')) := by
  rw [splitOnChar, splitOnChar, splitWhere, if_neg (by decide)]
  cases hs : splitWhere (· == ',') s with
  | nil => exact absurd hs (splitWhere_ne_nil _ s)
  | cons w ws => rfl

lemma pieces_intercalate {items : List (List Char)} (hne : items ≠ [])
    (h : ∀ x ∈ items, ',' ∉ x ∧ ' ' ∉ x) :
    (splitOnChar ',' ([',', ' '].intercalate items)).map (·.dropWhile (· == ' ')) = items := by
  have hdrop : ∀ x : List Char, ' ' ∉ x → x.dropWhile (· == ' ') = x := fun x hx =>
    dropWhile_eq_self_iff_head.mpr fun c hc => beq_false_of_ne fun heq =>
      hx (heq ▸ List.mem_of_head? hc)
  induction items with
  | nil => exact absurd rfl hne
  | cons x items ih =>
    obtain ⟨⟨hcomma, hspace⟩, hitems⟩ := List.forall_mem_cons.mp h
    cases items with
    | nil =>
      rw [List.intercalate_singleton, splitOnChar_of_not_mem hcomma, List.map_singleton,
        hdrop x hspace]
    | cons y items =>
      have htext : [',', ' '].intercalate (x :: y :: items) =
          x ++ ',' :: ' ' :: [',', ' '].intercalate (y :: items) := by
        rw [List.intercalate_cons_cons, List.append_assoc]
        rfl
      rw [htext, splitOnChar_append_cons, splitOnChar_of_not_mem hcomma, List.singleton_append,
        List.map_cons, hdrop x hspace, pieces_cons_space, ih (List.cons_ne_nil _ _) hitems]

lemma mapM_readArgument (h : ∀ a ∈ args, isIdentifier a.name.toList = true) :
    (args.map fun a => a.source.toList).mapM readArgument = some args := by
  induction args with
  | nil => rfl
  | cons a args ih =>
    obtain ⟨ha, hargs⟩ := List.forall_mem_cons.mp h
    simp [readArgument_source ha, ih hargs]

lemma readArguments_sources (h : ∀ a ∈ args, isIdentifier a.name.toList = true) :
    readArguments (", ".intercalate (args.map Argument.source)).toList = some args := by
  have hsep : ", ".toList = [',', ' '] := by
    decide
  have htext : (", ".intercalate (args.map Argument.source)).toList =
      [',', ' '].intercalate (args.map fun a => a.source.toList) := by
    rw [String.toList_intercalate, hsep, List.map_map]
    rfl
  rw [htext]
  by_cases hne : args = []
  · rw [hne]
    rfl
  · have hitems : ∀ x ∈ args.map fun a => a.source.toList, ',' ∉ x ∧ ' ' ∉ x :=
      List.forall_mem_map.mpr fun a ha =>
        ⟨not_mem_source (h a ha) (by decide), not_mem_source (h a ha) (by decide)⟩
    have hpieces := pieces_intercalate (by simpa using hne) hitems
    rw [readArguments, if_neg, hpieces, mapM_readArgument h]
    -- Nothing is one piece, which is no argument.
    intro hnil
    have hread := mapM_readArgument h
    rw [← hpieces, hnil] at hread
    cases hread

end Arguments

mutual

def Statement.IsReadable : Statement → Prop
  | .declare name value => IsName name ∧ value.IsReadable
  | .assign name value => IsName name ∧ value.IsReadable
  | .append name value => IsName name ∧ value.IsReadable
  | .allocate name _ => IsName name
  | .store pointer value => IsName pointer ∧ value.IsReadable
  | .whenEmpty name body => IsName name ∧ AreReadable body
  | .whenPresent name body => IsName name ∧ AreReadable body
  | .decode raw pointer onFailure => IsName raw ∧ IsName pointer ∧ AreReadable onFailure
  | .refuse name => IsName name
  | .leave => True
  | .call function args => (∃ package name, function = package ++ "." ++ name ∧ IsName package ∧
      package ≠ "http" ∧ isIdentifier name.toList = true) ∧
        ∀ a ∈ args, isIdentifier a.name.toList = true

def AreReadable : List Statement → Prop
  | [] => True
  | s :: rest => s.IsReadable ∧ AreReadable rest

end

section Lines

variable {name : String} {s : List Char} {e : TextExpr}

lemma cutName?_of_sign {c : Char} (hc : c ∈ ['\x7d', '*', '\t']) (s : List Char) :
    cutName? (c :: s) = none := by
  have hsign : ∀ c ∈ ['\x7d', '*', '\t'], isNameStart c = false := by
    have hsigns : ∀ c ∈ ['\x7d', '*', '\t'],
        c.toNat < 128 ∧ c.isDigit = false ∧ isAsciiWord c = false := by
      decide
    intro c hc
    obtain ⟨hascii, hdigit, hword⟩ := hsigns c hc
    rw [isNameStart_of_ascii hascii hdigit, hword]
  simp [cutName?, hsign c hc]

lemma IsName.ne_keyword (h : IsName name) {keyword : String} (hk : keyword ∈ keywords) :
    name ≠ keyword := by
  rintro rfl
  exact h.2 (List.mem_cons_of_mem _ hk)

lemma readLine_name (h : isIdentifier name.toList = true) (hs : EndsName s) :
    readLine (name.toList ++ s) =
      if name = "return" then if s = [] then some (.simple .leave) else none
      else if name = "if" then (dropStart? [' '] s).bind readCondition
      else readStatement name s := by
  have hcut := cutName?_append h hs
  rw [readLine.eq_def]
  split
  · rename_i heq
    rw [heq, cutName?_of_sign (by decide)] at hcut
    cases hcut
  · rename_i heq
    rw [heq, cutName?_of_sign (by decide)] at hcut
    cases hcut
  · rw [hcut]
    rfl

lemma readLine_statement (h : IsName name) (hs : EndsName s) :
    readLine (name.toList ++ s) = readStatement name s := by
  rw [readLine_name h.1 hs, if_neg (h.ne_keyword (by decide)), if_neg (h.ne_keyword (by decide))]

lemma readLine_declare (h : IsName name) (he : e.IsReadable) :
    readLine (name ++ " := " ++ e.source).toList = some (.simple (.declare name e)) := by
  have htext : (name ++ " := " ++ e.source).toList =
      name.toList ++ ' ' :: ':' :: '=' :: ' ' :: e.source.toList := by
    simp
  rw [htext, readLine_statement h (endsName_cons (by decide) _), readStatement,
    readDeclaration_text he]

lemma readLine_allocate (h : IsName name) (type : String) :
    readLine (name ++ " := new(" ++ type ++ ")").toList =
      some (.simple (.allocate name type)) := by
  have htext : (name ++ " := new(" ++ type ++ ")").toList =
      name.toList ++ ' ' :: ':' :: '=' :: ' ' :: ("new(" ++ type ++ ")").toList := by
    simp
  rw [htext, readLine_statement h (endsName_cons (by decide) _), readStatement,
    readDeclaration_new]

lemma readLine_assign (h : IsName name) (he : e.IsReadable) :
    readLine (name ++ " = " ++ e.source).toList = some (.simple (.assign name e)) := by
  have htext : (name ++ " = " ++ e.source).toList =
      name.toList ++ ' ' :: '=' :: ' ' :: e.source.toList := by
    simp
  rw [htext, readLine_statement h (endsName_cons (by decide) _), readStatement,
    readText_source he]
  rfl

lemma readLine_append (h : IsName name) (he : e.IsReadable) :
    readLine (name ++ " += " ++ e.source).toList = some (.simple (.append name e)) := by
  have htext : (name ++ " += " ++ e.source).toList =
      name.toList ++ ' ' :: '+' :: '=' :: ' ' :: e.source.toList := by
    simp
  rw [htext, readLine_statement h (endsName_cons (by decide) _), readStatement,
    readText_source he]
  rfl

lemma readLine_store (h : IsName name) (he : e.IsReadable) :
    readLine ("*" ++ name ++ " = " ++ e.source).toList = some (.simple (.store name e)) := by
  have htext : ("*" ++ name ++ " = " ++ e.source).toList =
      '*' :: (name.toList ++ (" = ".toList ++ e.source.toList)) := by
    simp
  have hends : EndsName (" = ".toList ++ e.source.toList) := endsName_cons (by decide) _
  rw [htext, readLine, cutName?_append h.1 hends]
  · simp only [Option.bind_some, dropStart?_append, readText_source he, Option.map_some]

lemma readLine_condition (h : isIdentifier name.toList = true) {mark : String}
    (hmark : mark.toList.head?.any (· == ' ')) (s : List Char) :
    readLine ("if ".toList ++ (name.toList ++ (mark.toList ++ s))) =
      if mark.toList ++ s = " == \"\" \x7b".toList then some (.opens (.whenEmpty name))
      else if mark.toList ++ s = " != \"\" \x7b".toList then some (.opens (.whenPresent name))
      else if name = "err" then
        ((dropStart? " := json.Unmarshal([]byte(".toList (mark.toList ++ s)).bind cutName?).bind
          fun raw => ((dropStart? "), ".toList raw.2).bind cutName?).bind fun pointer =>
            if pointer.2 = "); err != nil \x7b".toList then
              some (.opens (.decode raw.1 pointer.1))
            else none
      else none := by
  have hif : "if ".toList = "if".toList ++ [' '] := by
    decide
  have hends : EndsName ([' '] ++ (name.toList ++ (mark.toList ++ s))) :=
    endsName_cons (by decide) _
  have hname : EndsName (mark.toList ++ s) := by
    obtain ⟨c, hc, hspace⟩ := (Option.any_eq_true _ _).mp hmark
    refine endsName_append ?_ s
    rw [hc, beq_iff_eq.mp hspace]
    decide
  rw [hif, List.append_assoc, readLine_name (isIdentifier_of_ascii (by decide)) hends,
    if_neg (by decide), if_pos rfl, dropStart?_append, Option.bind_some, readCondition,
    cutName?_append h hname, Option.bind_some]

lemma readLine_whenEmpty (h : IsName name) :
    readLine ("if " ++ name ++ " == \"\" \x7b").toList = some (.opens (.whenEmpty name)) := by
  have hread := @readLine_condition name h.1 " == \"\" \x7b" (by decide) []
  rw [List.append_nil, if_pos rfl] at hread
  rwa [String.toList_append, String.toList_append, List.append_assoc]

lemma readLine_whenPresent (h : IsName name) :
    readLine ("if " ++ name ++ " != \"\" \x7b").toList = some (.opens (.whenPresent name)) := by
  have hread := @readLine_condition name h.1 " != \"\" \x7b" (by decide) []
  rw [List.append_nil, if_neg (by decide), if_pos rfl] at hread
  rwa [String.toList_append, String.toList_append, List.append_assoc]

lemma readLine_decode {raw pointer : String} (hraw : IsName raw) (hpointer : IsName pointer) :
    readLine ("if err := json.Unmarshal([]byte(" ++ raw ++ "), " ++ pointer ++
        "); err != nil \x7b").toList = some (.opens (.decode raw pointer)) := by
  have hopening : "if err := json.Unmarshal([]byte(".toList =
      "if ".toList ++ ("err".toList ++ " := json.Unmarshal([]byte(".toList) := by
    decide
  have hmark : " := json.Unmarshal([]byte(".toList.head?.any (· == ' ') := by
    decide
  have hsign : " := json.Unmarshal([]byte(".toList[1]? = some ':' := by
    decide
  have hends : EndsName ("), ".toList ++ (pointer.toList ++ "); err != nil \x7b".toList)) :=
    endsName_append (by decide) _
  have hclose : EndsName ("); err != nil \x7b".toList ++ []) :=
    endsName_append (by decide) _
  have hread := @readLine_condition "err" (isIdentifier_of_ascii (by decide))
    " := json.Unmarshal([]byte(" hmark
    (raw.toList ++ ("), ".toList ++ (pointer.toList ++ "); err != nil \x7b".toList)))
  rw [List.append_nil] at hclose
  rw [if_neg, if_neg, if_pos rfl, dropStart?_append, Option.bind_some,
    cutName?_append hraw.1 hends, Option.bind_some, dropStart?_append, Option.bind_some,
    cutName?_append hpointer.1 hclose, Option.bind_some] at hread
  · rw [String.toList_append, String.toList_append, String.toList_append, String.toList_append,
      hopening, List.append_assoc, List.append_assoc, List.append_assoc, List.append_assoc,
      List.append_assoc]
    exact hread.trans (if_pos (Eq.refl "); err != nil \x7b".toList))
  · intro heq
    have hone := congrArg (·[1]?) heq
    rw [List.getElem?_append_left (by decide), hsign] at hone
    exact absurd hone (by decide)
  · intro heq
    have hone := congrArg (·[1]?) heq
    rw [List.getElem?_append_left (by decide), hsign] at hone
    exact absurd hone (by decide)

lemma readLine_member {package member : String} (hpackage : IsName package)
    (hmember : isIdentifier member.toList = true) (s : List Char) :
    readLine (package.toList ++ '.' :: (member.toList ++ '(' :: s)) =
      if package = "http" ∧ member = "Error" then readRefusal s
      else if s.getLast? = some ')' then
        (readArguments s.dropLast).map fun args => .simple (.call (package ++ "." ++ member) args)
      else none := by
  rw [readLine_statement hpackage (endsName_cons (by decide) _), readStatement, readCall,
    cutName?_append hmember (endsName_cons (by decide) _)]
  rfl

lemma readLine_refuse (h : IsName name) :
    readLine ("http.Error(w, " ++ name ++ ", http.StatusTeapot)").toList =
      some (.simple (.refuse name)) := by
  have htext : ("http.Error(w, " ++ name ++ ", http.StatusTeapot)").toList =
      "http".toList ++ '.' :: ("Error".toList ++ '(' ::
        ("w, ".toList ++ (name.toList ++ ", http.StatusTeapot)".toList))) := by
    have hopening : "http.Error(w, ".toList =
        "http".toList ++ '.' :: ("Error".toList ++ '(' :: "w, ".toList) := by
      decide
    rw [String.toList_append, String.toList_append, hopening]
    simp only [List.append_assoc, List.cons_append]
  have hends : EndsName (", http.StatusTeapot)".toList ++ []) :=
    endsName_append (by decide) _
  rw [List.append_nil] at hends
  rw [htext, readLine_member (isName_of_ascii (by decide) (by decide))
    (isIdentifier_of_ascii (by decide)), if_pos ⟨rfl, rfl⟩,
    readRefusal, dropStart?_append, Option.bind_some, cutName?_append h.1 hends, Option.bind_some]
  exact if_pos (Eq.refl ", http.StatusTeapot)".toList)

lemma readLine_call {package member : String} {args : List Argument} (hpackage : IsName package)
    (hhttp : package ≠ "http") (hmember : isIdentifier member.toList = true)
    (hargs : ∀ a ∈ args, isIdentifier a.name.toList = true) :
    readLine (package ++ "." ++ member ++ "(" ++
        ", ".intercalate (args.map Argument.source) ++ ")").toList =
      some (.simple (.call (package ++ "." ++ member) args)) := by
  have htext : (package ++ "." ++ member ++ "(" ++
      ", ".intercalate (args.map Argument.source) ++ ")").toList =
        package.toList ++ '.' :: (member.toList ++ '(' ::
          ((", ".intercalate (args.map Argument.source)).toList ++ [')'])) := by
    simp only [String.toList_append, List.append_assoc]
    rfl
  rw [htext, readLine_member hpackage hmember, if_neg fun h => hhttp h.1,
    if_pos List.getLast?_concat, List.dropLast_concat, readArguments_sources hargs]
  rfl

lemma readLine_leave : readLine "return".toList = some (.simple .leave) := by
  have hread := @readLine_name "return" [] (isIdentifier_of_ascii (by decide)) endsName_nil
  rw [List.append_nil] at hread
  exact hread

end Lines

section Blocks

variable {name : String} {line : Line} {depth : ℕ}

lemma Reading.feed_indent {s : String} (h : readLine s.toList = some line) (r : Reading) :
    r.feed (indent depth s).toList = r.add line := by
  have htabs : ∀ c ∈ List.replicate depth '\t', (c == '\t') = true := by
    intro c hc
    rw [List.eq_of_mem_replicate hc]
    rfl
  have hhead : s.toList.dropWhile (· == '\t') = s.toList := by
    refine dropWhile_eq_self_iff_head.mpr fun c hc => beq_false_of_ne ?_
    rintro rfl
    obtain ⟨rest, hrest⟩ := List.head?_eq_some_iff.mp hc
    rw [hrest, readLine.eq_def] at h
    simp [cutName?_of_sign] at h
  rw [Reading.feed, indent, String.toList_append, String.toList_ofList,
    List.dropWhile_append_of_pos htabs, hhead, h]
  rfl

lemma foldlM_feed_simple {s : String} {statement : Statement}
    (h : readLine s.toList = some (.simple statement)) (r : Reading) :
    ([indent depth s].map String.toList).foldlM Reading.feed r =
      some ⟨r.done ++ [statement], r.outer⟩ := by
  rw [List.map_singleton, List.foldlM_cons, Reading.feed_indent h]
  rfl

-- What stands in the block goes to a reading of its own, up to the brace.
lemma foldlM_feed_block {opening : String} {block : List Statement → Statement}
    {body : List Statement} {lines : List String}
    (hopening : readLine opening.toList = some (.opens block))
    (hbody : ∀ r : Reading, (lines.map String.toList).foldlM Reading.feed r =
      some ⟨r.done ++ body, r.outer⟩) (r : Reading) :
    ((indent depth opening :: (lines ++ [indent depth "\x7d"])).map String.toList).foldlM
        Reading.feed r = some ⟨r.done ++ [block body], r.outer⟩ := by
  have hclosing : readLine "\x7d".toList = some .closes := by
    have hbrace : "\x7d".toList = ['\x7d'] := by
      decide
    rw [hbrace]
    rfl
  rw [List.map_cons, List.map_append, List.foldlM_cons, Reading.feed_indent hopening,
    Reading.add, Option.bind_eq_bind, Option.bind_some, List.foldlM_append, hbody,
    Option.bind_eq_bind, Option.bind_some, List.map_singleton, List.foldlM_cons,
    Reading.feed_indent hclosing]
  rfl

mutual

lemma Statement.foldlM_feed_lines (s : Statement) (depth : ℕ) (h : s.IsReadable) (r : Reading) :
    ((s.lines depth).map String.toList).foldlM Reading.feed r =
      some ⟨r.done ++ [s], r.outer⟩ := by
  cases s with
  | declare name value => exact foldlM_feed_simple (readLine_declare h.1 h.2) r
  | assign name value => exact foldlM_feed_simple (readLine_assign h.1 h.2) r
  | append name value => exact foldlM_feed_simple (readLine_append h.1 h.2) r
  | allocate name type => exact foldlM_feed_simple (readLine_allocate h type) r
  | store pointer value => exact foldlM_feed_simple (readLine_store h.1 h.2) r
  | whenEmpty name body =>
    obtain ⟨hname, hbody⟩ : IsName name ∧ AreReadable body := h
    exact foldlM_feed_block (readLine_whenEmpty hname)
      (foldlM_feed_statementLines body (depth + 1) hbody) r
  | whenPresent name body =>
    obtain ⟨hname, hbody⟩ : IsName name ∧ AreReadable body := h
    exact foldlM_feed_block (readLine_whenPresent hname)
      (foldlM_feed_statementLines body (depth + 1) hbody) r
  | decode raw pointer onFailure =>
    obtain ⟨hraw, hpointer, hbody⟩ : IsName raw ∧ IsName pointer ∧ AreReadable onFailure := h
    exact foldlM_feed_block (readLine_decode hraw hpointer)
      (foldlM_feed_statementLines onFailure (depth + 1) hbody) r
  | refuse name => exact foldlM_feed_simple (readLine_refuse h) r
  | leave => exact foldlM_feed_simple readLine_leave r
  | call function args =>
    obtain ⟨⟨package, member, rfl, hpackage, hhttp, hmember⟩, hargs⟩ := h
    exact foldlM_feed_simple (readLine_call hpackage hhttp hmember hargs) r

lemma foldlM_feed_statementLines (l : List Statement) (depth : ℕ) (h : AreReadable l)
    (r : Reading) :
    ((statementLines depth l).map String.toList).foldlM Reading.feed r =
      some ⟨r.done ++ l, r.outer⟩ := by
  cases l with
  | nil => simp [statementLines]
  | cons s rest =>
    obtain ⟨hs, hrest⟩ : s.IsReadable ∧ AreReadable rest := h
    rw [statementLines, List.map_append, List.foldlM_append, s.foldlM_feed_lines depth hs,
      Option.bind_eq_bind, Option.bind_some, foldlM_feed_statementLines rest depth hrest,
      List.append_assoc, List.singleton_append]

end

theorem readStatements_statementLines {l : List Statement} (h : AreReadable l) (depth : ℕ) :
    readStatements ((statementLines depth l).map String.toList) = some l := by
  rw [readStatements, foldlM_feed_statementLines l depth h]
  rfl

lemma areReadable_append {l m : List Statement} :
    AreReadable (l ++ m) ↔ AreReadable l ∧ AreReadable m := by
  induction l with
  | nil => simp [AreReadable]
  | cons s l ih => simp [AreReadable, ih, and_assoc]

end Blocks

end Routewright.Go
