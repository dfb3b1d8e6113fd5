import Routewright.Text.Digits
import Routewright.Text.Letters

/-!
Cutting source text into lexemes: blanks, comments, names, literals and operators.

Source text is a list of characters, in which an ill-formed part of the bytes stands as `none`. Such
a part may only stand in a comment or between quotes. The lexemes of a text, put together, are the
text.
-/

namespace Routewright.Go

open Text

/-- Source text, where an ill-formed part of the bytes is `none`. -/
abbrev SourceText := List (Option Char)

namespace SourceText

def spell (s : SourceText) : String :=
  if s.all Option.isSome then .ofList (s.filterMap id) else ""

def countWhile (p : Char → Bool) (s : SourceText) : Nat :=
  (s.takeWhile (·.any p)).length

end SourceText

inductive LexemeKind
  | newline
  | blank
  | comment
  | name
  | keyword
  | literal
  | string
  | operator
deriving DecidableEq, Repr

structure Lexeme where
  kind : LexemeKind
  text : SourceText

namespace Lexeme

open SourceText

def isNameStart (c : Char) : Bool :=
  isLetter c || c == '_'

def isNameChar (c : Char) : Bool :=
  isNameStart c || isDecimalDigit c

def keywords : List String :=
  ["break", "case", "chan", "const", "continue", "default", "defer", "else", "fallthrough",
    "for", "func", "go", "goto", "if", "import", "interface", "map", "package", "range",
    "return", "select", "struct", "switch", "type", "var"]

/-- The operators, those that begin with another one first. -/
def operators : List String :=
  ["<<=", ">>=", "&^=", "...", "&&", "||", "<-", "++", "--", "==", "!=", "<=", ">=", ":=",
    "+=", "-=", "*=", "/=", "%=", "&=", "|=", "^=", "<<", ">>", "&^", "+", "-", "*", "/", "%",
    "&", "|", "^", "<", ">", "=", "!", "(", ")", "[", "]", "\x7b", "\x7d", ",", ";", ".", ":",
    "~"]

def blockLength? : SourceText → Option Nat
  | [] => none
  | some '*' :: some '/' :: _ => some 2
  | _ :: r => (blockLength? r).map (· + 1)

def escapeDigits (c : Char) : Nat :=
  if c = 'x' then 2 else if c = 'u' then 4 else if c = 'U' then 8 else 0

def escapeFits (e : Option Char) (r : SourceText) : Bool :=
  let n := (e.map escapeDigits).getD 0
  n ≤ countWhile (isDigitOf 16) (r.take n) && e != some '\n'

def stringLength? : SourceText → Option Nat
  | [] => none
  | some '\x22' :: _ => some 1
  | some '\n' :: _ => none
  | some '\\' :: e :: r =>
    if escapeFits e r then (stringLength? r).map (· + 2) else none
  | _ :: r => (stringLength? r).map (· + 1)

def rawLength? : SourceText → Option Nat
  | [] => none
  | some '\x60' :: _ => some 1
  | _ :: r => (rawLength? r).map (· + 1)

def runeLength? (s : SourceText) : Option Nat :=
  match s with
  | some '\\' :: e :: r =>
    let n :=
      if e.any (isDigitOf 8) then 2 else (e.map escapeDigits).getD 0
    if escapeFits e r && (r.drop n).head? == some (some '\x27') then some (n + 3) else none
  | c :: some '\x27' :: _ =>
    if c = some '\x27' ∨ c = some '\n' then none else some 2
  | _ => none

def isDigits (base : Nat) : List Char → Bool
  | [] => false
  | [c] => isDigitOf base c
  | c :: '_' :: r => isDigitOf base c && isDigits base r
  | c :: r => isDigitOf base c && isDigits base r

def isMarkedDigits (base : Nat) : List Char → Bool
  | '_' :: r => isDigits base r
  | r => isDigits base r

def isExponentOf (marks : List Char) : List Char → Bool
  | [] => true
  | e :: '+' :: r => marks.contains e && isDigits 10 r
  | e :: '-' :: r => marks.contains e && isDigits 10 r
  | e :: r => marks.contains e && isDigits 10 r

def isPointed (base : Nat) (marks : List Char) (s : List Char) : Bool :=
  let isDigit (c : Char) := isDigitOf base c || c == '_'
  let whole := s.takeWhile isDigit
  match s.dropWhile isDigit with
  | '.' :: r =>
    let fraction := r.takeWhile isDigit
    let sides := (whole.isEmpty || isMarkedDigits base whole) &&
      (fraction.isEmpty || isDigits base fraction)
    let exponent := r.dropWhile isDigit
    !(whole.isEmpty && fraction.isEmpty) && sides && isExponentOf marks exponent &&
      !(base == 16 && exponent.isEmpty)
  | r => !r.isEmpty && isMarkedDigits base whole && isExponentOf marks r

def isPlainInteger (s : List Char) : Bool :=
  isDigits 10 s && (s.head? != some '0' || s.all fun c => isDigitOf 8 c || c == '_')

def isReal (s : List Char) : Bool :=
  match s with
  | '0' :: 'x' :: r => isMarkedDigits 16 r || isPointed 16 ['p', 'P'] r
  | '0' :: 'X' :: r => isMarkedDigits 16 r || isPointed 16 ['p', 'P'] r
  | '0' :: 'b' :: r => isMarkedDigits 2 r
  | '0' :: 'B' :: r => isMarkedDigits 2 r
  | '0' :: 'o' :: r => isMarkedDigits 8 r
  | '0' :: 'O' :: r => isMarkedDigits 8 r
  | _ => isPlainInteger s || isPointed 10 ['e', 'E'] s

def isNumber (s : List Char) : Bool :=
  if s.getLast? = some 'i' then isReal s.dropLast || isDigits 10 s.dropLast else isReal s

def numberLength (marks : List Char) : SourceText → Nat
  | [] => 0
  | some e :: some s :: r =>
    if marks.contains e && (s == '+' || s == '-') then numberLength marks r + 2
    else if e.isAlphanum || e == '.' || e == '_' then numberLength marks (some s :: r) + 1
    else 0
  | some c :: r =>
    if c.isAlphanum || c == '.' || c == '_' then numberLength marks r + 1 else 0
  | none :: _ => 0

def exponentMarks : SourceText → List Char
  | some '0' :: some 'x' :: _ => ['p', 'P']
  | some '0' :: some 'X' :: _ => ['p', 'P']
  | _ => ['e', 'E']

def number? (s : SourceText) : Option (LexemeKind × Nat) :=
  let n := numberLength (exponentMarks s) s
  if isNumber ((s.take n).filterMap id) then some (.literal, n) else none

def operator? (s : SourceText) : Option (LexemeKind × Nat) :=
  (operators.find? fun o => (o.toList.map some).isPrefixOf s).map fun o => (.operator, o.length)

def name? (s : SourceText) : Option (LexemeKind × Nat) :=
  let n := countWhile isNameChar s
  if keywords.contains (spell (s.take n)) then some (.keyword, n) else some (.name, n)

def first? (c : Char) (r : SourceText) : Option (LexemeKind × Nat) :=
  if c = '\n' then some (.newline, 1)
  else if c = ' ' ∨ c = '\t' ∨ c = '\r' then some (.blank, 1)
  else if isNameStart c then name? (some c :: r)
  else if c.isDigit then number? (some c :: r)
  else
    match c, r with
    | '/', some '/' :: t => some (.comment, 2 + (t.takeWhile (· != some '\n')).length)
    | '/', some '*' :: t => (blockLength? t).map fun n => (.comment, n + 2)
    | '\x22', _ => (stringLength? r).map fun n => (.string, n + 1)
    | '\x60', _ => (rawLength? r).map fun n => (.string, n + 1)
    | '\x27', _ => (runeLength? r).map fun n => (.literal, n + 1)
    | '.', some d :: _ =>
      if d.isDigit then number? (some c :: r) else operator? (some c :: r)
    | _, _ => operator? (some c :: r)

def ofText? (s : SourceText) : Option (List Lexeme) :=
  match s with
  | [] => some []
  | none :: _ => none
  | some c :: r =>
    match first? c r with
    | none => none
    | some (kind, n) =>
      (ofText? (r.drop (n - 1))).map (⟨kind, (some c :: r).take (n - 1 + 1)⟩ :: ·)
termination_by s.length
decreasing_by simp only [List.length_drop, List.length_cons]; omega

theorem flatMap_text_ofText? {s : SourceText} {l : List Lexeme} (h : ofText? s = some l) :
    l.flatMap Lexeme.text = s := by
  induction hn : s.length using Nat.strongRecOn generalizing s l with
  | ind n ih =>
    subst hn
    rw [ofText?.eq_def] at h
    split at h
    · simp_all
    · simp at h
    · rename_i c r
      split at h
      · simp at h
      · rename_i kind n _
        obtain ⟨t, ht, rfl⟩ := Option.map_eq_some_iff.1 h
        have := ih _ (by simp only [List.length_drop, List.length_cons]; omega) ht rfl
        simp [this]

end Lexeme

end Routewright.Go
