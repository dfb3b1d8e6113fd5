import Routewright.Text.Digits

/-!
The tokens of a TOML text that holds tables of texts and of lists of texts.

Blanks and comments are no tokens. A number, a truth value and a date give words or no tokens at
all, since nothing that takes one is read.
-/

namespace Routewright.Toml

open Text

inductive Token
  | word (text : String)
  /-- A quoted text; one that may span lines is no key. -/
  | text (value : String) (multiline : Bool)
  | newline
  | equals
  | dot
  | comma
  | openList
  | closeList
  | openTable
  | closeTable
deriving DecidableEq, Repr

namespace Token

def isWordChar (c : Char) : Bool :=
  c.isAlphanum || c == '_' || c == '-'

def isPlain (c : Char) : Bool :=
  c == '\t' || (0x20 ≤ c.toNat && c.toNat ≠ 0x7f)

def isBlank (c : Char) : Bool :=
  c == ' ' || c == '\t'

def lineEndLength : List Char → Nat
  | '\n' :: _ => 1
  | '\r' :: '\n' :: _ => 2
  | _ => 0

def codePoint? (n : Nat) (s : List Char) : Option (Char × Nat) :=
  if s.length < n then none
  else ((digitsValue? 16 (s.take n)).bind ofCodePoint?).map fun c => (c, n + 1)

def escape? : List Char → Option (Char × Nat)
  | [] => none
  | c :: r =>
    match c with
    | '\x22' | '\\' => some (c, 1)
    | 'b' => some ('\x08', 1)
    | 'e' => some ('\x1b', 1)
    | 'f' => some ('\x0c', 1)
    | 'n' => some ('\n', 1)
    | 'r' => some ('\r', 1)
    | 't' => some ('\t', 1)
    | 'x' => codePoint? 2 r
    | 'u' => codePoint? 4 r
    | 'U' => codePoint? 8 r
    | _ => none

/-- The rest of a text between single marks: its value, and what stands behind the closing mark. A
backslash starts an escape unless the text is literal. -/
def spanLine (mark : Char) (literal : Bool) : List Char → Option (List Char × List Char)
  | [] => none
  | c :: r =>
    if c = mark then some ([], r)
    else if !isPlain c then none
    else if c = '\\' ∧ !literal then
      match escape? r with
      | none => none
      | some (x, n) => (spanLine mark literal (r.drop n)).map fun s => (x :: s.1, s.2)
    else (spanLine mark literal r).map fun s => (c :: s.1, s.2)
termination_by s => s.length
decreasing_by
  · simp only [List.length_drop, List.length_cons]; omega
  · simp

def dropGap (s : List Char) : List Char :=
  s.dropWhile fun c => isBlank c || c == '\n' || c == '\r'

theorem length_dropGap (s : List Char) : (dropGap s).length ≤ s.length :=
  (List.dropWhile_suffix _).length_le

def joined? (s : List Char) : Option (List Char) :=
  if lineEndLength (s.dropWhile isBlank) = 0 then none else some (dropGap s)

theorem length_joined {s r : List Char} (h : joined? s = some r) : r.length ≤ s.length := by
  unfold joined? at h
  split at h
  · simp at h
  · cases h
    exact length_dropGap s

def markRun (mark : Char) (s : List Char) : Nat :=
  (s.takeWhile (· == mark)).length

/-- The rest of a text between triple marks, of which up to two may stand at its end. -/
def spanLines (mark : Char) (literal : Bool) (s : List Char) : Option (List Char × List Char) :=
  match s with
  | [] => none
  | c :: r =>
    if 3 ≤ markRun mark (c :: r) then
      let extra := min (markRun mark (c :: r) - 3) 2
      some (List.replicate extra mark, (c :: r).drop (3 + extra))
    else if c = '\\' ∧ !literal then
      match _h : joined? r with
      | some t => spanLines mark literal t
      | none =>
        match escape? r with
        | none => none
        | some (x, n) => (spanLines mark literal (r.drop n)).map fun s => (x :: s.1, s.2)
    else if isPlain c || 0 < lineEndLength (c :: r) then
      (spanLines mark literal r).map fun s => (c :: s.1, s.2)
    else none
termination_by s.length
decreasing_by
  · have := length_joined _h; simp only [List.length_cons]; omega
  · simp only [List.length_drop, List.length_cons]; omega
  · simp

def quoted? (mark : Char) (literal : Bool) (s : List Char) : Option (Token × List Char) :=
  match s with
  | a :: b :: r =>
    if a = mark ∧ b = mark then
      (spanLines mark literal (r.drop (lineEndLength r))).map fun t =>
        (.text (.ofList t.1) true, t.2)
    else (spanLine mark literal s).map fun t => (.text (.ofList t.1) false, t.2)
  | _ => (spanLine mark literal s).map fun t => (.text (.ofList t.1) false, t.2)

def punctuation? (c : Char) : Option Token :=
  match c with
  | '=' => some .equals
  | '.' => some .dot
  | ',' => some .comma
  | '[' => some .openList
  | ']' => some .closeList
  | '\x7b' => some .openTable
  | '\x7d' => some .closeTable
  | _ => none

def next? (c : Char) (r : List Char) : Option (Option Token × List Char) :=
  if isBlank c then some (none, r)
  else if c = '#' then some (none, r.dropWhile isPlain)
  else if lineEndLength (c :: r) = 1 then some (some .newline, r)
  else if lineEndLength (c :: r) = 2 then some (some .newline, r.drop 1)
  else if isWordChar c then
    some (some (.word (.ofList (c :: r.takeWhile isWordChar))), r.dropWhile isWordChar)
  else if c = '\x22' then (quoted? c false r).map fun t => (some t.1, t.2)
  else if c = '\x27' then (quoted? c true r).map fun t => (some t.1, t.2)
  else (punctuation? c).map fun t => (some t, r)

def within : Nat → List Char → Option (List Token)
  | _, [] => some []
  | 0, _ => none
  | n + 1, c :: r =>
    match next? c r with
    | none => none
    | some (t, rest) => (within n rest).map (t.toList ++ ·)

def ofText? (s : List Char) : Option (List Token) :=
  within s.length s

end Token

end Routewright.Toml
