import Routewright.Text.Blank
import Routewright.Text.Digits

/-!
String and rune literals.

`quote` writes a text as an interpreted string literal and `unquote?` reads it back. Reading also
takes raw literals, and blanks around the literal.
-/

namespace Routewright.Go

open Text

def rawQuote : Char := '\x60'

def stringQuote : Char := '\x22'

def runeQuote : Char := '\x27'

def letterEscape? (quote c : Char) : Option Char :=
  match c with
  | 'a' => some '\x07'
  | 'b' => some '\x08'
  | 'f' => some '\x0c'
  | 'n' => some '\n'
  | 'r' => some '\r'
  | 't' => some '\t'
  | 'v' => some '\x0b'
  | '\\' => some '\\'
  | _ => if c = quote then some c else none

def numericEscape? (c : Char) : Option (Nat × Nat × Nat) :=
  if c = 'x' then some (16, 2, 1)
  else if c = 'u' then some (16, 4, 1)
  else if c = 'U' then some (16, 8, 1)
  else if isDigitOf 8 c then some (8, 3, 0)
  else none

def escape? (quote : Char) : List Char → Option (Char × Nat)
  | [] => none
  | c :: r =>
    match letterEscape? quote c with
    | some x => some (x, 1)
    | none =>
      match numericEscape? c with
      | none => none
      | some (base, count, skip) =>
        let digits := ((c :: r).drop skip).take count
        if digits.length = count then
          ((digitsValue? base digits).bind ofCodePoint?).map fun x => (x, skip + count)
        else none

def unescape? (quote : Char) : List Char → Option (List Char)
  | [] => some []
  | c :: r =>
    if c = quote ∨ c = '\n' then none
    else if c = '\\' then
      match escape? quote r with
      | none => none
      | some (x, n) => (unescape? quote (r.drop n)).map (x :: ·)
    else (unescape? quote r).map (c :: ·)
termination_by s => s.length
decreasing_by
  · simp only [List.length_drop, List.length_cons]; omega
  · simp

def between? (quote : Char) : List Char → Option (List Char)
  | [] => none
  | c :: r => if c = quote ∧ r.getLast? = some quote then some r.dropLast else none

def unquote? (text : List Char) : Option (List Char) :=
  let s := trim text
  match between? rawQuote s with
  | some body => some (body.filter (· ≠ '\r'))
  | none => (between? stringQuote s).bind (unescape? stringQuote)

def unquoteRune? (text : List Char) : Option Char :=
  match (between? runeQuote (trim text)).bind (unescape? runeQuote) with
  | some [c] => some c
  | _ => none

def isControl (c : Char) : Bool :=
  c.toNat < 0x20 || (0x7f ≤ c.toNat && c.toNat ≤ 0x9f)

def quoteChar (c : Char) : List Char :=
  if c = stringQuote then ['\\', stringQuote]
  else if c = '\\' then ['\\', '\\']
  else if c = '\n' then ['\\', 'n']
  else if c = '\r' then ['\\', 'r']
  else if c = '\t' then ['\\', 't']
  else if isControl c then '\\' :: 'u' :: fourHexDigits c.toNat
  else [c]

def quoteChars (s : List Char) : List Char :=
  stringQuote :: (s.flatMap quoteChar ++ [stringQuote])

def quote (s : String) : String :=
  .ofList (quoteChars s.toList)

end Routewright.Go
