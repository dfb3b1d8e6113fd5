import Routewright.Json.Value

/-!
The tokens of a JSON text.

A number is read in two roundings: the digits that fit in 64 bits give a double, which is then
multiplied or divided by a power of ten. Digits that no longer fit count for the size of the
number only.
-/

namespace Routewright.Json

open Text

inductive Token
  | openArray
  | closeArray
  | openObject
  | closeObject
  | comma
  | colon
  | null
  | bool (value : Bool)
  | number (value : Number)
  | string (value : String)
deriving DecidableEq, Repr

def wordBound : Nat := Nat.pow 2 64

/-- Appends digits to a number as long as it stays below the bound; the digits that are left are
returned with it. -/
def takeDigits (acc : Nat) : List Char → Nat × List Char
  | [] => (acc, [])
  | c :: r =>
    let next := acc * 10 + (c.toNat - '0'.toNat)
    if next < wordBound then takeDigits next r else (acc, c :: r)

def powerOfTen (n : Nat) : Binary64 :=
  (Binary64.nearest (10 ^ n)).getD .zero

def scale (x : Binary64) (exponent : Int) : Option Binary64 :=
  if exponent < -308 then
    if x.mantissa = 0 then some x
    else (Binary64.nearest (x.value / (powerOfTen 308).value)).bind (scale · (exponent + 308))
  else if exponent < 0 then
    Binary64.nearest (x.value / (powerOfTen exponent.natAbs).value)
  else if exponent ≤ 308 then
    Binary64.nearest (x.value * (powerOfTen exponent.toNat).value)
  else if x.mantissa = 0 then some x
  else none
termination_by exponent.natAbs
decreasing_by omega

def exponentValue? (s : List Char) : Option Int :=
  match s with
  | '+' :: r => (digitsValue? 10 r).map fun n => (n : Int)
  | '-' :: r => (digitsValue? 10 r).map fun n => -(n : Int)
  | _ => (digitsValue? 10 s).map fun n => (n : Int)

structure Numeral where
  negative : Bool
  whole : List Char
  fraction : Option (List Char)
  exponent : Option (List Char)

def Numeral.double? (n : Numeral) : Option Number :=
  let (high, dropped) := takeDigits 0 n.whole
  let digits := n.fraction.getD []
  let (acc, unused) := takeDigits high digits
  let shift : Int := (dropped.length : Int) - (digits.length - unused.length)
  match (n.exponent.map exponentValue?).getD (some 0) with
  | none => none
  | some e =>
    ((Binary64.nearest acc).bind (scale · (shift + e))).map fun x => .double n.negative x

def Numeral.value? (n : Numeral) : Option Number :=
  if n.fraction.isSome || n.exponent.isSome then n.double?
  else
    match digitsValue? 10 n.whole with
    | none => none
    | some v =>
      if n.negative then
        if 0 < v ∧ v ≤ Nat.pow 2 63 then some (.int (-(v : Int))) else n.double?
      else if v < wordBound then some (.int v) else n.double?

def spanDigits (s : List Char) : List Char × List Char :=
  (s.takeWhile Char.isDigit, s.dropWhile Char.isDigit)

def spanExponent (s : List Char) : Option (List Char) × List Char :=
  match s with
  | c :: r =>
    if c = 'e' ∨ c = 'E' then
      match r with
      | '+' :: t => (some ('+' :: t.takeWhile Char.isDigit), t.dropWhile Char.isDigit)
      | '-' :: t => (some ('-' :: t.takeWhile Char.isDigit), t.dropWhile Char.isDigit)
      | _ => (some (r.takeWhile Char.isDigit), r.dropWhile Char.isDigit)
    else (none, s)
  | [] => (none, s)

def spanNumeral (s : List Char) : Numeral × List Char :=
  let (negative, s) := match s with
    | '-' :: r => (true, r)
    | _ => (false, s)
  let whole := spanDigits s
  let fraction := match whole.2 with
    | '.' :: r => (some (spanDigits r).1, (spanDigits r).2)
    | r => (none, r)
  let exponent := spanExponent fraction.2
  (⟨negative, whole.1, fraction.1, exponent.1⟩, exponent.2)

def Numeral.wellFormed (n : Numeral) : Bool :=
  !n.whole.isEmpty && (n.whole.head? != some '0' || n.whole.length == 1) &&
    n.fraction.all (!·.isEmpty)

def fourDigits? (s : List Char) : Option Nat :=
  if s.length < 4 then none else digitsValue? 16 (s.take 4)

/-- The character that an escape stands for, read after the backslash, and the number of
characters read. A pair of escapes for two surrogates stands for one character. -/
def escape? : List Char → Option (Char × Nat)
  | [] => none
  | c :: r =>
    match c with
    | '\x22' | '\\' | '/' => some (c, 1)
    | 'b' => some ('\x08', 1)
    | 'f' => some ('\x0c', 1)
    | 'n' => some ('\n', 1)
    | 'r' => some ('\r', 1)
    | 't' => some ('\t', 1)
    | 'u' =>
      match fourDigits? r with
      | none => none
      | some high =>
        if 0xd800 ≤ high ∧ high < 0xdc00 then
          match r.drop 4 with
          | '\\' :: 'u' :: t =>
            match fourDigits? t with
            | none => none
            | some low =>
              if 0xdc00 ≤ low ∧ low < 0xe000 then
                (ofCodePoint? (0x10000 + (high - 0xd800) * 0x400 + (low - 0xdc00))).map
                  fun x => (x, 11)
              else none
          | _ => none
        else (ofCodePoint? high).map fun x => (x, 5)
    | _ => none

def spanString : List Char → Option (List Char × List Char)
  | [] => none
  | c :: r =>
    if c = '\x22' then some ([], r)
    else if c.toNat < 0x20 then none
    else if c = '\\' then
      match escape? r with
      | none => none
      | some (x, n) => (spanString (r.drop n)).map fun s => (x :: s.1, s.2)
    else (spanString r).map fun s => (c :: s.1, s.2)
termination_by s => s.length
decreasing_by
  · simp only [List.length_drop, List.length_cons]; omega
  · simp

def isSpace (c : Char) : Bool :=
  c == ' ' || c == '\n' || c == '\t' || c == '\r'

def token? (s : List Char) : Option (Token × Nat) :=
  match s with
  | '[' :: _ => some (.openArray, 1)
  | ']' :: _ => some (.closeArray, 1)
  | '\x7b' :: _ => some (.openObject, 1)
  | '\x7d' :: _ => some (.closeObject, 1)
  | ',' :: _ => some (.comma, 1)
  | ':' :: _ => some (.colon, 1)
  | '\x22' :: r =>
    (spanString r).map fun t => (.string (.ofList t.1), s.length - t.2.length)
  | _ =>
    if "null".toList.isPrefixOf s then some (.null, 4)
    else if "true".toList.isPrefixOf s then some (.bool true, 4)
    else if "false".toList.isPrefixOf s then some (.bool false, 5)
    else
      let (numeral, rest) := spanNumeral s
      if numeral.wellFormed then
        numeral.value?.map fun v => (.number v, s.length - rest.length)
      else none

def tokens? : List Char → Option (List Token)
  | [] => some []
  | c :: r =>
    if isSpace c then tokens? r
    else
      match token? (c :: r) with
      | none => none
      | some (t, n) => (tokens? (r.drop (n - 1))).map (t :: ·)
termination_by s => s.length
decreasing_by
  · simp
  · simp only [List.length_drop, List.length_cons]; omega

end Routewright.Json
