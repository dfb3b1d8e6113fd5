import Routewright.Go.Token

/-!
Parsers on tokens: what stands next, and lists of things.

A parser takes tokens off the front of a list, or fails. The source text is at hand, so that
whatever was taken can be given back as it was written.
-/

namespace Routewright.Go

structure Cursor where
  source : Array (Option Char)
  rest : List Token
  last : Nat

abbrev Parser (α : Type) := StateT Cursor Option α

namespace Parser

def peek : Parser (Option Token) :=
  return (← get).rest.head?

def take : Parser Token := do
  let c ← get
  match c.rest with
  | [] => failure
  | t :: rest =>
    set { c with rest := rest, last := t.stop }
    return t

def isNext (text : String) : Parser Bool := do
  match ← peek with
  | some t => return (t.kind == .keyword || t.kind == .operator) && t.text == text
  | none => return false

def isNextOf (texts : List String) : Parser Bool := do
  match ← peek with
  | some t => return (t.kind == .keyword || t.kind == .operator) && texts.contains t.text
  | none => return false

def isNextKind (kind : TokenKind) : Parser Bool := do
  return (← peek).any (·.kind == kind)

def eat (text : String) : Parser Bool := do
  if ← isNext text then
    discard take
    return true
  else return false

def eatOf (texts : List String) : Parser Bool := do
  if ← isNextOf texts then
    discard take
    return true
  else return false

def expect (text : String) : Parser Unit := do
  if !(← eat text) then failure

def expectKind (kind : TokenKind) : Parser Token := do
  if ← isNextKind kind then take else failure

def name : Parser String :=
  return (← expectKind .name).text

def isNextEnd : Parser Bool :=
  return (← isNextKind .lineEnd) || (← isNext ";")

def eatEnd : Parser Bool := do
  if ← isNextEnd then
    discard take
    return true
  else return false

def here : Parser Nat := do
  let c ← get
  return (c.rest.head?.map Token.start).getD c.last

def textFrom (start : Nat) : Parser String := do
  let c ← get
  return SourceText.spell (c.source.extract start c.last).toList

def bound : Parser Nat :=
  return (← get).rest.length + 1

def itemsTo {α : Type} (close : String) (item : Parser α) : Nat → Parser (List α)
  | 0 => failure
  | n + 1 => do
    if ← eat close then return []
    let a ← item
    if ← eat "," then return a :: (← itemsTo close item n)
    expect close
    return [a]

def items {α : Type} (close : String) (item : Parser α) : Parser (List α) := do
  itemsTo close item (← bound)

def entriesTo {α : Type} (close : String) (item : Parser α) : Nat → Parser (List α)
  | 0 => failure
  | n + 1 => do
    if ← eat close then return []
    let a ← item
    if ← eatEnd then return a :: (← entriesTo close item n)
    expect close
    return [a]

def entries {α : Type} (close : String) (item : Parser α) : Parser (List α) := do
  entriesTo close item (← bound)

def separated {α : Type} (between : List String) (item : Parser α) : Nat → Parser (List α)
  | 0 => failure
  | n + 1 => do
    let a ← item
    if ← eatOf between then return a :: (← separated between item n)
    return [a]

def commaList {α : Type} (item : Parser α) : Parser (List α) := do
  separated [","] item (← bound)

def iterate {σ : Type} (step : σ → Parser (Option σ)) (s : σ) : Nat → Parser σ
  | 0 => failure
  | n + 1 => do
    match ← step s with
    | some t => iterate step t n
    | none => return s

end Parser

end Routewright.Go
