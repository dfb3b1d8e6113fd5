import Routewright.Go.Declaration
import Routewright.Go.Parser

namespace Routewright.Go

structure Grammar where
  type : Parser TypeExpr
  /-- An expression; the argument tells whether the name of a type may open a composite literal. -/
  expr : Bool → Parser Expr
  elements : Parser (List (Option String × Expr))
  statement : Parser (Option (List Expr))

def Grammar.empty : Grammar where
  type := failure
  expr := fun _ => failure
  elements := failure
  statement := failure

namespace TypeParser

open Go.Parser

inductive ParamEntry
  /-- A name alone, which is a type unless a later name shares its type with it. -/
  | bare (name : String)
  | unnamed (type : TypeExpr)
  | named (name : String) (type : TypeExpr)
  | variadic (name : Option String) (element : String)

def ParamEntry.isBare : ParamEntry → Bool
  | .bare _ => true
  | _ => false

def unnamedGroups (names : List String) : List ParamGroup :=
  names.map fun name => ⟨[], .ident name⟩

def groupsAfter (names : List String) : List ParamEntry → List ParamGroup
  | [] => unnamedGroups names
  | .bare name :: rest => groupsAfter (names ++ [name]) rest
  | .unnamed type :: rest => unnamedGroups names ++ ⟨[], type⟩ :: groupsAfter [] rest
  | .named name type :: rest => ⟨names ++ [name], type⟩ :: groupsAfter [] rest
  | .variadic name element :: rest =>
    unnamedGroups names ++ ⟨name.toList, .other ("..." ++ element)⟩ :: groupsAfter [] rest

variable (g : Grammar)

def otherFrom (start : Nat) : Parser TypeExpr :=
  return .other (← textFrom start)

def behind (type : Parser TypeExpr) : Parser TypeExpr := do
  let comments := ((← peek).map Token.comments).getD []
  let t ← type
  return match comments with
    | [] => t
    | comment :: _ => .other comment.text

def variadicElement : Parser String := do
  expect "..."
  let start ← here
  discard g.type
  textFrom start

def isEntryEnd : Parser Bool :=
  isNextOf [",", ")"]

def namedEntry : Parser ParamEntry := do
  let n ← name
  if ← isNext "..." then return .variadic (some n) (← variadicElement g)
  let t ← g.type
  if ← isEntryEnd then return .named n t else failure

def unnamedEntry : Parser ParamEntry := do
  if ← isNext "..." then return .variadic none (← variadicElement g)
  match ← g.type with
  | .ident n => return .bare n
  | t => return .unnamed t

/-- An entry in which a keyword stands for a name, as in `a, chan T`, where `a` and `chan` are of
type `T`. -/
def keywordEntry : Parser ParamEntry := do
  let n ← expectKind .keyword
  let t ← g.type
  if ← isEntryEnd then return .named n.text t else failure

def paramEntry (behindBare : Bool) : Parser ParamEntry :=
  (if behindBare then keywordEntry g else failure) <|> namedEntry g <|> unnamedEntry g

def paramEntries (behindBare : Bool) : Nat → Parser (List ParamEntry)
  | 0 => failure
  | n + 1 => do
    if ← eat ")" then return []
    let e ← paramEntry g behindBare
    if ← eat "," then return e :: (← paramEntries e.isBare n)
    expect ")"
    return [e]

def params : Parser Signature := do
  expect "("
  return ⟨groupsAfter [] (← paramEntries g false (← bound))⟩

def isTypeNext : Parser Bool := do
  return (← isNextKind .name) ||
    (← isNextOf ["*", "(", "[", "<-", "map", "chan", "func", "struct", "interface"])

def results : Parser Unit := do
  if ← isNext "(" then discard (params g)
  else if ← isTypeNext then discard g.type

def signature : Parser Signature := do
  let s ← params g
  results g
  return s

def constraintTerm : Parser Unit := do
  discard (eat "~")
  discard g.type

def constraint : Parser Unit := do
  discard (separated ["|"] (constraintTerm g) (← bound))

def embedded : Parser Unit := do
  discard (eat "*")
  discard name
  if ← eat "." then discard name
  if ← eat "[" then discard (items "]" g.type)

def structField : Parser Unit := do
  (do discard (commaList name); discard g.type) <|> embedded g
  discard (optional (expectKind .string))

def interfaceEntry : Parser Unit :=
  (do discard name; discard (signature g)) <|> constraint g

def arrayLength : Parser Unit := do
  if ← eat "]" then return ()
  if (← isNextKind .keyword) || (← isNext "[") then failure
  if !(← eat "...") then discard (g.expr true)
  expect "]"

def namedType : Parser TypeExpr := do
  let start ← here
  let n ← name
  let t ← if ← eat "." then pure (.qualified n (← name)) else pure (.ident n)
  if ← isNext "[" then
    expect "["
    if (← items "]" g.type).isEmpty then failure
    otherFrom start
  else return t

def compoundType : Parser TypeExpr := do
  let start ← here
  if ← eat "[" then
    arrayLength g
    discard g.type
  else if ← eat "map" then
    expect "["
    discard g.type
    expect "]"
    discard g.type
  else if ← eat "chan" then
    discard (eat "<-")
    discard g.type
  else if ← eat "<-" then
    expect "chan"
    discard g.type
  else if ← eat "func" then discard (signature g)
  else if ← eat "struct" then
    expect "\x7b"
    discard (entries "\x7d" (structField g))
  else
    expect "interface"
    expect "\x7b"
    discard (entries "\x7d" (interfaceEntry g))
  otherFrom start

def type : Parser TypeExpr := do
  if ← isNextKind .name then namedType g
  else if ← eat "*" then return .pointer (← behind g.type)
  else if ← eat "(" then
    let t ← behind g.type
    expect ")"
    return t
  else compoundType g

def typeParams : Parser Unit := do
  expect "["
  let group : Parser Unit := do
    discard (commaList name)
    constraint g
  if (← items "]" group).isEmpty then failure

end TypeParser

end Routewright.Go
