import Routewright.Go.TypeParser

namespace Routewright.Go.ExprParser

open Go.Parser

structure Operand where
  value : Expr
  type : Option TypeExpr
  isNamed : Bool
  isPlain : Bool

def Operand.ofValue (value : Expr) : Operand := ⟨value, none, false, false⟩

def unaryOperators : List String := ["+", "-", "!", "^", "*", "&", "<-"]

def binaryOperators : List String :=
  ["||", "&&", "==", "!=", "<", "<=", ">", ">=", "+", "-", "|", "^", "*", "/", "%", "<<", ">>",
    "&", "&^"]

def literalNames : List String := ["true", "false", "nil"]

variable (g : Grammar)

def block : Parser (List (Option (List Expr))) := do
  expect "\x7b"
  let rec statements : Nat → Parser (List (Option (List Expr)))
    | 0 => failure
    | n + 1 => do
      if ← eat "\x7d" then return []
      if ← eatEnd then return ← statements n
      let s ← g.statement
      if ← eat "\x7d" then return [s]
      if ← eatEnd then return s :: (← statements n) else failure
  statements (← bound)

def elementValue : Parser Expr := do
  if ← isNext "\x7b" then
    let start ← here
    discard g.elements
    return .other (← textFrom start)
  else g.expr true

def element : Parser (Option String × Expr) := do
  let start ← here
  let first ← elementValue g
  let key ← textFrom start
  if ← eat ":" then return (some key, ← elementValue g) else return (none, first)

def elements : Parser (List (Option String × Expr)) := do
  expect "\x7b"
  items "\x7d" (element g)

def nameOperand : Parser Operand := do
  let n ← name
  let value := if literalNames.contains n then Expr.literal n else .other n
  return ⟨value, some (.ident n), true, true⟩

def functionOperand (start : Nat) : Parser Operand := do
  expect "func"
  discard (TypeParser.signature g)
  if ← isNext "\x7b" then discard (block g)
  return .ofValue (.other (← textFrom start))

def operand : Parser Operand := do
  let start ← here
  match ← peek with
  | none => failure
  | some t =>
    match t.kind with
    | .name => nameOperand
    | .literal => return .ofValue (.literal (← take).text)
    | .string => return .ofValue (.literal (← take).text)
    | .lineEnd => failure
    | .keyword =>
      if t.text = "func" then functionOperand g start
      else
        let type ← TypeParser.compoundType g
        return ⟨.other type.text, some type, false, false⟩
    | .operator =>
      if t.text = "(" then
        expect "("
        let value ← g.expr true
        expect ")"
        return .ofValue value
      else if t.text = "[" then
        let type ← TypeParser.compoundType g
        return ⟨.other type.text, some type, false, false⟩
      else failure

def sliceBounds : Parser Unit := do
  let close ← isNext "]"
  let again ← isNext ":"
  if !close && !again then discard (g.expr true)
  if ← eat ":" then discard (g.expr true)
  expect "]"

def index : Parser Unit := do
  expect "["
  if ← eat ":" then sliceBounds g
  else
    discard (g.expr true)
    if ← eat ":" then sliceBounds g
    else if ← eat "," then discard (items "]" (g.expr true))
    else expect "]"

def argument : Parser Unit := do
  discard (g.expr true)
  discard (eat "...")

def follow (allow : Bool) (start : Nat) (o : Operand) : Parser (Option Operand) := do
  if ← eat "." then
    if ← eat "(" then
      if !(← eat "type") then discard g.type
      expect ")"
      return some (.ofValue (.other (← textFrom start)))
    let field ← name
    let value := Expr.other (← textFrom start)
    match o.isPlain, o.type with
    | true, some (.ident package) =>
      return some ⟨value, some (.qualified package field), true, false⟩
    | _, _ => return some (.ofValue value)
  else if ← isNext "[" then
    index g
    let text ← textFrom start
    return some ⟨.other text, if o.isNamed then some (.other text) else none, o.isNamed, false⟩
  else if ← eat "(" then
    discard (items ")" (argument g))
    return some (.ofValue (.other (← textFrom start)))
  else if ← isNext "\x7b" then
    match o.type with
    | some type =>
      if allow || !o.isNamed then
        return some (.ofValue (.composite type (← elements g)))
      else return none
    | none => return none
  else return none

def primary (allow : Bool) : Parser Expr := do
  let start ← here
  let o ← operand g
  return (← iterate (follow g allow start) o (← bound)).value

def unaryMarks : Nat → Parser Bool
  | 0 => failure
  | n + 1 => do
    if ← eatOf unaryOperators then
      discard (unaryMarks n)
      return true
    else return false

def unary (allow : Bool) : Parser Expr := do
  let start ← here
  let marked ← unaryMarks (← bound)
  let value ← primary g allow
  if marked then return .other (← textFrom start) else return value

def expr (allow : Bool) : Parser Expr := do
  let start ← here
  match ← separated binaryOperators (unary g allow) (← bound) with
  | [value] => return value
  | _ => return .other (← textFrom start)

end Routewright.Go.ExprParser
