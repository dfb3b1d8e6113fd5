import Routewright.Go.ExprParser

namespace Routewright.Go.StatementParser

open Go.Parser

def assignOperators : List String :=
  ["=", ":=", "+=", "-=", "*=", "/=", "%=", "&=", "|=", "^=", "<<=", ">>=", "&^="]

variable (g : Grammar)

def exprs (allow : Bool) : Parser (List Expr) :=
  commaList (ExprParser.expr g allow)

def simple (allow : Bool) : Parser Unit := do
  let left ← exprs g allow
  if ← eatOf assignOperators then discard (exprs g allow)
  else if left.length ≠ 1 then failure
  else if ← eat "<-" then discard (ExprParser.expr g allow)
  else discard (eatOf ["++", "--"])

def part : Parser Bool := do
  if (← isNext "\x7b") || (← isNextEnd) then return false
  simple g false
  return true

def ifHeader : Parser Unit := do
  let first ← part g
  if ← eatEnd then
    if !(← part g) then failure
  else if !first then failure

def switchHeader : Parser Unit := do
  discard (part g)
  if ← eatEnd then discard (part g)

def rangeClause : Parser Unit := do
  if !(← isNext "range") then
    discard (exprs g false)
    if !(← eatOf ["=", ":="]) then failure
  expect "range"
  discard (ExprParser.expr g false)

def forClause : Parser Unit := do
  discard (part g)
  if ← eatEnd then
    discard (part g)
    if !(← eatEnd) then failure
    discard (part g)

def group {α : Type} (spec : Parser α) : Parser (List α) := do
  if ← eat "(" then entries ")" spec else return [← spec]

def constSpec : Parser Unit := do
  discard (commaList name)
  if ← TypeParser.isTypeNext then
    discard (TypeParser.type g)
    expect "="
    discard (exprs g true)
  else if ← eat "=" then discard (exprs g true)

def varSpec : Parser Unit := do
  discard (commaList name)
  if ← eat "=" then discard (exprs g true)
  else
    discard (TypeParser.type g)
    if ← eat "=" then discard (exprs g true)

def typeSpec : Parser Unit := do
  discard name
  (do TypeParser.typeParams g; typeBody) <|> typeBody
where
  typeBody : Parser Unit := do
    discard (eat "=")
    discard (TypeParser.type g)

def declaration : Parser Unit := do
  if ← eat "const" then discard (group (constSpec g))
  else if ← eat "var" then discard (group (varSpec g))
  else
    expect "type"
    discard (group (typeSpec g))

def clauseBody : Nat → Parser Unit
  | 0 => failure
  | n + 1 => do
    if ← isNextOf ["case", "default", "\x7d"] then return ()
    if ← eatEnd then clauseBody n
    else
      discard g.statement
      if ← isNext "\x7d" then return ()
      if ← eatEnd then clauseBody n else failure

def clauses (guard : Parser Unit) : Nat → Parser Unit
  | 0 => failure
  | n + 1 => do
    if ← eat "\x7d" then return ()
    if ← eat "case" then guard else expect "default"
    expect ":"
    clauseBody g (← bound)
    clauses guard n

def clauseBlock (guard : Parser Unit) : Parser Unit := do
  expect "\x7b"
  clauses g guard (← bound)

def ifStatement : Parser Unit := do
  expect "if"
  ifHeader g
  discard (ExprParser.block g)
  if ← eat "else" then
    if ← isNext "if" then discard g.statement else discard (ExprParser.block g)

def forStatement : Parser Unit := do
  expect "for"
  rangeClause g <|> forClause g
  discard (ExprParser.block g)

def switchStatement : Parser Unit := do
  expect "switch"
  switchHeader g
  clauseBlock g (discard (exprs g true))

def communication : Parser Unit := do
  let left ← exprs g true
  if ← eatOf ["=", ":="] then discard (ExprParser.expr g true)
  else if left.length ≠ 1 then failure
  else if ← eat "<-" then discard (ExprParser.expr g true)

def selectStatement : Parser Unit := do
  expect "select"
  clauseBlock g (communication g)

def returnStatement : Parser (List Expr) := do
  expect "return"
  if (← isNextEnd) || (← isNext "\x7d") then return [] else exprs g true

def isLabelNext : Parser Bool := do
  match (← get).rest with
  | n :: colon :: _ => return n.kind == .name && colon.kind == .operator && colon.text == ":"
  | _ => return false

def labeled : Parser Unit := do
  discard name
  expect ":"
  if !(← isNext "\x7d") && !(← isNextEnd) then discard g.statement

def keywordStatement (keyword : String) : Parser (Option (List Expr)) := do
  match keyword with
  | "return" => return some (← returnStatement g)
  | "const" | "var" | "type" => declaration g
  | "go" | "defer" =>
    discard take
    discard (ExprParser.expr g true)
  | "break" | "continue" =>
    discard take
    if ← isNextKind .name then discard name
  | "goto" =>
    discard take
    discard name
  | "fallthrough" => discard take
  | "if" => ifStatement g
  | "for" => forStatement g
  | "switch" => switchStatement g
  | "select" => selectStatement g
  | _ => simple g true
  return none

def statement : Parser (Option (List Expr)) := do
  match ← peek with
  | none => failure
  | some t =>
    if t.kind == .keyword then keywordStatement g t.text
    else
      if ← isNext "\x7b" then discard (ExprParser.block g)
      else if ← isLabelNext then labeled g
      else simple g true
      return none

end StatementParser

def Grammar.upTo : Nat → Grammar
  | 0 => .empty
  | n + 1 =>
    let g := Grammar.upTo n
    { type := TypeParser.type g
      expr := ExprParser.expr g
      elements := ExprParser.elements g
      statement := StatementParser.statement g }

end Routewright.Go
