import Routewright.Failure
import Routewright.Go.DocComment
import Routewright.Go.Literal
import Routewright.Go.StatementParser
import Routewright.Text.Utf8

namespace Routewright.Go.FileParser

open Go.Parser Text

inductive Item
  | package (name : String)
  | imports (specs : List (Option Import))
  | function (f : FuncDecl)
  | other

structure Draft where
  items : List Item := []
  nodes : List TopLevel := []

def nodeOfComment (c : Comment) : TopLevel :=
  ⟨true, c.text, c.firstRow, c.lastRow, c.startsLine⟩

def nodeOfItem (firstRow lastRow : Nat) : TopLevel :=
  ⟨false, "", firstRow, lastRow, false⟩

variable (g : Grammar)

def importSpec : Parser (Option Import) := do
  let label ←
    if ← isNextKind .name then some <$> name
    else if ← eat "." then pure (some ".")
    else pure none
  let path := unquote? (← expectKind .string).text.toList
  return path.map fun p => ⟨label, .ofList p⟩

def function (row : Nat) (doc : Option (List String)) : Parser FuncDecl := do
  expect "func"
  let hasReceiver ← isNext "("
  if hasReceiver then discard (TypeParser.params g)
  let n ← name
  if !hasReceiver && (← isNext "[") then TypeParser.typeParams g
  let s ← TypeParser.signature g
  let statements ← if ← isNext "\x7b" then ExprParser.block g else pure []
  return ⟨n, hasReceiver, doc, s, statements.filterMap id, row + 1⟩

def item (t : Token) (before : List TopLevel) : Parser Item := do
  if t.kind != .keyword then failure
  match t.text with
  | "package" =>
    expect "package"
    return .package (← name)
  | "import" =>
    expect "import"
    return .imports (← StatementParser.group importSpec)
  | "func" => return .function (← function g t.row (DocComment.ofPreceding before t.row))
  | _ =>
    StatementParser.declaration g
    return .other

def itemsFrom (draft : Draft) : Nat → Parser (List Item)
  | 0 => failure
  | n + 1 => do
    match ← peek with
    | none => return draft.items.reverse
    | some t =>
      let nodes := (t.comments.map nodeOfComment).reverse ++ draft.nodes
      let i ← item g t nodes.reverse
      match ← peek with
      | none => return (i :: draft.items).reverse
      | some stop =>
        if ← eatEnd then
          let behind := (stop.comments.map nodeOfComment).reverse
          itemsFrom ⟨i :: draft.items, behind ++ nodeOfItem t.row stop.row :: nodes⟩ n
        else failure

def packageOf (items : List Item) : Option String :=
  (items.filterMap fun
    | .package name => some name
    | _ => none).getLast?

def importsOf (items : List Item) : List Import :=
  items.flatMap fun
    | .imports specs => specs.filterMap id
    | _ => []

def functionsOf (items : List Item) : List FuncDecl :=
  items.filterMap fun
    | .function f => some f
    | _ => none

def items? (source : SourceText) : Option (List Item) := do
  let marked := source.head? == some (some (Char.ofNat 0xfeff))
  let text := if marked then source.tail else source
  let tokens ← Token.ofText? (!marked) text
  let n := tokens.length + 1
  let (items, _) ← (itemsFrom (Grammar.upTo n) {} n).run ⟨text.toArray, tokens, 0⟩
  return items

end FileParser

def SourceFile.ofBytes (path : String) (bytes : ByteArray) : Except Failure SourceFile :=
  match FileParser.items? (Text.Utf8.units bytes) with
  | none => .error (.source path .malformed)
  | some items =>
    match FileParser.packageOf items with
    | none => .error (.source path .noPackageClause)
    | some package =>
      .ok ⟨path, package, FileParser.importsOf items, FileParser.functionsOf items⟩

end Routewright.Go
