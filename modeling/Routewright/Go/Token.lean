import Routewright.Go.Lexeme

/-!
Tokens with their places.

Blanks and comments are no tokens; a comment belongs to the token that follows it. A line that ends
behind a name, a literal, a closing bracket or a keyword that can end a statement gives a token of
its own, which ends the statement.
-/

namespace Routewright.Go

structure Comment where
  text : String
  firstRow : Nat
  lastRow : Nat
  startsLine : Bool
deriving DecidableEq, Repr

inductive TokenKind
  | name
  | keyword
  | literal
  | string
  | operator
  | lineEnd
deriving DecidableEq, Repr

structure Token where
  kind : TokenKind
  text : String
  start : Nat
  stop : Nat
  row : Nat
  comments : List Comment
deriving DecidableEq, Repr

namespace Token

def closers : List String :=
  ["break", "continue", "fallthrough", "return", "++", "--", ")", "]", "\x7d"]

def endsStatement (t : Token) : Bool :=
  match t.kind with
  | .name => true
  | .literal => true
  | .string => true
  | .keyword => closers.contains t.text
  | .operator => closers.contains t.text
  | .lineEnd => false

structure Place where
  offset : Nat
  row : Nat
  blankLine : Bool
  /-- Whether a line end ends a statement. -/
  open_ : Bool
  /-- The comments since the last token, last first. -/
  comments : List Comment

def rowsOf (s : SourceText) : Nat :=
  s.count (some '\n')

def kindOf : LexemeKind → TokenKind
  | .name => .name
  | .keyword => .keyword
  | .literal => .literal
  | .string => .string
  | _ => .operator

def lineEnd (p : Place) : Token :=
  ⟨.lineEnd, "\n", p.offset, p.offset, p.row, p.comments.reverse⟩

def place (p : Place) : List Lexeme → List Token
  | [] => if p.open_ then [lineEnd p] else []
  | x :: rest =>
    let stop := p.offset + x.text.length
    match x.kind with
    | .newline =>
      let next : Place := ⟨stop, p.row + 1, true, false, p.comments⟩
      if p.open_ then lineEnd p :: place { next with comments := [] } rest else place next rest
    | .blank => place { p with offset := stop } rest
    | .comment =>
      let last := p.row + rowsOf x.text
      let comment : Comment := ⟨x.text.spell, p.row, last, p.blankLine⟩
      place ⟨stop, last, false, p.open_, comment :: p.comments⟩ rest
    | kind =>
      let t : Token :=
        ⟨kindOf kind, x.text.spell, p.offset, stop, p.row, p.comments.reverse⟩
      t :: place ⟨stop, p.row + rowsOf x.text, false, t.endsStatement, []⟩ rest

def ofText? (blankLine : Bool) (s : SourceText) : Option (List Token) :=
  (Lexeme.ofText? s).map (place ⟨0, 0, blankLine, false, []⟩)

end Token

end Routewright.Go
