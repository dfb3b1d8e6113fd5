import Routewright.Text.Split

/-!
The comments that document a declaration.

They are the longest run of comments directly before it in which the last one ends on the row just
above the declaration, each other one ends on the row just above the next, and each is the first
thing on its line.
-/

namespace Routewright.Go

open Text

structure TopLevel where
  isComment : Bool
  text : String
  /-- The rows of its first and last character, counted from zero. -/
  firstRow : Nat
  lastRow : Nat
  startsLine : Bool
deriving DecidableEq, Repr

namespace DocComment

def documents (t : TopLevel) (row : Nat) : Bool :=
  t.isComment && t.startsLine && t.lastRow + 1 == row

/-- The comments that document what begins on a row, where what stands before it is listed from
the nearest on; the result is listed in the same way. -/
def run (row : Nat) : List TopLevel → List TopLevel
  | [] => []
  | t :: rest => if documents t row then t :: run t.firstRow rest else []

def lines (comment : String) : List String :=
  match dropStart? "//".toList comment.toList with
  | some rest => [.ofList rest]
  | none =>
    let body := (dropStart? "/*".toList comment.toList).bind (dropEnd? "*/".toList)
    (Text.lines (body.getD comment.toList)).map String.ofList

def ofPreceding (before : List TopLevel) (row : Nat) : Option (List String) :=
  match run row before.reverse with
  | [] => none
  | comments => some (comments.reverse.flatMap fun t => lines t.text)

end DocComment

end Routewright.Go
