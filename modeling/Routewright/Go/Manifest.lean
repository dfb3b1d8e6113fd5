import Routewright.Go.Literal
import Routewright.Text.Split
import Routewright.Text.Utf8

namespace Routewright.Go.Manifest

open Text

def code (line : List Char) : List Char :=
  trim (beforeSlashes line)

def pathValue? (raw : List Char) : Option (List Char) :=
  let s := trim raw
  let value :=
    if s.head? = some stringQuote ∨ s.head? = some rawQuote then unquote? s else (words s).head?
  value.filter (!·.isEmpty)

def moduleOperand? (line : List Char) : Option (List Char) :=
  match dropStart? "module".toList line with
  | none => none
  | some rest =>
    let operand := trimStart rest
    if operand.length = rest.length ∧ operand.head? ≠ some '(' then none else some operand

/-- Looks for the module path; `inBlock` says that an opened directive has not been filled. -/
def findPath (inBlock : Bool) : List (List Char) → Option (List Char)
  | [] => none
  | line :: rest =>
    let s := code line
    if s.isEmpty then findPath inBlock rest
    else if inBlock then
      if s = [')'] then findPath false rest else pathValue? s
    else
      match moduleOperand? s with
      | none => findPath false rest
      | some operand => if operand = ['('] then findPath true rest else pathValue? operand

def modulePathOfText (text : List Char) : Option (List Char) :=
  findPath false (lines text)

structure Version where
  major : Nat
  minor : Nat
deriving DecidableEq, Repr

def Version.atLeast (v w : Version) : Bool :=
  w.major < v.major || (v.major == w.major && w.minor ≤ v.minor)

def numberBound : Nat := Nat.pow 2 32

def versionOfWord? (word : List Char) : Option Version :=
  match word.dropWhile (· ≠ '.') with
  | [] => none
  | _ :: rest =>
    match boundedDecimal? numberBound (word.takeWhile (· ≠ '.')),
        boundedDecimal? numberBound (rest.takeWhile Char.isDigit) with
    | some major, some minor => some ⟨major, minor⟩
    | _, _ => none

def versionOfLine? (line : List Char) : Option Version :=
  match words (code line) with
  | keyword :: version :: _ => if keyword = "go".toList then versionOfWord? version else none
  | _ => none

def versionOfText (text : List Char) : Option Version :=
  (lines text).findSome? versionOfLine?

def modulePath? (bytes : ByteArray) : Option String :=
  (modulePathOfText (Utf8.decodeLossy bytes)).map String.ofList

def version? (bytes : ByteArray) : Option Version :=
  versionOfText (Utf8.decodeLossy bytes)

end Routewright.Go.Manifest
