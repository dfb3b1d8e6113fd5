import Routewright.Failure
import Routewright.Text.Letters
import Routewright.Text.Split

/-!
Route paths as patterns.

A path is a list of segments between slashes. A segment in braces is a wildcard: `{name}` stands for
one segment, `{name...}` for the remainder of a path and `{$}` for its end. Two paths that differ in
the names of their wildcards only have the same key.
-/

namespace Routewright

open Text

inductive Segment
  | literal (text : String)
  | wildcard (name : String)
  | remainder (name : String)
  | endMark
deriving DecidableEq, Repr

namespace Segment

def name? : Segment → Option String
  | wildcard name => some name
  | remainder name => some name
  | _ => none

def isFinal : Segment → Bool
  | remainder _ => true
  | endMark => true
  | _ => false

def erase : Segment → String
  | literal text => text
  | wildcard _ => "\x7b\x7d"
  | remainder _ => "\x7b...\x7d"
  | endMark => "\x7b$\x7d"

end Segment

namespace Pattern

def isIdentifier (s : List Char) : Bool :=
  match s with
  | [] => false
  | c :: r => (isAlphabetic c || c == '_') && r.all fun c => isAlphanumeric c || c == '_'

def isBrace (c : Char) : Bool :=
  c == '\x7b' || c == '\x7d'

def inner? (s : List Char) : Option (List Char) :=
  match s with
  | '\x7b' :: r =>
    if r.getLast? = some '\x7d' ∧ ¬ r.dropLast.any isBrace then some r.dropLast else none
  | _ => none

def segment (last : Bool) (s : List Char) : Except PatternIssue Segment :=
  if !s.any isBrace then .ok (.literal (.ofList s))
  else
    match inner? s with
    | none => .error (.malformedSegment (.ofList s))
    | some inner =>
      if inner = ['$'] then
        if last then .ok .endMark else .error .endMarkerInside
      else
        match dropEnd? "...".toList inner with
        | some name =>
          if !last then .error (.remainderInside (.ofList inner))
          else if isIdentifier name then .ok (.remainder (.ofList name))
          else .error (.notIdentifier (.ofList name))
        | none =>
          if isIdentifier inner then .ok (.wildcard (.ofList inner))
          else .error (.notIdentifier (.ofList inner))

def segmentsFrom (names : List String) : List (List Char) → Except PatternIssue (List Segment)
  | [] => .ok []
  | s :: rest =>
    match segment rest.isEmpty s with
    | .error issue => .error issue
    | .ok seg =>
      match seg.name? with
      | none => (segmentsFrom names rest).map (seg :: ·)
      | some name =>
        if names.contains name then .error (.repeatedName name)
        else (segmentsFrom (name :: names) rest).map (seg :: ·)

def segments (path : String) : Except PatternIssue (List Segment) :=
  segmentsFrom [] (splitOnChar '/' path.toList)

def key (path : String) : Except PatternIssue String :=
  (segments path).map fun segs => "/".intercalate (segs.map Segment.erase)

end Pattern

end Routewright
