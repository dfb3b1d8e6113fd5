import Routewright.Text.Split

namespace Routewright.Path

open Text

def join (base name : String) : String :=
  if name.toList.head? = some '/' ∨ base.isEmpty then name
  else if base.toList.getLast? = some '/' then base ++ name
  else base ++ "/" ++ name

/-- The components of a path. Repeated and final slashes do not count, a dot counts at the very
start only, and a leading slash is a component of its own. -/
def components (path : String) : List String :=
  let parts := (splitOnChar '/' path.toList).map String.ofList
  let counts (part : String) := part ≠ "" ∧ part ≠ "."
  if path.toList.head? = some '/' then "/" :: parts.filter (counts ·)
  else
    match parts with
    | "." :: rest => "." :: rest.filter (counts ·)
    | _ => parts.filter (counts ·)

def relative (root path : List String) : List String :=
  (root.isPrefixOf? path).getD path

end Routewright.Path
