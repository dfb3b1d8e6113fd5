import Routewright.Text.Blank

namespace Routewright

open Text

structure Environment where
  compiler : Option String := none
  logFilter : Option String := none
deriving DecidableEq, Repr

namespace Environment

def compilerVariable : String := "MATTE_GO_BIN"

def logVariable : String := "MATTE_LOG"

def ofLookup (lookup : String → Option String) : Environment :=
  let value (key : String) := (lookup key).filter fun v => !allBlank v.toList
  ⟨value compilerVariable, value logVariable⟩

def compilerOr (e : Environment) (fallback : String) : String :=
  e.compiler.getD fallback

end Environment

end Routewright
