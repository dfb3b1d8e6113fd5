import Routewright.Go.Literal

namespace Routewright.Go

inductive TextExpr
  | var (name : String)
  /-- A string literal, given by what stands between its quotes. -/
  | literal (source : String)
  | pathValue (key : String)
  | queryValue (key : String)
  | headerValue (key : String)
  | append (left right : TextExpr)
deriving DecidableEq, Repr

def TextExpr.source : TextExpr → String
  | var name => name
  | literal source => "\"" ++ source ++ "\""
  | pathValue key => "r.PathValue(" ++ quote key ++ ")"
  | queryValue key => "r.URL.Query().Get(" ++ quote key ++ ")"
  | headerValue key => "r.Header.Get(" ++ quote key ++ ")"
  | append left right => left.source ++ " + " ++ right.source

structure Argument where
  name : String
  dereferenced : Bool
deriving DecidableEq, Repr

def Argument.source (a : Argument) : String :=
  (if a.dereferenced then "*" else "") ++ a.name

inductive Statement
  | declare (name : String) (value : TextExpr)
  | assign (name : String) (value : TextExpr)
  | append (name : String) (value : TextExpr)
  | allocate (name type : String)
  | store (pointer : String) (value : TextExpr)
  | whenEmpty (name : String) (body : List Statement)
  | whenPresent (name : String) (body : List Statement)
  | decode (raw pointer : String) (onFailure : List Statement)
  | refuse (name : String)
  | leave
  | call (function : String) (args : List Argument)
deriving Repr

def indent (depth : Nat) (line : String) : String :=
  .ofList (List.replicate depth '\t') ++ line

mutual

def Statement.lines (depth : Nat) : Statement → List String
  | .declare name value => [indent depth (name ++ " := " ++ value.source)]
  | .assign name value => [indent depth (name ++ " = " ++ value.source)]
  | .append name value => [indent depth (name ++ " += " ++ value.source)]
  | .allocate name type => [indent depth (name ++ " := new(" ++ type ++ ")")]
  | .store pointer value => [indent depth ("*" ++ pointer ++ " = " ++ value.source)]
  | .whenEmpty name body =>
    indent depth ("if " ++ name ++ " == \"\" \x7b") ::
      (statementLines (depth + 1) body ++ [indent depth "\x7d"])
  | .whenPresent name body =>
    indent depth ("if " ++ name ++ " != \"\" \x7b") ::
      (statementLines (depth + 1) body ++ [indent depth "\x7d"])
  | .decode raw pointer onFailure =>
    indent depth
        ("if err := json.Unmarshal([]byte(" ++ raw ++ "), " ++ pointer ++ "); err != nil \x7b") ::
      (statementLines (depth + 1) onFailure ++ [indent depth "\x7d"])
  | .refuse name => [indent depth ("http.Error(w, " ++ name ++ ", http.StatusTeapot)")]
  | .leave => [indent depth "return"]
  | .call function args =>
    [indent depth (function ++ "(" ++ ", ".intercalate (args.map Argument.source) ++ ")")]

def statementLines (depth : Nat) : List Statement → List String
  | [] => []
  | s :: rest => s.lines depth ++ statementLines depth rest

end

end Routewright.Go
