import Routewright.Go.Declaration
import Routewright.Route

namespace Routewright

open Go

def predeclaredTypes : List String :=
  ["any", "bool", "byte", "comparable", "complex64", "complex128", "error", "float32",
    "float64", "int", "int8", "int16", "int32", "int64", "rune", "string", "uint", "uint8",
    "uint16", "uint32", "uint64", "uintptr"]

def isPredeclared (name : String) : Bool :=
  predeclaredTypes.contains name

inductive ParamSource
  /-- The path, and the query string when the path has no value. -/
  | auto
  | path
  | query
  | header
deriving DecidableEq, Repr

def ParamSource.name : ParamSource → String
  | auto => "auto"
  | path => "path"
  | query => "query"
  | header => "header"

structure Param where
  name : String
  type : TypeExpr
  required : Bool
  source : ParamSource
deriving DecidableEq, Repr

namespace Param

def valueType (p : Param) : TypeExpr :=
  p.type.target

def isString (p : Param) : Bool :=
  p.valueType == .ident "string"

def goType (p : Param) (package : String) : String :=
  match p.valueType with
  | .ident name => if isPredeclared name then name else package ++ "." ++ name
  | t => t.text

end Param

structure Handler where
  importPath : String
  package : String
  name : String
  params : List Param
deriving DecidableEq, Repr

namespace Handler

def qualifiedName (h : Handler) : String :=
  h.importPath ++ "." ++ h.name

def callExpr (h : Handler) : String :=
  h.package ++ "." ++ h.name

def needsDecoding (h : Handler) : Bool :=
  h.params.any (!·.isString)

end Handler

structure Binding where
  route : Route
  handler : Handler
deriving DecidableEq, Repr

end Routewright
