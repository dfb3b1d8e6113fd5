namespace Routewright.Go

/-- A type; whatever is not a name or a pointer is kept as source text. -/
inductive TypeExpr
  | ident (name : String)
  | qualified (package name : String)
  | pointer (target : TypeExpr)
  | other (text : String)
deriving DecidableEq, Repr, Inhabited

namespace TypeExpr

def isPointer : TypeExpr → Bool
  | pointer _ => true
  | _ => false

def directName? : TypeExpr → Option String
  | ident name => some name
  | qualified _ name => some name
  | _ => none

def simpleName? : TypeExpr → Option String
  | pointer target => target.directName?
  | t => t.directName?

def text : TypeExpr → String
  | ident name => name
  | qualified package name => package ++ "." ++ name
  | pointer target => "*" ++ target.text
  | other text => text

def target : TypeExpr → TypeExpr
  | pointer t => t
  | t => t

end TypeExpr

structure ParamGroup where
  names : List String
  type : TypeExpr
deriving DecidableEq, Repr

structure Signature where
  params : List ParamGroup
deriving DecidableEq, Repr

structure Position where
  name : Option String
  type : TypeExpr
deriving DecidableEq, Repr

def ParamGroup.positions (g : ParamGroup) : List Position :=
  match g.names with
  | [] => [⟨none, g.type⟩]
  | names => names.map fun name => ⟨some name, g.type⟩

def Signature.positions (s : Signature) : List Position :=
  s.params.flatMap ParamGroup.positions

def ParamGroup.size (g : ParamGroup) : Nat :=
  max g.names.length 1

def Signature.arity (s : Signature) : Nat :=
  s.params.foldr (fun g n => g.size + n) 0

inductive Expr
  | composite (type : TypeExpr) (elements : List (Option String × Expr))
  | literal (text : String)
  | other (text : String)
deriving Repr, Inhabited

structure FuncDecl where
  name : String
  hasReceiver : Bool
  doc : Option (List String)
  signature : Signature
  /-- The results of each return statement that stands directly in the body. -/
  returns : List (List Expr)
  /-- The line of the declaration, counted from one. -/
  line : Nat
deriving Repr

structure Import where
  name : Option String
  path : String
deriving DecidableEq, Repr

structure SourceFile where
  path : String
  package : String
  imports : List Import
  functions : List FuncDecl
deriving Repr

theorem ParamGroup.length_positions (g : ParamGroup) : g.positions.length = g.size := by
  cases h : g.names <;> simp [positions, size, h]

theorem Signature.length_positions (s : Signature) : s.positions.length = s.arity := by
  obtain ⟨params⟩ := s
  induction params with
  | nil => rfl
  | cons g r ih =>
    simp only [positions, arity, List.flatMap_cons, List.length_append, List.foldr_cons,
      ParamGroup.length_positions] at ih ⊢
    omega

end Routewright.Go
