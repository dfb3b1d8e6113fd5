import Routewright.Handler
import Routewright.Proofs.Go.Identifier
import Routewright.Server.Statement

/-! What the language demands of the function of a request before it may run. A name means what
the innermost block says that declares it, a package where no block does, and a predeclared thing
where no package is called so either. A variable is declared once in its block, and it is used.
What a called function takes is not looked at. -/

namespace Routewright.Go

inductive Kind
  | text
  | pointer (type : String)
  | writer
  | request
  | error
  | table
deriving DecidableEq, Repr

/-- The packages that a file imports, by their names, and the variables that the blocks around a
statement have declared so far, innermost first. -/
structure Context where
  packages : List String
  blocks : List (List (String × Kind))

namespace Context

def kind? (c : Context) (name : String) : Option Kind :=
  c.blocks.findSome? (·.lookup name)

def seesPackage (c : Context) (name : String) : Bool :=
  (c.kind? name).isNone && c.packages.contains name

def seesPredeclared (c : Context) (name : String) : Bool :=
  (c.kind? name).isNone && !c.packages.contains name

def seesMember (c : Context) (s : String) : Bool :=
  match s.toList.dropWhile (· != '.') with
  | [] => false
  | _ :: name =>
    c.seesPackage (.ofList (s.toList.takeWhile (· != '.'))) && isIdentifier name &&
      isExported (.ofList name)

def seesType (c : Context) (type : String) : Bool :=
  if isPredeclared type then type != "comparable" && c.seesPredeclared type else c.seesMember type

def declare (c : Context) (name : String) (kind : Kind) : Option Context :=
  match c.blocks with
  | [] => none
  | b :: rest =>
    if IsName name ∧ b.lookup name = none then
      some { c with blocks := ((name, kind) :: b) :: rest }
    else none

def enter (c : Context) (blocks : List (List (String × Kind))) : Context :=
  { c with blocks := blocks ++ c.blocks }

end Context

def TextExpr.isTyped (c : Context) : TextExpr → Bool
  | var name => c.kind? name == some .text
  | literal source => (literalText? source).isSome
  | pathValue _ => c.kind? "r" == some .request
  | queryValue _ => c.kind? "r" == some .request
  | headerValue _ => c.kind? "r" == some .request
  | append left right => left.isTyped c && right.isTyped c

def Argument.isTyped (c : Context) (a : Argument) : Bool :=
  (c.kind? a.name).any fun | .pointer _ => true | _ => false

mutual

def Statement.check (c : Context) : Statement → Option Context
  | .declare name value => if value.isTyped c then c.declare name .text else none
  | .assign name value => if c.kind? name = some .text ∧ value.isTyped c then some c else none
  | .append name value => if c.kind? name = some .text ∧ value.isTyped c then some c else none
  | .allocate name type =>
    if c.seesPredeclared "new" ∧ c.seesType type then c.declare name (.pointer type) else none
  | .store pointer value =>
    if c.kind? pointer = some (.pointer "string") ∧ value.isTyped c then some c else none
  | .whenEmpty name body =>
    if c.kind? name = some .text then (checkAll (c.enter [[]]) body).map fun _ => c else none
  | .whenPresent name body =>
    if c.kind? name = some .text then (checkAll (c.enter [[]]) body).map fun _ => c else none
  | .decode raw pointer onFailure =>
    if c.seesPackage "json" ∧ c.seesPredeclared "byte" ∧ c.seesPredeclared "nil" ∧
        c.kind? raw = some .text ∧ Argument.isTyped c ⟨pointer, false⟩ then
      (checkAll (c.enter [[], [("err", .error)]]) onFailure).map fun _ => c
    else none
  | .refuse name =>
    if c.seesPackage "http" ∧ c.kind? "w" = some .writer ∧ c.kind? name = some .text then some c
    else none
  | .leave => some c
  | .call function args =>
    if c.seesMember function ∧ args.all (Argument.isTyped c) then some c else none

def checkAll (c : Context) : List Statement → Option Context
  | [] => some c
  | s :: rest => (s.check c).bind fun c => checkAll c rest

end

def TextExpr.uses (name : String) : TextExpr → Bool
  | var x => x == name
  | literal _ => false
  | pathValue _ => name == "r"
  | queryValue _ => name == "r"
  | headerValue _ => name == "r"
  | append left right => left.uses name || right.uses name

def Statement.ownVar? : Statement → Option String
  | .declare name _ => some name
  | .allocate name _ => some name
  | _ => none

mutual

def Statement.uses (name : String) : Statement → Bool
  | .declare _ value => value.uses name
  | .assign _ value => value.uses name
  | .append _ value => value.uses name
  | .allocate .. => false
  | .store pointer value => pointer == name || value.uses name
  | .whenEmpty x body => x == name || anyUses name body
  | .whenPresent x body => x == name || anyUses name body
  | .decode raw pointer onFailure =>
    raw == name || pointer == name || (name != "err" && anyUses name onFailure)
  | .refuse x => x == name || name == "w"
  | .leave => false
  | .call _ args => args.any (·.name == name)

def anyUses (name : String) : List Statement → Bool
  | [] => false
  | s :: rest => s.uses name || (s.ownVar? != some name && anyUses name rest)

end

mutual

def Statement.usesAll : Statement → Bool
  | .whenEmpty _ body => useAll body
  | .whenPresent _ body => useAll body
  | .decode _ _ onFailure => useAll onFailure
  | _ => true

def useAll : List Statement → Bool
  | [] => true
  | s :: rest => s.usesAll && s.ownVar?.all (anyUses · rest) && useAll rest

end

/-- Whether a function of a response writer `w` and a request `r` is well-formed where it is put
into the table `mux`. -/
def isWellFormed (packages : List String) (body : List Statement) : Bool :=
  let outer : Context := ⟨packages, [[("mux", .table)]]⟩
  outer.seesPackage "http" &&
    (checkAll (outer.enter [[("w", .writer), ("r", .request)]]) body).isSome && useAll body

section Contexts

variable {c : Context} {packages : List String} {b : List (String × Kind)}
  {rest : List (List (String × Kind))} {name x : String} {kind : Kind}

namespace Context

lemma kind?_cons_self : kind? ⟨packages, ((name, kind) :: b) :: rest⟩ name = some kind := by
  simp [kind?]

lemma kind?_cons_of_ne (h : name ≠ x) :
    kind? ⟨packages, ((x, kind) :: b) :: rest⟩ name = kind? ⟨packages, b :: rest⟩ name := by
  have hlookup : ((x, kind) :: b).lookup name = b.lookup name := by
    rw [List.lookup_cons, beq_false_of_ne h]
  simp only [kind?, List.findSome?_cons, hlookup]

lemma kind?_enter_nil (c : Context) (name : String) : (c.enter [[]]).kind? name = c.kind? name := by
  simp [kind?, enter, List.findSome?_cons]

lemma seesPackage_enter_nil (c : Context) (name : String) :
    (c.enter [[]]).seesPackage name = c.seesPackage name := by
  rw [seesPackage, kind?_enter_nil]
  rfl

lemma seesPredeclared_enter_nil (c : Context) (name : String) :
    (c.enter [[]]).seesPredeclared name = c.seesPredeclared name := by
  rw [seesPredeclared, kind?_enter_nil]
  rfl

lemma kind?_enter_err (c : Context) (h : name ≠ "err") :
    (c.enter [[], [("err", .error)]]).kind? name = c.kind? name := by
  have hne : (name == "err") = false := beq_false_of_ne h
  simp [kind?, enter, List.findSome?_cons, List.lookup_cons, hne]

lemma declare_of_new (hname : IsName name) (h : b.lookup name = none) :
    declare ⟨packages, b :: rest⟩ name kind =
      some ⟨packages, ((name, kind) :: b) :: rest⟩ :=
  if_pos ⟨hname, h⟩

end Context

lemma checkAll_append (c : Context) (l m : List Statement) :
    checkAll c (l ++ m) = (checkAll c l).bind fun c => checkAll c m := by
  induction l generalizing c with
  | nil => rfl
  | cons s l ih =>
    rw [List.cons_append, checkAll, checkAll]
    cases s.check c with
    | none => rfl
    | some d => exact ih d

lemma anyUses_append {l m : List Statement} (h : anyUses name l = true) :
    anyUses name (l ++ m) = true := by
  induction l with
  | nil => cases h
  | cons s l ih =>
    rw [anyUses, Bool.or_eq_true, Bool.and_eq_true] at h
    rw [List.cons_append, anyUses, Bool.or_eq_true, Bool.and_eq_true]
    exact h.imp_right fun ⟨hs, hl⟩ => ⟨hs, ih hl⟩

lemma anyUses_of_not_own {l m : List Statement} (hl : ∀ s ∈ l, s.ownVar? ≠ some name)
    (hm : anyUses name m = true) : anyUses name (l ++ m) = true := by
  induction l with
  | nil => exact hm
  | cons s l ih =>
    obtain ⟨hs, hl⟩ := List.forall_mem_cons.mp hl
    rw [List.cons_append, anyUses, ih hl, Bool.and_true, Bool.or_eq_true]
    exact .inr (bne_iff_ne.mpr hs)

lemma useAll_append {l m : List Statement} (hl : useAll l = true) (hm : useAll m = true) :
    useAll (l ++ m) = true := by
  induction l with
  | nil => exact hm
  | cons s l ih =>
    rw [useAll, Bool.and_eq_true, Bool.and_eq_true] at hl
    obtain ⟨⟨hs, hown⟩, hl⟩ := hl
    rw [List.cons_append, useAll, hs, ih hl, Bool.and_true, Bool.true_and]
    cases hvar : s.ownVar? with
    | none => rfl
    | some x =>
      rw [hvar] at hown
      exact anyUses_append hown

end Contexts

end Routewright.Go
