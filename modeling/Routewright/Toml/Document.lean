import Routewright.Dict
import Routewright.Toml.Token

/-!
TOML documents whose tables hold texts and lists.

Tables stand at the top level only. A key is bound once, and a table is defined once: by its header,
by a value in braces, or by keys with dots.
-/

namespace Routewright.Toml

inductive Value
  | text (value : String)
  | list (items : List Value)
  | table (entries : List (String × Value))
deriving Repr, Inhabited

inductive Statement
  | header (table : String)
  | binding (path : List String) (value : Value)
deriving Repr

abbrev Parser (α : Type) := StateT (List Token) Option α

namespace Parser

def eat (t : Token) : Parser Bool := do
  match ← get with
  | u :: rest =>
    if u = t then
      set rest
      return true
    else return false
  | [] => return false

def expect (t : Token) : Parser Unit := do
  if !(← eat t) then failure

def key : Parser String := do
  match ← get with
  | .word text :: rest | .text text false :: rest =>
    set rest
    return text
  | _ => failure

def skipNewlines : Parser Unit :=
  modify fun tokens => tokens.dropWhile (· == .newline)

def itemsTo {α : Type} (close : Token) (item : Parser α) : Nat → Parser (List α)
  | 0 => failure
  | n + 1 => do
    skipNewlines
    if ← eat close then return []
    let a ← item
    skipNewlines
    if ← eat .comma then return a :: (← itemsTo close item n)
    expect close
    return [a]

def items {α : Type} (close : Token) (item : Parser α) : Parser (List α) := do
  itemsTo close item ((← get).length + 1)

def value : Nat → Parser Value
  | 0 => failure
  | n + 1 => do
    match ← get with
    | .text text _ :: rest =>
      set rest
      return .text text
    | .openList :: rest =>
      set rest
      return .list (← items .closeList (value n))
    | .openTable :: rest =>
      set rest
      let entry : Parser (String × Value) := do
        let k ← key
        expect .equals
        return (k, ← value n)
      return .table (← items .closeTable entry)
    | _ => failure

def nesting : Nat := 3

def path : Parser (List String) := do
  let first ← key
  if ← eat .dot then return [first, ← key] else return [first]

def statement : Parser Statement := do
  if ← eat .openList then
    let k ← key
    expect .closeList
    return .header k
  else
    let p ← path
    expect .equals
    return .binding p (← value nesting)

def statements : Nat → Parser (List Statement)
  | 0 => failure
  | n + 1 => do
    skipNewlines
    if (← get).isEmpty then return []
    let s ← statement
    if !(← get).isEmpty then expect .newline
    return s :: (← statements n)

end Parser

structure Table where
  takesDots : Bool
  content : Value

namespace Table

def bind? (t : Table) (key : String) (value : Value) : Option Table :=
  match t.content with
  | .table entries =>
    if (entries.map (·.1)).contains key then none
    else some { t with content := .table (entries ++ [(key, value)]) }
  | _ => none

end Table

abbrev Document := Dict Table

def Value.hasUniqueKeys : Value → Bool
  | .table entries => (entries.map (·.1)).Nodup
  | _ => true

namespace Document

structure Draft where
  tables : Document := ∅
  current : Option String := none

def Draft.define? (d : Draft) (name : String) (t : Table) : Option Draft :=
  if d.tables.contains name then none
  else some { d with tables := d.tables.insert name t }

def Draft.bindIn? (d : Draft) (name key : String) (value : Value) : Option Draft := do
  let t ← (← d.tables.get? name).bind? key value
  return { d with tables := d.tables.insert name t }

def step? (d : Draft) : Statement → Option Draft
  | .header name =>
    (d.define? name ⟨false, .table []⟩).map ({ · with current := some name })
  | .binding path value =>
    match d.current, path with
    | some name, [key] => d.bindIn? name key value
    | none, [name] =>
      if value.hasUniqueKeys then d.define? name ⟨false, value⟩ else none
    | none, [name, key] =>
      match d.tables.get? name with
      | none => d.define? name ⟨true, .table [(key, value)]⟩
      | some t => if t.takesDots then d.bindIn? name key value else none
    | _, _ => none

def ofText? (text : List Char) : Option Document := do
  let body := if text.head? = some (Char.ofNat 0xfeff) then text.tail else text
  let tokens ← Token.ofText? body
  let (statements, _) ← (Parser.statements (tokens.length + 1)).run tokens
  return (← statements.foldlM step? {}).tables

end Document

end Routewright.Toml
