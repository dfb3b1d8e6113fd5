import Routewright.Dict
import Routewright.Json.Binary64
import Routewright.Text.Digits

namespace Routewright

open Text

/-- A number is an integer as long as it fits in 64 bits, and a double otherwise. -/
inductive Json.Number
  | int (value : Int)
  | double (negative : Bool) (magnitude : Json.Binary64)
deriving DecidableEq, Repr

inductive Json
  | null
  | bool (value : Bool)
  | number (value : Json.Number)
  | string (value : String)
  | array (items : List Json)
  | object (members : List (String × Json))
deriving Repr, Inhabited

namespace Json

def Number.text : Number → String
  | int value => toString value
  | double negative magnitude => (if negative then "-" else "") ++ magnitude.text

def escapeChar (c : Char) : List Char :=
  if c = '\x22' then ['\\', '\x22']
  else if c = '\\' then ['\\', '\\']
  else if c = '\x08' then ['\\', 'b']
  else if c = '\x0c' then ['\\', 'f']
  else if c = '\n' then ['\\', 'n']
  else if c = '\r' then ['\\', 'r']
  else if c = '\t' then ['\\', 't']
  else if c.toNat < 0x20 then '\\' :: 'u' :: fourHexDigits c.toNat
  else [c]

def stringText (s : String) : String :=
  "\"" ++ .ofList (s.toList.flatMap escapeChar) ++ "\""

mutual

def text : Json → String
  | null => "null"
  | bool value => if value then "true" else "false"
  | number value => value.text
  | string value => stringText value
  | array items => "[" ++ itemsText items ++ "]"
  | object members => "\x7b" ++ membersText members ++ "\x7d"

def itemsText : List Json → String
  | [] => ""
  | [v] => v.text
  | v :: w :: r => v.text ++ "," ++ itemsText (w :: r)

def membersText : List (String × Json) → String
  | [] => ""
  | [(k, v)] => stringText k ++ ":" ++ v.text
  | (k, v) :: m :: r => stringText k ++ ":" ++ v.text ++ "," ++ membersText (m :: r)

end

end Json

end Routewright
