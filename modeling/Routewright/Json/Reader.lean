import Routewright.Json.Token

namespace Routewright.Json

inductive Frame
  | array (items : List Json)
  | object (members : List (String × Json))
  /-- An object whose next member has its key. -/
  | member (members : List (String × Json)) (key : String)

inductive Expected
  | value
  | valueOrClose
  | key
  | keyOrClose
  | colon
  | follow (value : Json)

def depthLimit : Nat := 127

def Token.value? : Token → Option Json
  | .null => some .null
  | .bool b => some (.bool b)
  | .number n => some (.number n)
  | .string s => some (.string s)
  | _ => none

def push (frame : Frame) (stack : List Frame) (next : Expected) :
    Option (List Frame × Expected) :=
  if stack.length < depthLimit then some (frame :: stack, next) else none

def beginValue (stack : List Frame) (t : Token) : Option (List Frame × Expected) :=
  match t with
  | .openArray => push (.array []) stack .valueOrClose
  | .openObject => push (.object []) stack .keyOrClose
  | t => t.value?.map fun v => (stack, .follow v)

def beginMember (stack : List Frame) (t : Token) : Option (List Frame × Expected) :=
  match t, stack with
  | .string k, .object members :: rest => some (.member members k :: rest, .colon)
  | _, _ => none

def follow (stack : List Frame) (v : Json) (t : Token) : Option (List Frame × Expected) :=
  match t, stack with
  | .comma, .array items :: rest => some (.array (v :: items) :: rest, .value)
  | .closeArray, .array items :: rest => some (rest, .follow (.array (v :: items).reverse))
  | .comma, .member members k :: rest => some (.object (upsert k v members) :: rest, .key)
  | .closeObject, .member members k :: rest =>
    some (rest, .follow (.object (upsert k v members)))
  | _, _ => none

def step (stack : List Frame) (expected : Expected) (t : Token) :
    Option (List Frame × Expected) :=
  match expected with
  | .value => beginValue stack t
  | .valueOrClose =>
    match t, stack with
    | .closeArray, .array _ :: rest => some (rest, .follow (.array []))
    | _, _ => beginValue stack t
  | .key => beginMember stack t
  | .keyOrClose =>
    match t, stack with
    | .closeObject, .object _ :: rest => some (rest, .follow (.object []))
    | _, _ => beginMember stack t
  | .colon => if t = .colon then some (stack, .value) else none
  | .follow v => follow stack v t

def run (stack : List Frame) (expected : Expected) : List Token → Option Json
  | [] =>
    match stack, expected with
    | [], .follow v => some v
    | _, _ => none
  | t :: r =>
    match step stack expected t with
    | none => none
    | some (stack, expected) => run stack expected r

def ofText? (text : List Char) : Option Json :=
  (tokens? text).bind (run [] .value)

end Routewright.Json
