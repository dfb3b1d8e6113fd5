import Routewright.Doc.Markdown
import Routewright.Doc.Operation
import Routewright.Json.Reader
import Routewright.Text.Letters
import Routewright.Text.Lowercase

/-!
Attributes: comment lines such as `@Router /items [get]` or `@Param id query int true "key"`.

`Attribute.ofLine` reads a line without looking at the operation; `Operation.readLine` applies what
it says. So a line is accepted or refused by itself, and a refused line changes nothing.
-/

namespace Routewright

open Text

namespace Attribute

def spanField? (s : List Char) : Option (List Char × List Char) :=
  let word := s.takeWhile (!isBlank ·)
  let rest := s.dropWhile (!isBlank ·)
  if word.isEmpty || rest.isEmpty then none else some (word, trimStart rest)

def isName (s : List Char) : Bool :=
  !s.isEmpty && s.all isWord

def isQuoted (s : List Char) : Bool :=
  match s with
  | '\x22' :: r => r.getLast? == some '\x22' && !r.contains '\n'
  | _ => false

def cutQuoted? (word rest : List Char) : Option (List Char × List Char) :=
  match word with
  | [] => none
  | c :: r =>
    match cutQuoted? r rest with
    | some (w, q) => some (c :: w, q)
    | none => if isQuoted (r ++ rest) then some ([c], r ++ rest) else none

def wordAndQuoted? (s : List Char) : Option (List Char × Option (List Char)) :=
  let word := s.takeWhile (!isBlank ·)
  let rest := s.dropWhile (!isBlank ·)
  let tail := trimStart rest
  if word.isEmpty then none
  else if tail.isEmpty then some (word, none)
  else if isQuoted tail then some (word, some tail)
  else (cutQuoted? word rest).map fun r => (r.1, some r.2)

structure Typed where
  kind : String
  word : String
  description : Option (List Char)

def typed? (s : List Char) : Option Typed :=
  match s with
  | '\x7b' :: r =>
    let kind := r.takeWhile isWord
    match r.dropWhile isWord with
    | '\x7d' :: t =>
      if kind.isEmpty || !(t.head?.any isBlank) then none
      else (wordAndQuoted? (trimStart t)).map fun w =>
        ⟨.ofList kind, .ofList w.1, w.2⟩
    | _ => none
  | _ => none

def dropQuotes (s : List Char) : List Char :=
  dropEndWhile (· == '\x22') (s.dropWhile (· == '\x22'))

def descriptionText (s : Option (List Char)) : String :=
  match s with
  | none => ""
  | some d => .ofList (dropQuotes (trim d))

def mimeAliases : List (String × String) :=
  [("json", "application/json"), ("xml", "text/xml"), ("plain", "text/plain"),
    ("html", "text/html"), ("mpfd", "multipart/form-data"),
    ("x-www-form-urlencoded", "application/x-www-form-urlencoded"),
    ("json-api", "application/vnd.api+json"), ("json-stream", "application/x-json-stream"),
    ("octet-stream", "application/octet-stream"), ("png", "image/png"), ("jpeg", "image/jpeg"),
    ("gif", "image/gif")]

def isMime (s : List Char) : Bool :=
  s.count '/' == 1 && s.head? != some '/' && s.getLast? != some '/'

def mimeType (item : List Char) : Except AttributeIssue String :=
  match mimeAliases.lookup (.ofList item) with
  | some mime => .ok mime
  | none => if isMime item then .ok (.ofList item) else .error (.badMime (.ofList item))

def mimeTypes (s : List Char) : Except AttributeIssue (List String) :=
  (commaList s).mapM mimeType

structure ParamWords where
  name : List Char
  location : List Char
  dataType : List Char
  required : List Char
  description : List Char

def paramWords? (s : List Char) : Option ParamWords := do
  let (name, r) ← spanField? s
  let (location, r) ← spanField? r
  let (dataType, r) ← spanField? r
  let (required, r) ← spanField? r
  match r with
  | '\x22' :: t =>
    match t.dropWhile (· ≠ '\x22') with
    | '\x22' :: behind =>
      if isName location && isName required && !behind.contains '\n' then
        some ⟨name, location, dataType, required, t.takeWhile (· ≠ '\x22')⟩
      else none
    | _ => none
  | _ => none

def param (s : List Char) : Except AttributeIssue OperationParam :=
  match paramWords? s with
  | none => .error .badParam
  | some w =>
    match Location.ofName? (.ofList w.location) with
    | none => .error (.unknownLocation (.ofList w.location))
    | some location =>
      let flag := String.ofList (asciiLowercase w.required)
      let build (required : Bool) : OperationParam :=
        ⟨.ofList w.name, location, .ofList w.dataType, required, .ofList w.description⟩
      if flag = "true" then .ok (build true)
      else if flag = "false" then .ok (build false)
      else .error (.badRequired flag)

def isStatusCode (s : List Char) : Bool :=
  s == "default".toList || (boundedDecimal? (Nat.pow 2 16) s).isSome

def statusCodes (s : List Char) : Except AttributeIssue (List String) :=
  match commaList s with
  | [] => .error .noStatusCode
  | codes =>
    match codes.find? (!isStatusCode ·) with
    | some code => .error (.badStatusCode (.ofList code))
    | none => .ok (codes.map String.ofList)

def response (s : List Char) : Except AttributeIssue Change :=
  let words := fields 2 s
  let rest := (words[1]?).getD []
  match statusCodes ((words[0]?).getD []) with
  | .error issue => .error issue
  | .ok codes =>
    if rest.head? = some '\x7b' then
      match typed? rest with
      | none => .error (.badResponse (.ofList s))
      | some t =>
        .ok (.respond codes (some t.kind) (some t.word) (descriptionText t.description))
    else .ok (.respond codes none none (descriptionText (some rest)))

def header (s : List Char) : Except AttributeIssue Change :=
  match (spanField? s).bind fun f => (typed? f.2).map fun t => (f.1, t) with
  | none => .error (.badHeader (.ofList s))
  | some (codes, t) =>
    let build (codes : Option (List String)) : Change :=
      .header codes t.word ⟨t.kind, descriptionText t.description⟩
    if asciiLowercase codes = "all".toList then .ok (build none)
    else (statusCodes codes).map fun codes => build (some codes)

def isPathChar (c : Char) : Bool :=
  isWord c || "./-\x7b\x7d()+:$*@".toList.contains c

def routeWords? (s : List Char) : Option (List Char × List Char) :=
  let path := s.takeWhile isPathChar
  let rest := s.dropWhile isPathChar
  match trimStart rest with
  | '[' :: r =>
    if path.head? = some '/' ∧ rest.head?.any isBlank ∧ isName (r.takeWhile isWord) ∧
        r.dropWhile isWord = [']'] then
      some (path, r.takeWhile isWord)
    else none
  | _ => none

def scheme? (s : List Char) : Option (String × List String) :=
  let isNameChar (c : Char) := isWord c || c == '.' || c == '-'
  let name := s.takeWhile isNameChar
  if name.isEmpty then none
  else
    match s.dropWhile isNameChar with
    | [] => some (.ofList name, [])
    | '[' :: r =>
      if r.getLast? = some ']' ∧ ¬ r.dropLast.contains ']' then
        some (.ofList name, (commaList r.dropLast).map String.ofList)
      else none
    | _ => none

def scheme (s : List Char) : Except AttributeIssue (String × List String) :=
  match scheme? (trim s) with
  | none => .error (.badSecurity (.ofList (trim s)))
  | some r => .ok r

def security (s : List Char) : Except AttributeIssue (List (Dict (List String))) :=
  (splitOnPair '|' s).mapM fun alternative =>
    ((splitOnPair '&' alternative).mapM scheme).map Dict.ofList

def json (s : List Char) : Except AttributeIssue Json :=
  if allBlank s then .error .noJson
  else
    match Json.ofText? s with
    | none => .error .badJson
    | some v => .ok v

def method (s : List Char) : Except Failure Method :=
  match Method.ofName? (.ofList (asciiUppercase (trim s))) with
  | some m => .ok m
  | none => .error (.method (.ofList (trim s)))

def route (line : String) (s : List Char) : Except Failure Route :=
  match routeWords? (trim s) with
  | none => .error (.comment none line .badRoute)
  | some (path, word) => (method word).map fun m => ⟨m, .ofList path⟩

/-- What an attribute says, by its name in lower case; `line` is the whole line and `name` the name
as it is written, without its at sign. -/
def change (markdown : Option MarkdownDirectory) (line lower name : String)
    (text : List Char) : Except Failure Change :=
  let checked {α : Type} (make : α → Change) (r : Except AttributeIssue α) :
      Except Failure Change :=
    match r with
    | .error issue => .error (.comment none line issue)
    | .ok a => .ok (make a)
  let plain := String.ofList text
  match lower with
  | "description" => .ok (.describe plain)
  | "description.markdown" =>
    checked .describe ((MarkdownDirectory.textFor markdown plain).mapError .markdown)
  | "summary" => .ok (.summarize plain)
  | "id" => .ok (.identify plain)
  | "tags" => .ok (.tag ((commaList text).map String.ofList))
  | "accept" => checked .accept (mimeTypes text)
  | "produce" => checked .produce (mimeTypes text)
  | "param" => checked .param (param text)
  | "success" | "failure" | "response" => checked id (response text)
  | "header" => checked id (header text)
  | "router" => (route line text).map .route
  | "security" => checked .secure (security text)
  | "deprecated" => .ok .deprecate
  | "x-codesamples" => checked .codeSamples (json text)
  | _ =>
    if "x-".toList.isPrefixOf lower.toList then checked (.extend lower) (json text)
    else .ok (.note name plain)

def ofLine (markdown : Option MarkdownDirectory) (comment : String) :
    Except Failure (Option Change) :=
  match trim (comment.toList.dropWhile (· == '/')) with
  | '@' :: r =>
    let line := '@' :: r
    let words := fields 2 line
    let name := ((words[0]?).getD []).drop 1
    (change markdown (.ofList line) (.ofList (lowercase name)) (.ofList name)
      ((words[1]?).getD [])).map some
  | _ => .ok none

end Attribute

def Operation.readLine (markdown : Option MarkdownDirectory) (op : Operation)
    (comment : String) : Except Failure (Bool × Operation) :=
  match Attribute.ofLine markdown comment with
  | .error failure => .error failure
  | .ok none => .ok (false, op)
  | .ok (some change) => .ok (change.recognized, op.apply change)

end Routewright
