import Routewright.Doc.Attribute

/-!
Attributes that are read into an operation in place, write by write.

A step that fails does not undo the writes before it, so `Operation.readInPlace` gives the operation
that is left also when a line is refused.
-/

namespace Routewright

open Text

namespace Attribute

structure Parts where
  line : String
  lower : String
  name : String
  text : List Char

def parts? (comment : String) : Option Parts :=
  match trim (comment.toList.dropWhile (· == '/')) with
  | '@' :: r =>
    let words := fields 2 ('@' :: r)
    let name := ((words[0]?).getD []).drop 1
    some ⟨.ofList ('@' :: r), .ofList (lowercase name), .ofList name, (words[1]?).getD []⟩
  | _ => none

end Attribute

open Attribute

abbrev Update := ExceptT Failure (StateM Operation)

namespace Update

def runOn {α : Type} (op : Operation) (steps : Update α) : Except Failure α × Operation :=
  steps.run.run op

def require {α : Type} (line : String) : Except AttributeIssue α → Update α
  | .error issue => throw (.comment none line issue)
  | .ok a => pure a

def describe (text : String) : Update Unit := do
  if (← get).description = "" then modify fun op => { op with description := text }
  else
    modify fun op => { op with description := op.description ++ "\n" }
    modify fun op => { op with description := op.description ++ text }

def respond (code : String) (write : Response → Response) : Update Unit :=
  modify fun op => { op with responses := op.responses.modify code {} write }

def declare (codes : List String) (kind dataType : Option String) (description : String) :
    Update Unit :=
  codes.forM fun code => do
    respond code id
    respond code fun r => { r with kind := kind }
    respond code fun r => { r with dataType := dataType }
    respond code fun r => { r with description := description }

def response (line : String) (text : List Char) : Update Unit := do
  let words := fields 2 text
  let rest := (words[1]?).getD []
  let codes ← require line (statusCodes ((words[0]?).getD []))
  if rest.head? = some '\x7b' then
    match typed? rest with
    | none => throw (.comment none line (.badResponse (.ofList text)))
    | some t => declare codes (some t.kind) (some t.word) (descriptionText t.description)
  else declare codes none none (descriptionText (some rest))

def header (line : String) (text : List Char) : Update Unit :=
  match (spanField? text).bind fun f => (typed? f.2).map fun t => (f.1, t) with
  | none => throw (.comment none line (.badHeader (.ofList text)))
  | some (codes, t) => do
    let write (code : String) : Update Unit :=
      respond code (.withHeader t.word ⟨t.kind, descriptionText t.description⟩)
    if asciiLowercase codes = "all".toList then (← get).responses.keys.forM write
    else (← require line (statusCodes codes)).forM write

def recognized (steps : Update Unit) : Update Bool := do
  steps
  return true

def ofParts (markdown : Option MarkdownDirectory) (p : Parts) : Update Bool :=
  let plain := String.ofList p.text
  match p.lower with
  | "description" => recognized (describe plain)
  | "description.markdown" => recognized do
    describe (← require p.line ((MarkdownDirectory.textFor markdown plain).mapError .markdown))
  | "summary" => recognized (modify fun op => { op with summary := some plain })
  | "id" => recognized (modify fun op => { op with id := some plain })
  | "tags" => recognized <| (commaList p.text).forM fun tag =>
    modify fun op => { op with tags := op.tags ++ [.ofList tag] }
  | "accept" => recognized do
    (← require p.line (mimeTypes p.text)).forM fun mime =>
      modify fun op => { op with accept := op.accept ++ [mime] }
  | "produce" => recognized do
    (← require p.line (mimeTypes p.text)).forM fun mime =>
      modify fun op => { op with produce := op.produce ++ [mime] }
  | "param" => recognized do
    let param ← require p.line (param p.text)
    modify fun op => { op with params := op.params ++ [param] }
  | "success" | "failure" | "response" => recognized (response p.line p.text)
  | "header" => recognized (header p.line p.text)
  | "router" => recognized do
    let route ← route p.line p.text
    modify fun op => { op with routes := op.routes ++ [route] }
  | "security" => recognized do
    (← require p.line (security p.text)).forM fun alternative =>
      modify fun op => { op with security := op.security ++ [alternative] }
  | "deprecated" => recognized (modify fun op => { op with deprecated := true })
  | "x-codesamples" => recognized do
    let value ← require p.line (json p.text)
    modify fun op => { op with codeSamples := some value }
  | lower =>
    if "x-".toList.isPrefixOf lower.toList then recognized do
      let value ← require p.line (json p.text)
      modify fun op => { op with extensions := op.extensions.insert lower value }
    else do
      modify fun op => { op with metadata := op.metadata.insert p.name plain }
      return false

def ofComment (markdown : Option MarkdownDirectory) (comment : String) : Update Bool :=
  match parts? comment with
  | none => return false
  | some p => ofParts markdown p

end Update

def Operation.readInPlace (markdown : Option MarkdownDirectory) (op : Operation)
    (comment : String) : Except Failure Bool × Operation :=
  (Update.ofComment markdown comment).runOn op

end Routewright
