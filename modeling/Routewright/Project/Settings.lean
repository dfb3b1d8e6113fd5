import Routewright.Files.Tree
import Routewright.Text.Utf8
import Routewright.Toml.Document

namespace Routewright

open Toml (Document Table Value)

structure Settings where
  compiler : Option String := none
  output : Option String := none
  markdownDirectory : Option String := none
  frameworks : Option (List String) := none
deriving DecidableEq, Repr

namespace Settings

def fileName : String := "matte.toml"

def text? : Value → Option String
  | .text s => some s
  | _ => none

def texts? : Value → Option (List String)
  | .list items => items.mapM text?
  | _ => none

def buildEntry? (s : Settings) : String × Value → Option Settings
  | (key, value) =>
    match key with
    | "go" => (text? value).map fun t => { s with compiler := some t }
    | "output" => (text? value).map fun t => { s with output := some t }
    | "markdown_dir" => (text? value).map fun t => { s with markdownDirectory := some t }
    | _ => none

def build? (s : Settings) : Value → Option Settings
  | .table entries => entries.foldlM buildEntry? s
  | .list (compiler :: output :: markdown :: _) => do
    return { s with
      compiler := some (← text? compiler)
      output := some (← text? output)
      markdownDirectory := some (← text? markdown) }
  | _ => none

def frameworks? (s : Settings) : Value → Option Settings
  | .table [] => some s
  | .table [("enabled", value)] =>
    (texts? value).map fun names => { s with frameworks := some names }
  | .list (value :: _) => (texts? value).map fun names => { s with frameworks := some names }
  | _ => none

def table? (s : Settings) : String × Table → Option Settings
  | (name, table) =>
    match name with
    | "build" => s.build? table.content
    | "frameworks" => s.frameworks? table.content
    | _ => none

def ofDocument? (d : Document) : Option Settings :=
  d.entries.foldlM table? {}

def load (tree : FileTree) (root : String) : Except Failure (Option Settings) :=
  let path := Path.join root fileName
  if !tree.pathExists path then .ok none
  else
    match tree.read path with
    | .error cause => .error (.io .read path cause)
    | .ok bytes =>
      match Text.Utf8.decode? bytes with
      | none => .error (.io .read path .notUtf8)
      | some text =>
        match (Document.ofText? text.toList).bind ofDocument? with
        | none => .error (.configuration (.badSettings path))
        | some settings => .ok (some settings)

end Settings

end Routewright
