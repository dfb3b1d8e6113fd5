import Routewright.Files.Tree
import Routewright.Text.Utf8

namespace Routewright

open Text

/-- A directory of markdown files: its path, and its entries by name, where a directory has no
content. -/
structure MarkdownDirectory where
  path : String
  entries : Except OsError (Dict (Option ByteArray))

namespace MarkdownDirectory

def contentOf : FileTree → Option ByteArray
  | .file content _ => some content
  | .directory _ => none

def ofTree (tree : FileTree) (path : String) : MarkdownDirectory where
  path := path
  entries := (tree.entries path).map (Dict.mapValues contentOf)

def answers (tag name : String) : Bool :=
  contains ".md".toList name.toList && contains tag.toList name.toList

def fileFor? (tag : String) (entries : Dict (Option ByteArray)) : Option (String × ByteArray) :=
  entries.entries.findSome? fun e =>
    match e.2 with
    | some content => if answers tag e.1 then some (e.1, content) else none
    | none => none

def textFor (directory : Option MarkdownDirectory) (tag : String) :
    Except MarkdownIssue String :=
  match directory with
  | none => .error .noDirectory
  | some d =>
    match d.entries with
    | .error cause => .error (.unreadableDirectory d.path cause)
    | .ok entries =>
      match fileFor? tag entries with
      | none => .error (.noFile tag d.path)
      | some (name, content) =>
        match Utf8.decode? content with
        | none => .error (.unreadableFile (Path.join d.path name) .notUtf8)
        | some text => .ok text

end MarkdownDirectory

end Routewright
