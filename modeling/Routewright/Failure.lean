import Routewright.Go.Manifest
import Routewright.Route

/-!
Everything that can go wrong, as causes, and the wording of each cause.

A cause names what it is about; `Failure.message` is the only place that turns causes into text.
-/

namespace Routewright

inductive OsError
  | notFound
  | permissionDenied
  | fileExists
  | notDirectory
  | isDirectory
  | notUtf8
  | notSupported
deriving DecidableEq, Repr

def OsError.message : OsError → String
  | notFound => "No such file or directory (os error 2)"
  | permissionDenied => "Permission denied (os error 13)"
  | fileExists => "File exists (os error 17)"
  | notDirectory => "Not a directory (os error 20)"
  | isDirectory => "Is a directory (os error 21)"
  | notUtf8 => "stream did not contain valid UTF-8"
  | notSupported => "Operation not supported (os error 95)"

inductive FileAction
  | read
  | write
  | readDirectory
  | createScratch
  | removeScratch
  | run
deriving DecidableEq, Repr

def FileAction.verb : FileAction → String
  | read => "read"
  | write => "write"
  | readDirectory => "read directory"
  | createScratch => "create scratch directory"
  | removeScratch => "remove scratch directory"
  | run => "run"

inductive ResultIssue
  | notComposite
  | unsupportedType (type : String)
  | unkeyedElement (type : String)
  | notLiteral (type key : String)
deriving DecidableEq, Repr

def ResultIssue.message : ResultIssue → String
  | notComposite => "must be a composite literal"
  | unsupportedType type => s!"has unsupported type {type}"
  | unkeyedElement type => s!"{type} elements must be keyed by field name"
  | notLiteral type key => s!"{type}.{key} must be a literal value"

inductive ConfigurationIssue
  | manifestMissing (root : String)
  | manifestUnreadable (manifest : String) (cause : OsError)
  | noModulePath (manifest : String)
  | oldVersion (manifest : String) (declared needed : Go.Manifest.Version)
  | noVersion (manifest : String) (needed : Go.Manifest.Version)
  | badSettings (path : String)
  | unknownFramework (name : String) (known : List String)
  | repeatedBootstrap (name : String)
  | alreadyConfigured (framework : String)
  | noRootPackage (root : String)
  | noInfoFunction (root function : String)
  | repeatedInfoFunction (root function : String) (times : Nat)
  | badResult (file : String) (line index : Nat) (function : String) (issue : ResultIssue)
  | handlerInMain (handler : String)
  | sharedImportName (other path name : String)
  | reservedImportName (path name : String)
  | notDirectory (path : String)
deriving DecidableEq, Repr

def ConfigurationIssue.message : ConfigurationIssue → String
  | manifestMissing root =>
    s!"your project dir '{root}' must contain a go.mod file, but it does not"
  | manifestUnreadable manifest cause =>
    s!"failed to read the go.mod file at {manifest}: {cause.message}"
  | noModulePath manifest => s!"{manifest} declares no module path"
  | oldVersion manifest declared needed =>
    s!"{manifest} declares go {declared.major}.{declared.minor}, but the generated routing " ++
      s!"needs go {needed.major}.{needed.minor} or newer"
  | noVersion manifest needed =>
    s!"{manifest} has no go directive, add 'go {needed.major}.{needed.minor}' or newer"
  | badSettings path => s!"failed to parse {path}"
  | unknownFramework name known =>
    s!"unknown framework '{name}', expected one of " ++ ", ".intercalate known
  | repeatedBootstrap name =>
    s!"bootstrap function {name} is generated by more than one framework"
  | alreadyConfigured framework => s!"{framework} framework is already configured"
  | noRootPackage root => s!"{root} has no root package"
  | noInfoFunction root function =>
    s!"the root package of {root} must declare a {function} function"
  | repeatedInfoFunction root function times =>
    s!"the root package of {root} declares {function} {times} times"
  | badResult file line index function issue =>
    s!"{file}:{line}: result {index} of {function} {issue.message}"
  | handlerInMain handler =>
    s!"handler {handler} is declared in package main, which the generated program cannot import"
  | sharedImportName other path name =>
    s!"packages {other} and {path} are both named {name}, the generated program cannot import both"
  | reservedImportName path name =>
    s!"package {path} is named {name}, which the generated program uses as an identifier"
  | notDirectory path => s!"{path} is not a directory"

inductive SourceIssue
  | malformed
  | noPackageClause
  | mixedPackages (first second directory : String)
deriving DecidableEq, Repr

def SourceIssue.message (file : String) : SourceIssue → String
  | malformed => file
  | noPackageClause => s!"{file}:1:1: missing package clause"
  | mixedPackages first second directory =>
    s!"{file}:1:1: found packages {first} and {second} in {directory}"

inductive PatternIssue
  | malformedSegment (segment : String)
  | endMarkerInside
  | remainderInside (inner : String)
  | notIdentifier (name : String)
  | repeatedName (name : String)
deriving DecidableEq, Repr

def PatternIssue.message : PatternIssue → String
  | malformedSegment segment => s!"has a malformed wildcard segment '{segment}'"
  | endMarkerInside => "may only use \x7b$\x7d at the end"
  | remainderInside inner => "may only use '\x7b" ++ inner ++ "\x7d' as the final segment"
  | notIdentifier name => s!"has a wildcard '{name}' that is not a Go identifier"
  | repeatedName name => s!"repeats the wildcard '{name}'"

inductive DecoratorIssue
  | textBetween (text : String)
  | textBehind (text source : String)
  | noName (source : String)
  | unknownName (name : String)
  | notCall (name : String)
  | unterminated (source : String)
  | notLiteral (argument name : String)
  | argumentCount (count : Nat)
  | relativePath (path : String)
  | badPattern (path : String) (issue : PatternIssue)
deriving DecidableEq, Repr

def DecoratorIssue.message : DecoratorIssue → String
  | textBetween text => s!"unexpected text '{text}' between decorators"
  | textBehind text source => s!"unexpected trailing text '{text}' in '{source}'"
  | noName source => s!"expected a decorator name in '{source}'"
  | unknownName name => s!"'{name}' doesn't match any available decorator"
  | notCall name => s!"decorator '{name}' must be written as a call: {name}(...)"
  | unterminated source => s!"unterminated literal in '{source}'"
  | notLiteral argument name => s!"argument '{argument}' of decorator '{name}' is not a literal"
  | argumentCount count => s!"path decorator must have two args, found {count}"
  | relativePath path => s!"route path '{path}' must start with '/'"
  | badPattern path issue => s!"route path '{path}' {issue.message}"

inductive MarkdownIssue
  | noDirectory
  | unreadableDirectory (directory : String) (cause : OsError)
  | unreadableFile (path : String) (cause : OsError)
  | noFile (tag directory : String)
deriving DecidableEq, Repr

def MarkdownIssue.message : MarkdownIssue → String
  | noDirectory => "no markdown directory is configured"
  | unreadableDirectory directory cause =>
    s!"unable to read markdown directory {directory}: {cause.message}"
  | unreadableFile path cause => s!"failed to read markdown file {path}: {cause.message}"
  | noFile tag directory => s!"unable to find markdown file for tag {tag} in {directory}"

inductive AttributeIssue
  | markdown (issue : MarkdownIssue)
  | badMime (item : String)
  | badParam
  | unknownLocation (location : String)
  | badRequired (flag : String)
  | noStatusCode
  | badStatusCode (code : String)
  | badResponse (text : String)
  | badHeader (text : String)
  | badRoute
  | badSecurity (scheme : String)
  | noJson
  | badJson
deriving DecidableEq, Repr

def AttributeIssue.message : AttributeIssue → String
  | markdown issue => issue.message
  | badMime item => s!"{item} accept type can't be accepted"
  | badParam => "missing required param comment parameters"
  | unknownLocation location => s!"unknown param location '{location}'"
  | badRequired flag => s!"param required flag '{flag}' must be true or false"
  | noStatusCode => "missing status code"
  | badStatusCode code => s!"{code} is not a valid status code"
  | badResponse text => s!"can not parse response comment \"{text}\""
  | badHeader text => s!"can not parse header comment \"{text}\""
  | badRoute => "can not parse router comment, expected '/path [method]'"
  | badSecurity scheme => s!"invalid security scheme '{scheme}'"
  | noJson => "annotation needs a value"
  | badJson => "annotation needs a valid json value"

inductive ShapeIssue
  | paramCount (expected found : Nat)
  | wrongParam (index : Nat) (expected found : String)
  | noParam
  | unnamedParam (index : Nat)
  | unsupportedParam (index : Nat) (name type : String)
  | hiddenParam (index : Nat) (name type : String)
deriving DecidableEq, Repr

def ShapeIssue.message : ShapeIssue → String
  | paramCount expected found => s!"handler should take {expected} params, found {found}"
  | wrongParam index expected found =>
    s!"param {index} of the handler should be a {expected} but it is {found}"
  | noParam => "handler should take at least one param"
  | unnamedParam index => s!"parameter {index} has no name"
  | unsupportedParam index name type =>
    s!"parameter {index} ({name}) has type {type}, expected an identifier or pointer to one"
  | hiddenParam index name type =>
    s!"parameter {index} ({name}) has unexported type {type}, " ++
      "which the generated program cannot refer to"

inductive ValueIssue
  | wrongType (framework expected found : String)
  | notString (type field literal : String)
  | unknownField (type field : String)
deriving DecidableEq, Repr

def ValueIssue.message : ValueIssue → String
  | wrongType framework expected found =>
    s!"{framework} framework expects a {expected} value, got {found}"
  | notString type field literal =>
    s!"{type}.{field} must be a string literal, got {literal}"
  | unknownField type field => s!"{type} has no field {field}"

def refusals (reasons : List (String × ValueIssue)) : String :=
  if reasons.isEmpty then "every framework is already configured"
  else "; ".intercalate (reasons.map fun r => r.1 ++ ": " ++ r.2.message)

inductive RoutingIssue
  | noDoc
  | noRoute
deriving DecidableEq, Repr

def RoutingIssue.message : RoutingIssue → String
  | noDoc => "handlers need a doc comment with route annotations"
  | noRoute => "a 'path' decorator or '@Router' annotation is required"

structure Place where
  file : String
  line : Nat
  function : String
deriving DecidableEq, Repr

def Place.locate (place : Option Place) (message : String) : String :=
  match place with
  | none => message
  | some p => s!"{p.file}:{p.line} ({p.function}): {message}"

inductive Failure
  | configuration (issue : ConfigurationIssue)
  | source (file : String) (issue : SourceIssue)
  | decorator (place : Option Place) (issue : DecoratorIssue)
  | method (text : String)
  | comment (place : Option Place) (line : String) (issue : AttributeIssue)
  | shape (issue : ShapeIssue)
  | value (issue : ValueIssue)
  | unwantedValue (type : String) (reasons : List (String × ValueIssue))
  | duplicateRoute (path previous handler : String)
  | unroutable (handler : String) (issue : RoutingIssue)
  | io (action : FileAction) (path : String) (cause : OsError)
  | compiler (diagnostics : String)
deriving DecidableEq, Repr

namespace Failure

def message : Failure → String
  | configuration issue => "configuration error: " ++ issue.message
  | source file issue => "parse error in " ++ issue.message file
  | decorator place issue => "invalid decorator: " ++ Place.locate place issue.message
  | method text =>
    s!"invalid http method '{text}', expected one of " ++
      ", ".intercalate (Method.all.map Method.name)
  | comment place line issue =>
    s!"invalid annotation '{line}': " ++ Place.locate place issue.message
  | shape issue => "signature mismatch: " ++ issue.message
  | value issue => "configuration type mismatch: " ++ issue.message
  | unwantedValue type reasons =>
    s!"configuration type mismatch: no framework accepts a {type} value ({refusals reasons})"
  | duplicateRoute path previous handler =>
    s!"path {path} is already registered for handler {previous} " ++
      s!"so cannot register it with handler {handler} again"
  | unroutable handler issue =>
    s!"handler {handler} has no usable route annotation: {issue.message}"
  | io action path cause => s!"unable to {action.verb} {path}: {cause.message}"
  | compiler diagnostics => "build failed:\n" ++ diagnostics

def osCause? : Failure → Option OsError
  | io _ _ cause => some cause
  | _ => none

def locate (place : Place) : Failure → Failure
  | decorator _ issue => decorator (some place) issue
  | comment _ line issue => comment (some place) line issue
  | failure => failure

end Failure

end Routewright
