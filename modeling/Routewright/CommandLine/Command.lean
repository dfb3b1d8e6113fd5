import Routewright.Text.Split

/-!
The commands of the command line and how their arguments are read.

Arguments are read from left to right, and the first one that cannot be read decides. The value of
an option is judged only when the next option is read or the arguments end.
-/

namespace Routewright.CommandLine

open Text

inductive Command
  | build (directory : String) (onlyWrite verbose : Bool)
  | configure (directory : String)
deriving DecidableEq, Repr

inductive Refusal
  | unknownArgument
  | invalidValue
  | invalidSubcommand
  | argumentConflict
  | tooManyValues
  | help
  | version
  | missingSubcommand
deriving DecidableEq, Repr

inductive Flag
  | directory
  | onlyWrite
  | verbose
  | help
  | version
deriving DecidableEq, Repr

namespace Flag

def long : Flag → String
  | directory => "dir"
  | onlyWrite => "no-build"
  | verbose => "verbose"
  | help => "help"
  | version => "version"

def short : Flag → Char
  | directory => 'd'
  | onlyWrite => 'n'
  | verbose => 'v'
  | help => 'h'
  | version => 'V'

end Flag

structure Given where
  directory : Option String := none
  flags : List Flag := []
  pending : Option (Option String) := none
deriving DecidableEq, Repr

namespace Given

def setDirectory (g : Given) (value : String) : Except Refusal Given :=
  if g.directory.isSome then .error .argumentConflict
  else if value.isEmpty then .error .invalidValue
  else .ok { g with directory := some value }

def settle (g : Given) : Except Refusal Given :=
  match g.pending with
  | none => .ok g
  | some none => .error .invalidValue
  | some (some value) => { g with pending := none }.setDirectory value

def raise (g : Given) (f : Flag) : Except Refusal Given := do
  let g ← g.settle
  match f with
  | .help => throw .help
  | .version => throw .version
  | _ =>
    if g.flags.contains f then throw .argumentConflict
    return { g with flags := f :: g.flags }

def takeDirectory (g : Given) (value : Option String) : Except Refusal Given := do
  let g ← g.settle
  match value with
  | some v => g.setDirectory v
  | none => return { g with pending := some none }

def long (flags : List Flag) (g : Given) (text : List Char) : Except Refusal Given :=
  let name := text.takeWhile (· ≠ '=')
  let value := match text.dropWhile (· ≠ '=') with
    | [] => none
    | _ :: v => some (String.ofList v)
  match flags.find? (·.long.toList == name), value with
  | none, _ => .error .unknownArgument
  | some .directory, _ => g.takeDirectory value
  | some _, some _ => .error .tooManyValues
  | some f, none => g.raise f

def attached : List Char → Option String
  | [] => none
  | '=' :: v => some (.ofList v)
  | v => some (.ofList v)

def short (flags : List Flag) (g : Given) : List Char → Except Refusal Given
  | [] => .ok g
  | c :: rest =>
    match flags.find? (·.short == c) with
    | none => .error .unknownArgument
    | some .directory => g.takeDirectory (attached rest)
    | some f =>
      match g.raise f with
      | .error refusal => .error refusal
      | .ok g => short flags g rest

def plain (g : Given) (arg : String) : Except Refusal Given :=
  match g.pending with
  | some none => .ok { g with pending := some (some arg) }
  | _ => .error .unknownArgument

def read (flags : List Flag) (g : Given) : List String → Except Refusal Given
  | [] => g.settle
  | arg :: rest =>
    match arg.toList with
    | ['-', '-'] => if rest.isEmpty then g.settle else .error .unknownArgument
    | '-' :: '-' :: text => next rest (g.long flags text)
    | '-' :: c :: text => next rest (g.short flags (c :: text))
    | _ => next rest (g.plain arg)
where
  next (rest : List String) : Except Refusal Given → Except Refusal Given
    | .error refusal => .error refusal
    | .ok g => read flags g rest

def hasFlag (g : Given) (f : Flag) : Bool :=
  g.flags.contains f

def root (g : Given) : String :=
  g.directory.getD "."

end Given

namespace Command

def names : List String := ["build", "configure", "help"]

def buildFlags : List Flag := [.directory, .onlyWrite, .verbose, .help]

def configureFlags : List Flag := [.directory, .help]

def topFlags : List Flag := [.help, .version]

def help : List String → Refusal
  | [] => .help
  | [name] => if names.contains name then .help else .invalidSubcommand
  | _ => .invalidSubcommand

def refusal (args : List String) : Refusal :=
  match args with
  | [] => .missingSubcommand
  | arg :: rest =>
    match arg.toList with
    | ['-', '-'] =>
      match rest with
      | [] => .missingSubcommand
      | name :: _ => if names.contains name then .unknownArgument else .invalidSubcommand
    | '-' :: '-' :: text => ofOptions (Given.long topFlags {} text)
    | '-' :: c :: text => ofOptions (Given.short topFlags {} (c :: text))
    | _ => .invalidSubcommand
where
  ofOptions : Except Refusal Given → Refusal
    | .error refusal => refusal
    | .ok _ => .missingSubcommand

def ofArgs (args : List String) : Except Refusal Command :=
  match args with
  | "build" :: rest =>
    (Given.read buildFlags {} rest).map fun g =>
      .build g.root (g.hasFlag .onlyWrite) (g.hasFlag .verbose)
  | "configure" :: rest => (Given.read configureFlags {} rest).map fun g => .configure g.root
  | "help" :: rest => .error (help rest)
  | _ => .error (refusal args)

end Command

end Routewright.CommandLine
