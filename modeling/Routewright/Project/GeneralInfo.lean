import Routewright.Failure
import Routewright.Project.Package
import Routewright.Server.Mux
import Routewright.Text.Letters

namespace Routewright

open Go Text

namespace GeneralInfo

def isFieldName (key : String) : Bool :=
  match key.toList with
  | [] => false
  | c :: rest => (isAlphabetic c || c == '_') && rest.all fun d => isAlphanumeric d || d == '_'

def field (type : String) : Option String × Expr → Except ResultIssue (String × String)
  | (key, value) =>
    match key.filter isFieldName with
    | none => .error (.unkeyedElement type)
    | some key =>
      match value with
      | .literal text => .ok (key, text)
      | _ => .error (.notLiteral type key)

def typeName : TypeExpr → Except ResultIssue (Option String × String)
  | .ident name => .ok (none, name)
  | .qualified package name => .ok (some package, name)
  | type => .error (.unsupportedType type.text)

def value : Expr → Except ResultIssue ConfigValue
  | .composite type elements => do
    let (package, name) ← typeName type
    return ⟨package, name, ← elements.mapM (field name)⟩
  | _ => .error .notComposite

def values (file : SourceFile) (f : FuncDecl) (index : Nat) :
    List Expr → Except Failure (List ConfigValue)
  | [] => .ok []
  | e :: rest =>
    match value e with
    | .error issue =>
      .error (.configuration (.badResult file.path f.line index infoFunction issue))
    | .ok v => (values file f (index + 1) rest).map (v :: ·)

def declarations (p : Package) : List (SourceFile × FuncDecl) :=
  p.functions.filter fun d => !d.2.hasReceiver && d.2.name == infoFunction

end GeneralInfo

open GeneralInfo in
def Project.configValues (p : Project) : Except Failure (List ConfigValue) :=
  match p.packages with
  | [] => .error (.configuration (.noRootPackage p.root))
  | package :: _ =>
    match declarations package with
    | [] => .error (.configuration (.noInfoFunction p.root infoFunction))
    | [(file, f)] =>
      match f.returns with
      | [] => .ok []
      | results :: _ => values file f 0 results
    | many => .error (.configuration (.repeatedInfoFunction p.root infoFunction many.length))

end Routewright
