import Routewright.Doc.Attribute
import Routewright.Proofs.Text.Pieces

namespace Routewright

open Text

namespace Attribute

def line (name text : String) : String :=
  if text = "" then "@" ++ name else "@" ++ name ++ " " ++ text

def quoted (text : String) : String :=
  "\"" ++ text ++ "\""

def typedText (kind word description : String) : String :=
  "\x7b" ++ kind ++ "\x7d " ++ word ++ " " ++ quoted description

def listLines (name : String) (items : List String) : List String :=
  if items = [] then [] else [line name (", ".intercalate items)]

def flagText (flag : Bool) : String :=
  if flag then "true" else "false"

def paramText (p : OperationParam) : String :=
  p.name ++ " " ++ p.location.name ++ " " ++ p.dataType ++ " " ++ flagText p.required ++ " " ++
    quoted p.description

def responseText (r : Response) : String :=
  match r.kind, r.dataType with
  | some kind, some dataType => typedText kind dataType r.description
  | _, _ => quoted r.description

def headerText (h : String × ResponseHeader) : String :=
  typedText h.2.kind h.1 h.2.description

def routeText (r : Route) : String :=
  r.path ++ " [" ++ r.method.name ++ "]"

def schemeText (s : String × List String) : String :=
  if s.2 = [] then s.1 else s.1 ++ "[" ++ ",".intercalate s.2 ++ "]"

def alternativeText (d : Dict (List String)) : String :=
  " && ".intercalate (d.entries.map schemeText)

def securityText (alternatives : List (Dict (List String))) : String :=
  " || ".intercalate (alternatives.map alternativeText)

def responseLines (e : String × Response) : List String :=
  line "Response" (e.1 ++ " " ++ responseText e.2) ::
    e.2.headers.entries.map fun h => line "Header" (e.1 ++ " " ++ headerText h)

end Attribute

namespace Operation

open Attribute

def descriptionLines (op : Operation) : List String :=
  if op.description = "" then []
  else (splitOnChar '\n' op.description.toList).map String.ofList

def headLines (op : Operation) : List String :=
  op.summary.toList.map (line "Summary") ++
  op.id.toList.map (line "ID") ++
  op.descriptionLines.map (line "Description")

def mediaLines (op : Operation) : List String :=
  listLines "Tags" op.tags ++
  listLines "Accept" op.accept ++
  listLines "Produce" op.produce

def valueLines (op : Operation) : List String :=
  op.params.map (fun p => line "Param" (paramText p)) ++
  op.responses.entries.flatMap responseLines

def accessLines (op : Operation) : List String :=
  op.routes.map (fun r => line "Router" (routeText r)) ++
  (if op.security = [] then [] else [line "Security" (securityText op.security)]) ++
  (if op.deprecated then [line "Deprecated" ""] else [])

def lines (op : Operation) : List String :=
  op.headLines ++ op.mediaLines ++ op.valueLines ++ op.accessLines ++
    op.metadata.entries.map fun e => line e.1 e.2

def readLines (markdown : Option MarkdownDirectory) (op : Operation) (lines : List String) :
    Except Failure Operation :=
  lines.foldlM (fun op line => (op.readLine markdown line).map Prod.snd) op

end Operation

namespace Attribute

def knownNames : List String :=
  ["description", "description.markdown", "summary", "id", "tags", "accept", "produce", "param",
    "success", "failure", "response", "header", "router", "security", "deprecated", "x-codesamples"]

@[mk_iff]
structure IsDescription (s : List Char) : Prop where
  one_line : '\n' ∉ s
  head_ne : s.head? ≠ some '\x22'
  last_ne : s.getLast? ≠ some '\x22'

instance (s : List Char) : Decidable (IsDescription s) :=
  decidable_of_iff' _ (isDescription_iff s)

@[mk_iff]
structure IsHeader (h : String × ResponseHeader) : Prop where
  name : IsField h.1.toList
  kind : isName h.2.kind.toList = true
  description : IsDescription h.2.description.toList

instance (h : String × ResponseHeader) : Decidable (IsHeader h) :=
  decidable_of_iff' _ (isHeader_iff h)

def isSchemeChar (c : Char) : Bool :=
  isWord c || c == '.' || c == '-'

@[mk_iff]
structure IsScope (s : List Char) : Prop extends IsItem s where
  no_bracket : ']' ∉ s
  no_bars : contains "||".toList s = false
  no_ampersands : contains "&&".toList s = false

instance (s : List Char) : Decidable (IsScope s) :=
  decidable_of_iff' _ (isScope_iff s)

@[mk_iff]
structure IsScheme (s : String × List String) : Prop where
  name_ne : s.1 ≠ ""
  name : ∀ c ∈ s.1.toList, isSchemeChar c = true
  scopes : ∀ scope ∈ s.2, IsScope scope.toList

instance (s : String × List String) : Decidable (IsScheme s) :=
  decidable_of_iff' _ (isScheme_iff s)

@[mk_iff]
structure IsAlternative (d : Dict (List String)) : Prop where
  ne_nil : d.entries ≠ []
  schemes : ∀ s ∈ d.entries, IsScheme s

instance (d : Dict (List String)) : Decidable (IsAlternative d) :=
  decidable_of_iff' _ (isAlternative_iff d)

@[mk_iff]
structure IsNote (e : String × String) : Prop where
  name : ∀ c ∈ e.1.toList, isBlank c = false
  unknown : String.ofList (lowercase e.1.toList) ∉ knownNames
  no_extension : "x-".toList.isPrefixOf (lowercase e.1.toList) = false
  text : trimmed e.2 = e.2

instance (e : String × String) : Decidable (IsNote e) :=
  decidable_of_iff' _ (isNote_iff e)

end Attribute

@[mk_iff]
structure OperationParam.Printable (p : OperationParam) : Prop where
  name : IsField p.name.toList
  dataType : IsField p.dataType.toList
  description : '\x22' ∉ p.description.toList

instance (p : OperationParam) : Decidable p.Printable :=
  decidable_of_iff' _ (OperationParam.printable_iff p)

open Attribute in
structure Response.Printable (r : Response) : Prop where
  typed : (r.kind = none ∧ r.dataType = none) ∨
    ∃ kind dataType, r.kind = some kind ∧ r.dataType = some dataType ∧
      isName kind.toList = true ∧ IsField dataType.toList
  description : IsDescription r.description.toList
  headers : ∀ h ∈ r.headers.entries, IsHeader h

@[mk_iff]
structure Route.Printable (r : Route) : Prop where
  head_eq : r.path.toList.head? = some '/'
  path : ∀ c ∈ r.path.toList, Attribute.isPathChar c = true

instance (r : Route) : Decidable r.Printable :=
  decidable_of_iff' _ (Route.printable_iff r)

open Attribute in
structure Operation.Printable (op : Operation) : Prop where
  summary : ∀ text ∈ op.summary, trimmed text = text
  id : ∀ text ∈ op.id, trimmed text = text
  description : ∀ text ∈ op.descriptionLines, trimmed text = text
  description_head : op.descriptionLines.head? ≠ some ""
  tags : ∀ tag ∈ op.tags, IsItem tag.toList
  accept : ∀ mime ∈ op.accept, IsItem mime.toList ∧ isMime mime.toList = true
  produce : ∀ mime ∈ op.produce, IsItem mime.toList ∧ isMime mime.toList = true
  params : ∀ p ∈ op.params, p.Printable
  codes : ∀ e ∈ op.responses.entries, isStatusCode e.1.toList = true
  responses : ∀ e ∈ op.responses.entries, e.2.Printable
  routes : ∀ r ∈ op.routes, r.Printable
  security : ∀ d ∈ op.security, IsAlternative d
  metadata : ∀ e ∈ op.metadata.entries, IsNote e
  codeSamples : op.codeSamples = none
  extensions : op.extensions = ∅

end Routewright
