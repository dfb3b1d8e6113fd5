import Routewright.Proofs.Go.Selectors
import Routewright.Proofs.Server.EmittedCode
import Routewright.Proofs.Server.RouteTable

namespace Routewright

open Go Text

variable {p : Param} {h : Handler} {package : String}

namespace Param

def lookupSelector (p : Param) : Selector :=
  match p.source with
  | .auto => ⟨"r", "PathValue"⟩
  | .path => ⟨"r", "PathValue"⟩
  | .query => ⟨"r", "URL"⟩
  | .header => ⟨"r", "Header"⟩

def typeSelectors (p : Param) (package : String) : List Selector :=
  match p.valueType with
  | .ident type => if isPredeclared type then [] else [⟨package, type⟩]
  | _ => []

def decodeSelectors (p : Param) : List Selector :=
  if p.isString then [] else [⟨"json", "Unmarshal"⟩]

end Param

namespace Verifier

open Selector

def linesSelectors (lines : List String) : List Selector :=
  lines.flatMap fun line => onLine line.toList

section Lines

variable {name raw pointer : String} {found : List Selector} {value : String}

lemma onLine_assignment {sign : String} (hsign : sign ∈ [" := ", " = ", " += "])
    (hname : isIdentifier name.toList = true) (hvalue : AreIn found (value.toList ++ ['\n'])) :
    onLine (name ++ sign ++ value).toList = found := by
  have hsigns : ∀ sign ∈ [" := ", " = ", " += "], areInAscii [] sign.toList = true ∧
      (sign.toList.head?.any fun c => [' ', '(', ')', ',', '\n'].contains c) = true := by
    decide
  obtain ⟨hnone, hhead⟩ := hsigns sign hsign
  refine onLine_of_areIn ?_
  rw [String.toList_append, String.toList_append, List.append_assoc, List.append_assoc]
  exact .word hname (endsWord_append hhead _) ((areIn_of_ascii hnone).append hvalue)

lemma areIn_call {function : String} (hfunction : AreIn found function.toList) (key : String) :
    AreIn found ((function ++ quote key ++ ")").toList ++ ['\n']) := by
  have hcall := hfunction.append ((areIn_quoteChars key.toList).append areIn_closing)
  rw [String.toList_append, String.toList_append, toList_quote, List.append_assoc,
    List.append_assoc]
  rwa [List.nil_append, List.append_nil] at hcall

lemma onLine_condition {sign : String} (hsign : sign ∈ [" == \"\" \x7b", " != \"\" \x7b"])
    (hname : isIdentifier name.toList = true) : onLine ("if " ++ name ++ sign).toList = [] := by
  have hsigns : ∀ sign ∈ [" == \"\" \x7b", " != \"\" \x7b"],
      areInAscii [] (sign.toList ++ ['\n']) = true ∧
        (sign.toList.head?.any fun c => [' ', '(', ')', ',', '\n'].contains c) = true := by
    decide
  have hif : AreIn [] "if ".toList :=
    areIn_of_ascii (by decide)
  obtain ⟨hnone, hhead⟩ := hsigns sign hsign
  refine onLine_of_areIn ?_
  rw [String.toList_append, String.toList_append, List.append_assoc, List.append_assoc]
  exact hif.append (.word hname (endsWord_append hhead _) (areIn_of_ascii hnone))

lemma onLine_decode (hraw : isIdentifier raw.toList = true)
    (hpointer : isIdentifier pointer.toList = true) :
    onLine ("if err := json.Unmarshal([]byte(" ++ raw ++ "), " ++ pointer ++
      "); err != nil \x7b").toList = [⟨"json", "Unmarshal"⟩] := by
  have hopening : AreIn [⟨"json", "Unmarshal"⟩] "if err := json.Unmarshal([]byte(".toList :=
    areIn_of_ascii (by decide)
  have hcomma : AreIn [] "), ".toList :=
    areIn_of_ascii (by decide)
  have hclose : AreIn [] ("); err != nil \x7b".toList ++ ['\n']) :=
    areIn_of_ascii (by decide)
  refine onLine_of_areIn ?_
  simp only [String.toList_append, List.append_assoc]
  exact hopening.append (.word hraw (endsWord_append (by decide) _) (hcomma.append
    (.word hpointer (endsWord_append (by decide) _) hclose)))

lemma onLine_allocate {type : String} (hname : isIdentifier name.toList = true)
    (htype : AreIn found (type.toList ++ (")".toList ++ ['\n']))) :
    onLine (name ++ " := new(" ++ type ++ ")").toList = found := by
  have hnew : AreIn [] " := new(".toList :=
    areIn_of_ascii (by decide)
  refine onLine_of_areIn ?_
  simp only [String.toList_append, List.append_assoc]
  exact .word hname (endsWord_append (by decide) _) (hnew.append htype)

lemma onLine_store (hpointer : isIdentifier pointer.toList = true)
    (hname : isIdentifier name.toList = true) :
    onLine ("*" ++ pointer ++ " = " ++ name).toList = [] := by
  have hstar : AreIn [] "*".toList :=
    areIn_of_ascii (by decide)
  have hsign : AreIn [] " = ".toList :=
    areIn_of_ascii (by decide)
  refine onLine_of_areIn ?_
  simp only [String.toList_append, List.append_assoc]
  exact hstar.append (.word hpointer (endsWord_append (by decide) _) (hsign.append
    (.word hname endsWord_line areIn_lineEnd)))

lemma onLine_refuse (hname : isIdentifier name.toList = true) :
    onLine ("http.Error(w, " ++ name ++ ", http.StatusTeapot)").toList =
      [⟨"http", "Error"⟩, ⟨"http", "StatusTeapot"⟩] := by
  have hopening : AreIn [⟨"http", "Error"⟩] "http.Error(w, ".toList :=
    areIn_of_ascii (by decide)
  have hclose : AreIn [⟨"http", "StatusTeapot"⟩] (", http.StatusTeapot)".toList ++ ['\n']) :=
    areIn_of_ascii (by decide)
  refine onLine_of_areIn ?_
  simp only [String.toList_append, List.append_assoc]
  exact hopening.append (.word hname (endsWord_append (by decide) _) hclose)

lemma areIn_argument {a : Argument} {rest : List Char} (ha : isIdentifier a.name.toList = true)
    (hend : EndsWord rest) (hrest : AreIn [] rest) : AreIn [] (a.source.toList ++ rest) := by
  have hstar : AreIn [] "*".toList :=
    areIn_of_ascii (by decide)
  rw [Argument.source, String.toList_append, List.append_assoc]
  have hempty : AreIn [] "".toList :=
    areIn_of_ascii (by decide)
  split_ifs
  · exact hstar.append (.word ha hend hrest)
  · exact hempty.append (.word ha hend hrest)

lemma areIn_arguments {args : List Argument} (h : ∀ a ∈ args, isIdentifier a.name.toList = true) :
    AreIn [] ((", ".intercalate (args.map Argument.source)).toList ++ (")".toList ++ ['\n'])) := by
  induction args with
  | nil => exact areIn_closing
  | cons a args ih =>
    obtain ⟨ha, hargs⟩ := List.forall_mem_cons.mp h
    cases args with
    | nil => exact areIn_argument ha (endsWord_append (by decide) _) areIn_closing
    | cons b rest =>
      have htext : (", ".intercalate ((a :: b :: rest).map Argument.source)).toList =
          a.source.toList ++
            (", ".toList ++ (", ".intercalate ((b :: rest).map Argument.source)).toList) := by
        rw [List.map_cons, List.map_cons, String.intercalate_cons_cons, String.toList_append,
          String.toList_append, List.append_assoc]
      rw [htext, List.append_assoc, List.append_assoc]
      exact areIn_argument ha (endsWord_append (by decide) _) (areIn_comma.append (ih hargs))

lemma onLine_call {member : String} {args : List Argument}
    (hpackage : isIdentifier package.toList = true) (hmember : isIdentifier member.toList = true)
    (hargs : ∀ a ∈ args, isIdentifier a.name.toList = true) :
    onLine (package ++ "." ++ member ++ "(" ++ ", ".intercalate (args.map Argument.source) ++
      ")").toList = [⟨package, member⟩] := by
  have hopen : AreIn [] "(".toList :=
    areIn_of_ascii (by decide)
  refine onLine_of_areIn ?_
  rw [String.toList_append, String.toList_append, String.toList_append, List.append_assoc,
    List.append_assoc, List.append_assoc]
  exact .qualified hpackage hmember (endsWord_append (by decide) _)
    (hopen.append (areIn_arguments hargs))

end Lines

section Body

variable {depth : ℕ} {found : List Selector}

lemma linesSelectors_append (l m : List String) :
    linesSelectors (l ++ m) = linesSelectors l ++ linesSelectors m :=
  List.flatMap_append

lemma linesSelectors_cons (line : String) (lines : List String) :
    linesSelectors (indent depth line :: lines) =
      onLine line.toList ++ linesSelectors lines := by
  rw [linesSelectors, List.flatMap_cons, onLine_indent]
  rfl

lemma linesSelectors_line (line : String) :
    linesSelectors [indent depth line] = onLine line.toList := by
  rw [linesSelectors_cons]
  exact List.append_nil _

lemma linesSelectors_block (opening : String) (body : List Statement) :
    linesSelectors (indent depth opening ::
        (statementLines (depth + 1) body ++ [indent depth "\x7d"])) =
      onLine opening.toList ++ linesSelectors (statementLines (depth + 1) body) := by
  have hbrace : onLine "\x7d".toList = [] :=
    onLine_of_areIn (areIn_of_ascii (by decide))
  rw [linesSelectors_cons, linesSelectors_append, linesSelectors_line, hbrace, List.append_nil]

lemma linesSelectors_statement (s : Statement) (rest : List Statement) :
    linesSelectors (statementLines depth (s :: rest)) =
      linesSelectors (s.lines depth) ++ linesSelectors (statementLines depth rest) := by
  rw [statementLines, linesSelectors_append]

lemma areIn_lookup (p : Param) : AreIn [p.lookupSelector] (p.lookup.source.toList ++ ['\n']) := by
  rw [Param.lookupSelector, Param.lookup]
  cases p.source
  case auto => exact @areIn_call _ "r.PathValue(" (areIn_of_ascii (by decide)) p.name
  case path => exact @areIn_call _ "r.PathValue(" (areIn_of_ascii (by decide)) p.name
  case query => exact @areIn_call _ "r.URL.Query().Get(" (areIn_of_ascii (by decide)) p.name
  case header => exact @areIn_call _ "r.Header.Get(" (areIn_of_ascii (by decide)) p.name

lemma linesSelectors_fetch (hp : isIdentifier p.name.toList = true) :
    linesSelectors (statementLines depth (fetch p)) =
      p.lookupSelector :: if p.fallsBackToQuery then [⟨"r", "URL"⟩] else [] := by
  have hraw := (Param.isName_rawVar hp).1
  have hquery : AreIn [⟨"r", "URL"⟩] ((TextExpr.queryValue p.name).source.toList ++ ['\n']) :=
    @areIn_call _ "r.URL.Query().Get(" (areIn_of_ascii (by decide)) p.name
  rw [fetch, linesSelectors_statement, Statement.lines, linesSelectors_line,
    onLine_assignment (by simp) hraw (areIn_lookup p)]
  split_ifs
  · rw [linesSelectors_statement, Statement.lines, linesSelectors_block,
      onLine_condition (by simp) hraw, linesSelectors_statement, Statement.lines,
      linesSelectors_line, onLine_assignment (by simp) hraw hquery]
    rfl
  · rfl

lemma linesSelectors_demand (hp : isIdentifier p.name.toList = true) :
    linesSelectors (statementLines depth (demand p)) = [] := by
  have hraw := (Param.isName_rawVar hp).1
  have htext : AreIn [] ((TextExpr.literal ("param '" ++ p.name ++
      "' is required\\n")).source.toList ++ ['\n']) := by
    rw [demand_text]
    exact (areIn_line (isPlainText_demand hp)).append areIn_lineEnd
  rw [demand]
  split_ifs
  · rw [linesSelectors_statement, Statement.lines, linesSelectors_block,
      onLine_condition (by simp) hraw, linesSelectors_statement, Statement.lines,
      linesSelectors_line, onLine_assignment (by simp) isName_faults.1 htext]
    rfl
  · rfl

lemma linesSelectors_stop : linesSelectors (statementLines depth stop) =
    [⟨"http", "Error"⟩, ⟨"http", "StatusTeapot"⟩] := by
  have hreturn : onLine "return".toList = [] :=
    onLine_of_areIn (areIn_of_ascii (by decide))
  rw [stop, linesSelectors_statement, Statement.lines, linesSelectors_block,
    onLine_condition (by simp) isName_faults.1, linesSelectors_statement, Statement.lines,
    linesSelectors_line, onLine_refuse isName_faults.1, linesSelectors_statement, Statement.lines,
    linesSelectors_line, hreturn]
  rfl

lemma areIn_goType {type : String} (hnames : p.type.Names type)
    (htype : isIdentifier type.toList = true) (hpackage : isIdentifier package.toList = true) :
    AreIn (p.typeSelectors package) ((p.goType package).toList ++ (")".toList ++ ['\n'])) := by
  have hends : EndsWord (")".toList ++ ['\n']) := endsWord_append (by decide) _
  rw [Param.goType_of_names hnames]
  simp only [Param.typeSelectors, Param.valueType_of_names hnames]
  split_ifs
  · exact .word htype hends areIn_closing
  · exact .qualified hpackage htype hends areIn_closing

lemma areIn_complaint (hp : isIdentifier p.name.toList = true)
    (htype : isPlainText (p.goType package) = true) :
    AreIn [] ((TextExpr.append (.append (.literal "param value ") (.var p.rawVar))
      (.literal (" cannot be decoded into type " ++ p.goType package ++ "\\n"))).source.toList ++
        ['\n']) := by
  have hplus : AreIn [] " + ".toList :=
    areIn_of_ascii (by decide)
  have hlast := (areIn_line (isPlainText_decode htype)).append areIn_lineEnd
  have hsource : (TextExpr.append (.append (.literal "param value ") (.var p.rawVar))
      (.literal (" cannot be decoded into type " ++ p.goType package ++ "\\n"))).source =
        "\"" ++ "param value " ++ "\"" ++ " + " ++ p.rawVar ++ " + " ++
          ("\"" ++ (" cannot be decoded into type " ++ p.goType package ++ "\\n") ++ "\"") := rfl
  rw [hsource, String.toList_append, String.toList_append, String.toList_append,
    String.toList_append]
  simp only [List.append_assoc]
  exact (areIn_plain (by decide)).append (hplus.append (.word (Param.isName_rawVar hp).1
    (endsWord_append (by decide) _) (hplus.append hlast)))

lemma linesSelectors_decode {type : String} (hp : isIdentifier p.name.toList = true)
    (hnames : p.type.Names type) (htype : isIdentifier type.toList = true)
    (hpackage : isIdentifier package.toList = true)
    (hplain : isPlainText (p.goType package) = true) :
    linesSelectors (statementLines depth (decode p package)) =
      p.typeSelectors package ++ p.decodeSelectors := by
  have hraw := (Param.isName_rawVar hp).1
  have hvalue := (Param.isName_valueVar hp).1
  rw [decode, linesSelectors_statement, Statement.lines, linesSelectors_line,
    onLine_allocate hvalue (areIn_goType hnames htype hpackage), linesSelectors_statement,
    Statement.lines, linesSelectors_block, onLine_condition (by simp) hraw, Param.decodeSelectors]
  split_ifs
  · have hstore :
        onLine ("*" ++ p.valueVar ++ " = " ++ (TextExpr.var p.rawVar).source).toList = [] :=
      onLine_store hvalue hraw
    rw [linesSelectors_statement, Statement.lines, linesSelectors_line, hstore]
    rfl
  · rw [linesSelectors_statement, Statement.lines, linesSelectors_block, onLine_decode hraw hvalue,
      linesSelectors_statement, Statement.lines, linesSelectors_line,
      onLine_assignment (by simp) isName_faults.1 (areIn_complaint hp hplain)]
    rfl

def paramSelectors (package : String) (p : Param) : List Selector :=
  (p.lookupSelector :: if p.fallsBackToQuery then [⟨"r", "URL"⟩] else []) ++
    (p.typeSelectors package ++ p.decodeSelectors ++ [⟨"http", "Error"⟩, ⟨"http", "StatusTeapot"⟩])

lemma statementLines_flatMap (depth : ℕ) (f : Param → List Statement) (params : List Param) :
    statementLines depth (params.flatMap f) =
      params.flatMap fun p => statementLines depth (f p) := by
  induction params with
  | nil => rfl
  | cons p params ih => rw [List.flatMap_cons, statementLines_append, ih, List.flatMap_cons]

lemma linesSelectors_verify (hh : h.IsSpelled) (hp : p ∈ h.params) :
    linesSelectors (statementLines depth (verify h.package p)) = paramSelectors h.package p := by
  obtain ⟨type, hnames, htype⟩ := hh.type p hp
  have hname := hh.param p hp
  rw [verify, statementLines_append, statementLines_append, statementLines_append,
    linesSelectors_append, linesSelectors_append, linesSelectors_append,
    linesSelectors_fetch hname, linesSelectors_demand hname,
    linesSelectors_decode hname hnames htype hh.package.1 (hh.isPlainText_goType hp),
    linesSelectors_stop, List.append_nil, paramSelectors, List.append_assoc]

lemma linesSelectors_body (hh : h.IsSpelled) : linesSelectors (statementLines 2 (body h)) =
    h.params.flatMap (paramSelectors h.package) ++ [⟨h.package, h.name⟩] := by
  have hempty : AreIn [] ((TextExpr.literal "").source.toList ++ ['\n']) :=
    areIn_of_ascii (by decide)
  have hargs : ∀ a ∈ h.params.map Param.argument, isIdentifier a.name.toList = true :=
    List.forall_mem_map.mpr fun p hp => (Param.isName_valueVar (hh.param p hp)).1
  have hcall : onLine (h.callExpr ++ "(" ++ ", ".intercalate
      ((h.params.map Param.argument).map Argument.source) ++ ")").toList = [⟨h.package, h.name⟩] :=
    onLine_call hh.package.1 hh.name hargs
  have hparams : linesSelectors (h.params.flatMap fun p => statementLines 2 (verify h.package p)) =
      h.params.flatMap (paramSelectors h.package) := by
    rw [linesSelectors, List.flatMap_assoc]
    exact List.flatMap_congr fun p hp => linesSelectors_verify hh hp
  rw [body, linesSelectors_statement, Statement.lines, linesSelectors_line,
    onLine_assignment (by simp) isName_faults.1 hempty, statementLines_append,
    statementLines_flatMap, linesSelectors_append, hparams, linesSelectors_statement,
    Statement.lines, linesSelectors_line, hcall]
  rfl

end Body

end Verifier

namespace Framework

open Selector RouteTable

def behindSelectors (kind : FrameworkKind) (h : Handler) : List Selector :=
  match kind with
  | .http => [⟨h.package, h.name⟩]
  | .params => [⟨"http", "ResponseWriter"⟩, ⟨"http", "Request"⟩]

def furtherSelectors (kind : FrameworkKind) (h : Handler) : List Selector :=
  match kind with
  | .http => []
  | .params => h.params.flatMap (Verifier.paramSelectors h.package) ++ [⟨h.package, h.name⟩]

def handlerSelectors (kind : FrameworkKind) (h : Handler) : List Selector :=
  ⟨"mux", "HandleFunc"⟩ :: (behindSelectors kind h ++ furtherSelectors kind h)

def serverSelectors : List Selector :=
  [⟨"http", "Server"⟩, ⟨"server", "ListenAndServe"⟩, ⟨"errors", "Is"⟩,
    ⟨"http", "ErrServerClosed"⟩, ⟨"server", "Shutdown"⟩, ⟨"context", "Background"⟩]

variable {kind : FrameworkKind} {f : Framework}

lemma areIn_behindPattern (hh : h.IsSpelled) :
    AreIn (behindSelectors kind h) ((behindPattern kind h).toList ++ ['\n']) := by
  cases kind with
  | http =>
    rw [behindPattern, String.toList_append, String.toList_append, List.append_assoc,
      List.append_assoc]
    exact areIn_comma.append
      (.qualified hh.package.1 hh.name (endsWord_append (by decide) _) areIn_closing)
  | params =>
    have hfunction : AreIn [⟨"http", "ResponseWriter"⟩, ⟨"http", "Request"⟩]
        (", func(w http.ResponseWriter, r *http.Request) \x7b".toList ++ ['\n']) :=
      areIn_of_ascii (by decide)
    exact hfunction

lemma selectors_furtherLines (hh : h.IsSpelled) :
    ((furtherLines kind h).map String.toList).flatMap onLine = furtherSelectors kind h := by
  cases kind with
  | http => rfl
  | params =>
    have hclose : onLine "\t\x7d)".toList = [] :=
      onLine_of_areIn (areIn_of_ascii (by decide))
    have hbody : ((statementLines 2 (Verifier.body h)).map String.toList).flatMap onLine = _ :=
      (List.flatMap_map ..).trans (Verifier.linesSelectors_body hh)
    rw [furtherLines, List.map_append, List.flatMap_append, hbody, List.map_singleton,
      List.flatMap_singleton, hclose, List.append_nil]
    rfl

lemma selectors_registration (hh : h.IsSpelled) (r : Route) :
    (linesOf (registration kind r h)).flatMap onLine = handlerSelectors kind h := by
  have hmark : AreIn [⟨"mux", "HandleFunc"⟩] registrationMark :=
    areIn_of_ascii (by decide)
  have hfirst : onLine (registrationMark ++
      (quoteChars r.text.toList ++ (behindPattern kind h).toList)) =
        ⟨"mux", "HandleFunc"⟩ :: behindSelectors kind h := by
    refine onLine_of_areIn ?_
    rw [List.append_assoc, List.append_assoc]
    exact hmark.append ((areIn_quoteChars _).append (areIn_behindPattern hh))
  rw [linesOf_registration hh.isNamed, List.flatMap_cons, hfirst, selectors_furtherLines hh]
  rfl

lemma selectors_registrations {bindings : List Binding}
    (hb : ∀ b ∈ bindings, b.handler.IsSpelled) :
    (bindings.map fun b => registration kind b.route b.handler).flatMap
        (fun text => (linesOf text).flatMap onLine) =
      bindings.flatMap fun b => handlerSelectors kind b.handler := by
  rw [List.flatMap_map]
  exact List.flatMap_congr fun b hmem => selectors_registration (hb b hmem) b.route

lemma selectors_serverLines :
    (serverLines.map String.toList).flatMap onLine = serverSelectors.tail := by
  apply flatMap_of_map_toList
  · unfold serverLines
    iterate 11 apply map_toList_cons
    rfl
  · exact flatMap_onLine (by decide +kernel) (by decide +kernel)

lemma selectors_bootstrap (hf : f.Consistent) (hb : ∀ b ∈ f.mux.bindings, b.handler.IsSpelled) :
    (linesOf f.bootstrap.body).flatMap onLine = ⟨"http", "NewServeMux"⟩ ::
      ((f.mux.bindings.flatMap fun b => handlerSelectors f.kind b.handler) ++
        serverSelectors) := by
  have hopening :
      onLine ("func " ++ f.kind.bootstrap ++ "() (chan error, ShutDowner) \x7b").toList = [] := by
    cases f.kind <;> exact onLine_of_areIn (areIn_of_ascii (by decide))
  have hmux : onLine "\tmux := http.NewServeMux()".toList = [⟨"http", "NewServeMux"⟩] :=
    onLine_of_areIn (areIn_of_ascii (by decide))
  have hmark : AreIn [⟨"http", "Server"⟩] serverMark :=
    areIn_of_ascii (by decide)
  have hbehind : AreIn [] (", Handler: mux\x7d".toList ++ ['\n']) :=
    areIn_of_ascii (by decide)
  have hserver : onLine (serverMark ++ (quoteChars f.mux.listenAddr.toList ++
      ", Handler: mux\x7d".toList)) = [⟨"http", "Server"⟩] := by
    refine onLine_of_areIn ?_
    rw [List.append_assoc, List.append_assoc]
    exact hmark.append ((areIn_quoteChars _).append hbehind)
  have hempty : onLine [] = [] := rfl
  rw [linesOf_bootstrap, List.flatMap_cons, hopening, List.flatMap_cons, hmux,
    List.flatMap_append, List.flatMap_assoc, hf.registrations_eq, selectors_registrations hb,
    List.flatMap_cons, hempty, List.flatMap_cons, hserver, selectors_serverLines]
  rfl

section Members

variable {s : Selector}

lemma mem_handlerSelectors (kind : FrameworkKind) (h : Handler) :
    ⟨h.package, h.name⟩ ∈ handlerSelectors kind h := by
  refine List.mem_cons_of_mem _ (List.mem_append.mpr ?_)
  cases kind with
  | http => exact .inl (List.mem_singleton_self _)
  | params => exact .inr (List.mem_append_right _ (List.mem_singleton_self _))

lemma mem_handlerSelectors_of_param (hp : p ∈ h.params)
    (hs : s ∈ p.typeSelectors h.package ++ p.decodeSelectors) :
    s ∈ handlerSelectors .params h := by
  refine List.mem_cons_of_mem _ (List.mem_append_right _ (List.mem_append_left _ ?_))
  exact List.mem_flatMap_of_mem hp (List.mem_append_right _ (List.mem_append_left _ hs))

lemma operand_of_mem_params (hs : s ∈ Verifier.paramSelectors package p) :
    s.operand = "r" ∨ s.operand = "http" ∨ s.operand = package ∨
      (s.operand = "json" ∧ p.isString = false) := by
  have hlookup : p.lookupSelector.operand = "r" := by
    rw [Param.lookupSelector]
    cases p.source <;> rfl
  rcases List.mem_append.mp hs with hs | hs
  · rcases List.mem_cons.mp hs with rfl | hs
    · exact .inl hlookup
    · split_ifs at hs
      · obtain rfl := List.mem_singleton.mp hs
        exact .inl rfl
      · cases hs
  · rcases List.mem_append.mp hs with hs | hs
    · rcases List.mem_append.mp hs with hs | hs
      · rw [Param.typeSelectors] at hs
        split at hs
        · split_ifs at hs
          · cases hs
          · obtain rfl := List.mem_singleton.mp hs
            exact .inr (.inr (.inl rfl))
        · cases hs
      · rw [Param.decodeSelectors] at hs
        split_ifs at hs with hstring
        · cases hs
        · obtain rfl := List.mem_singleton.mp hs
          exact .inr (.inr (.inr ⟨rfl, by simpa using hstring⟩))
    · have hstop : ∀ s ∈ ([⟨"http", "Error"⟩, ⟨"http", "StatusTeapot"⟩] : List Selector),
          s.operand = "http" := by
        decide
      exact .inr (.inl (hstop s hs))

lemma operand_of_mem_handler (hs : s ∈ handlerSelectors kind h) :
    s.operand ∈ ["mux", "r", "http"] ∨ s.operand = h.package ∨
      (s.operand = "json" ∧ kind = .params ∧ h.needsDecoding = true) := by
  rcases List.mem_cons.mp hs with rfl | hs
  · exact .inl (by decide)
  cases kind with
  | http =>
    obtain rfl := List.mem_singleton.mp hs
    exact .inr (.inl rfl)
  | params =>
    have hfunction : ∀ s ∈ ([⟨"http", "ResponseWriter"⟩, ⟨"http", "Request"⟩] : List Selector),
        s.operand ∈ ["mux", "r", "http"] := by
      decide
    rcases List.mem_append.mp hs with hs | hs
    · exact .inl (hfunction s hs)
    rcases List.mem_append.mp hs with hs | hs
    · obtain ⟨p, hp, hs⟩ := List.mem_flatMap.mp hs
      rcases operand_of_mem_params hs with hs | hs | hs | ⟨hs, hstring⟩
      · exact .inl (by simp [hs])
      · exact .inl (by simp [hs])
      · exact .inr (.inl hs)
      · exact .inr (.inr ⟨hs, rfl, List.any_eq_true.mpr ⟨p, hp, by simp [hstring]⟩⟩)
    · obtain rfl := List.mem_singleton.mp hs
      exact .inr (.inl rfl)

end Members

end Framework

end Routewright
