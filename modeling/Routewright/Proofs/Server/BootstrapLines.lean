import Routewright.Proofs.Go.Layout
import Routewright.Server.Framework

namespace Routewright

open Go Text

def Go.TypeExpr.IsNamed : TypeExpr → Prop
  | ident name => Pattern.isIdentifier name.toList = true
  | qualified package name =>
    Pattern.isIdentifier package.toList = true ∧ Pattern.isIdentifier name.toList = true
  | pointer target => target.IsNamed
  | other text => IsLine text

structure Handler.IsNamed (h : Handler) : Prop where
  package : Pattern.isIdentifier h.package.toList = true
  name : Pattern.isIdentifier h.name.toList = true
  params : ∀ p ∈ h.params, Pattern.isIdentifier p.name.toList = true ∧ p.type.IsNamed

section Names

lemma isLine_of_isIdentifier {s : String} (h : Pattern.isIdentifier s.toList = true) : IsLine s :=
  fun hmem => ne_of_mem_identifier h hmem (by decide) rfl

lemma Go.TypeExpr.IsNamed.isLine {t : TypeExpr} (h : t.IsNamed) : IsLine t.text := by
  induction t with
  | ident name => exact isLine_of_isIdentifier h
  | qualified package name =>
    have hpackage := isLine_of_isIdentifier h.1
    have hname := isLine_of_isIdentifier h.2
    simpa [TypeExpr.text, hpackage, hname] using by decide
  | pointer target ih =>
    have htarget := ih h
    simpa [TypeExpr.text, htarget] using by decide
  | other text => exact h

lemma isLine_goType {p : Param} {package : String} (hp : p.type.IsNamed) (hpackage : IsLine package) :
    IsLine (p.goType package) := by
  have hvalue : p.valueType.IsNamed := by
    rw [Param.valueType]
    cases htype : p.type with
    | pointer target => rwa [htype] at hp
    | _ => rwa [htype] at hp
  rw [Param.goType]
  split
  · rename_i name heq
    rw [heq] at hvalue
    have hname := isLine_of_isIdentifier hvalue
    split_ifs
    · exact hname
    · simpa [hpackage, hname] using by decide
  · exact hvalue.isLine

variable {h : Handler}

lemma Handler.IsNamed.isLine_callExpr (hh : h.IsNamed) : IsLine h.callExpr := by
  have hpackage := isLine_of_isIdentifier hh.package
  have hname := isLine_of_isIdentifier hh.name
  simpa [Handler.callExpr, hpackage, hname] using by decide

lemma Handler.IsNamed.ne_of_mem_callExpr (hh : h.IsNamed) :
    ∀ c ∈ h.callExpr.toList, c ≠ '\t' ∧ c ≠ '(' := by
  have hname : ∀ s : String, Pattern.isIdentifier s.toList = true →
      ∀ c ∈ s.toList, c ≠ '\t' ∧ c ≠ '(' := fun s hs c hc =>
    ⟨ne_of_mem_identifier hs hc (by decide), ne_of_mem_identifier hs hc (by decide)⟩
  rw [Handler.callExpr, String.toList_append, String.toList_append, List.forall_mem_append,
    List.forall_mem_append]
  exact ⟨⟨hname _ hh.package, by decide⟩, hname _ hh.name⟩

end Names

namespace Verifier

variable {h : Handler} {p : Param} {package : String}

lemma isLine_call {function : String} (h : IsLine function) (key : String) :
    IsLine (function ++ quote key ++ ")") := by
  rw [isLine_append, isLine_append]
  exact ⟨⟨h, isLine_quote key⟩, by decide⟩

lemma isLine_lookup (p : Param) : IsLine p.lookup.source := by
  rw [Param.lookup]
  cases p.source
  case auto => exact @isLine_call "r.PathValue(" (by decide) p.name
  case path => exact @isLine_call "r.PathValue(" (by decide) p.name
  case query => exact @isLine_call "r.URL.Query().Get(" (by decide) p.name
  case header => exact @isLine_call "r.Header.Get(" (by decide) p.name

lemma isLine_literal {s : String} (h : IsLine s) : IsLine (TextExpr.literal s).source := by
  have hquoted : IsLine ("\"" ++ s ++ "\"") := by
    simpa [h] using by decide
  exact hquoted

lemma isLine_rawVar (h : IsLine p.name) : IsLine p.rawVar := by
  simpa [Param.rawVar, h] using by decide

lemma isLine_valueVar (h : IsLine p.name) : IsLine p.valueVar := by
  simpa [Param.valueVar, h] using by decide

lemma arePlain_fetch (h : IsLine p.name) : ArePlain (fetch p) := by
  have hraw := isLine_rawVar h
  have hlookup := isLine_lookup p
  have hquery : IsLine (TextExpr.queryValue p.name).source :=
    @isLine_call "r.URL.Query().Get(" (by decide) p.name
  rw [fetch]
  split_ifs
  · exact ⟨⟨hraw, hlookup⟩, ⟨hraw, ⟨hraw, hquery⟩, trivial⟩, trivial⟩
  · exact ⟨⟨hraw, hlookup⟩, trivial⟩

lemma arePlain_demand (h : IsLine p.name) : ArePlain (demand p) := by
  have htext : IsLine ("param '" ++ p.name ++ "' is required\\n") := by
    simpa [h] using by decide
  rw [demand]
  split_ifs
  · exact ⟨⟨isLine_rawVar h, ⟨by decide, isLine_literal htext⟩, trivial⟩, trivial⟩
  · trivial

lemma arePlain_decode (h : IsLine p.name) (htype : IsLine (p.goType package)) :
    ArePlain (decode p package) := by
  have hraw := isLine_rawVar h
  have hvalue := isLine_valueVar h
  have htext : IsLine (" cannot be decoded into type " ++ p.goType package ++ "\\n") := by
    simpa [htype] using by decide
  have hparts : IsLine ((TextExpr.literal "param value ").source ++ " + " ++ p.rawVar ++ " + " ++
      (TextExpr.literal (" cannot be decoded into type " ++ p.goType package ++ "\\n")).source) := by
    simp only [isLine_append]
    exact ⟨⟨⟨⟨isLine_literal (by decide), by decide⟩, hraw⟩, by decide⟩, isLine_literal htext⟩
  rw [decode]
  split_ifs
  · exact ⟨⟨hvalue, htype⟩, ⟨hraw, ⟨hvalue, hraw⟩, trivial⟩, trivial⟩
  · exact ⟨⟨hvalue, htype⟩, ⟨hraw, ⟨hraw, hvalue, ⟨by decide, hparts⟩, trivial⟩, trivial⟩, trivial⟩

lemma arePlain_verify (h : IsLine p.name) (htype : IsLine (p.goType package)) :
    ArePlain (verify package p) := by
  have hfaults : IsLine faults := by
    decide
  have hstop : ArePlain stop := ⟨⟨hfaults, hfaults, trivial, trivial⟩, trivial⟩
  rw [verify, arePlain_append, arePlain_append, arePlain_append]
  exact ⟨⟨⟨arePlain_fetch h, arePlain_demand h⟩, arePlain_decode h htype⟩, hstop⟩

lemma arePlain_verify_all {params : List Param}
    (h : ∀ p ∈ params, IsLine p.name ∧ IsLine (p.goType package)) :
    ArePlain (params.flatMap (verify package)) := by
  induction params with
  | nil => trivial
  | cons p params ih =>
    obtain ⟨⟨hname, htype⟩, hparams⟩ := List.forall_mem_cons.mp h
    rw [List.flatMap_cons, arePlain_append]
    exact ⟨arePlain_verify hname htype, ih hparams⟩

def callLine (h : Handler) : String :=
  indent 2 (h.callExpr ++ "(" ++
    ", ".intercalate ((h.params.map Param.argument).map Argument.source) ++ ")")

def checkLines (h : Handler) : List String :=
  statementLines 2 (.declare faults (.literal "") :: h.params.flatMap (verify h.package))

lemma statementLines_body (h : Handler) :
    statementLines 2 (body h) = checkLines h ++ [callLine h] := by
  rw [body, ← List.cons_append, statementLines_append]
  rfl

lemma isIndented_checkLines (hh : h.IsNamed) : ∀ line ∈ checkLines h, IsIndented 2 line := by
  have hparams : ArePlain (h.params.flatMap (verify h.package)) :=
    arePlain_verify_all fun p hp =>
      ⟨isLine_of_isIdentifier (hh.params p hp).1,
        isLine_goType (hh.params p hp).2 (isLine_of_isIdentifier hh.package)⟩
  exact isIndented_statementLines _ 2 ⟨⟨by decide, by decide⟩, hparams⟩

lemma isIndented_callLine (hh : h.IsNamed) : IsIndented 2 (callLine h) := by
  have hcall : (Statement.call h.callExpr (h.params.map Param.argument)).IsPlain := by
    refine ⟨hh.isLine_callExpr, List.forall_mem_map.mpr fun p hp => ?_⟩
    have hvalue := isLine_valueVar (isLine_of_isIdentifier (hh.params p hp).1)
    rw [Argument.source, isLine_append]
    refine ⟨?_, hvalue⟩
    split_ifs <;> decide
  exact Statement.isIndented_lines _ 2 hcall _ (List.mem_singleton.mpr rfl)

lemma isIndented_body (hh : h.IsNamed) :
    ∀ line ∈ statementLines 2 (body h), IsIndented 2 line := by
  rw [statementLines_body]
  exact List.forall_mem_append.mpr
    ⟨isIndented_checkLines hh, List.forall_mem_singleton.mpr (isIndented_callLine hh)⟩

lemma callee_callLine (hh : h.IsNamed) :
    (((callLine h).toList.dropWhile (· == '\t')).takeWhile (· != '(')) = h.callExpr.toList := by
  have hcallee := hh.ne_of_mem_callExpr
  have hne : h.callExpr.toList ≠ [] := by
    simp [Handler.callExpr]
  have hline : (callLine h).toList = List.replicate 2 '\t' ++ (h.callExpr.toList ++ '(' ::
      (", ".intercalate ((h.params.map Param.argument).map Argument.source) ++ ")").toList) := by
    simp [callLine, indent]
  have htabs : ∀ c ∈ List.replicate 2 '\t', (c == '\t') = true := by
    decide
  rw [hline, List.dropWhile_append_of_pos htabs, dropWhile_eq_self_iff_head.mpr,
    takeWhile_append_cons]
  · exact fun c hc => bne_iff_ne.mpr (hcallee c hc).2
  · decide
  · intro c hc
    rw [List.head?_append_of_ne_nil _ hne] at hc
    exact beq_false_of_ne (hcallee c (List.mem_of_head? hc)).1

end Verifier

namespace RouteTable

def registrationMark : List Char :=
  "\tmux.HandleFunc(".toList

def serverMark : List Char :=
  "\tserver := &http.Server\x7bAddr: ".toList

end RouteTable

namespace Framework

variable {kind : FrameworkKind} {r : Route} {h : Handler}

def behindPattern (kind : FrameworkKind) (h : Handler) : String :=
  match kind with
  | .http => ", " ++ h.callExpr ++ ")"
  | .params => ", func(w http.ResponseWriter, r *http.Request) \x7b"

def furtherLines (kind : FrameworkKind) (h : Handler) : List String :=
  match kind with
  | .http => []
  | .params => statementLines 2 (Verifier.body h) ++ ["\t\x7d)"]

lemma isLine_behindPattern (hh : h.IsNamed) : IsLine (behindPattern kind h) := by
  cases kind with
  | http => simpa [behindPattern, hh.isLine_callExpr] using by decide
  | params =>
    have hopening : IsLine ", func(w http.ResponseWriter, r *http.Request) \x7b" := by
      decide
    exact hopening

-- A line of the function that is registered is deeper than a registration, or it closes it.
lemma forall_mem_furtherLines {p : String → Prop} (hh : h.IsNamed)
    (hdeep : ∀ line, IsIndented 2 line → p line) (hclose : p "\t\x7d)") :
    ∀ line ∈ furtherLines kind h, p line := by
  cases kind with
  | http => simp [furtherLines]
  | params =>
    exact List.forall_mem_append.mpr
      ⟨fun line hline => hdeep line (Verifier.isIndented_body hh line hline),
        List.forall_mem_singleton.mpr hclose⟩

lemma registration_http : registration .http r h =
    "\tmux.HandleFunc(" ++ r.pattern ++ ", " ++ h.callExpr ++ ")" :=
  rfl

lemma registration_params : registration .params r h = Verifier.registration r h :=
  rfl

lemma registration_eq : registration kind r h =
    "\n".intercalate
      (("\tmux.HandleFunc(" ++ r.pattern ++ behindPattern kind h) :: furtherLines kind h) := by
  cases kind with
  | http =>
    rw [furtherLines, String.intercalate_singleton, behindPattern, registration_http]
    simp only [String.append_assoc]
  | params =>
    rw [registration_params, Verifier.registration, furtherLines, behindPattern, List.append_assoc]
    rfl

lemma linesOf_registration (hh : h.IsNamed) : linesOf (registration kind r h) =
    (RouteTable.registrationMark ++
        (quoteChars r.text.toList ++ (behindPattern kind h).toList)) ::
      (furtherLines kind h).map String.toList := by
  have hfirst : IsLine ("\tmux.HandleFunc(" ++ r.pattern ++ behindPattern kind h) := by
    rw [isLine_append, isLine_append]
    exact ⟨⟨by decide, isLine_quote r.text⟩, isLine_behindPattern hh⟩
  rw [registration_eq, linesOf_intercalate (List.cons_ne_nil _ _)
    (List.forall_mem_cons.mpr
      ⟨hfirst, forall_mem_furtherLines hh (fun _ hline => hline.1) (by decide)⟩), List.map_cons,
    String.toList_append, String.toList_append, Route.pattern, toList_quote, List.append_assoc]
  rfl

end Framework

section Body

def serverLines : List String :=
  ["\terrChan := make(chan error, 1)",
    "\tgo func() \x7b",
    "\t\terr := server.ListenAndServe()",
    "\t\tif err != nil && !errors.Is(err, http.ErrServerClosed) \x7b",
    "\t\t\terrChan <- err",
    "\t\t\x7d",
    "\t\x7d()",
    "\treturn errChan, func() error \x7b",
    "\t\treturn server.Shutdown(context.Background())",
    "\t\x7d",
    "\x7d"]

variable {functionName addr : String} {registrations : List String}

lemma bootstrapBody_eq : bootstrapBody functionName addr registrations =
    ("func " ++ functionName ++ "() (chan error, ShutDowner) \x7b") ++ "\n" ++
      ("\tmux := http.NewServeMux()" ++ String.join (registrations.map ("\n" ++ ·))) ++ "\n" ++
        ("" ++ "\n" ++ ("\tserver := &http.Server\x7bAddr: " ++ addr ++ ", Handler: mux\x7d" ++
          "\n" ++ "\n".intercalate serverLines)) := by
  have hopening : "() (chan error, ShutDowner) \x7b\n" =
      "() (chan error, ShutDowner) \x7b" ++ "\n" :=
    ofList_eq_append rfl rfl
  have hempty : "\n\n" = "\n" ++ ("" ++ "\n") :=
    ofList_eq_append (append_eq_ofList rfl) rfl
  have hserver : ", Handler: mux\x7d\n" = ", Handler: mux\x7d" ++ "\n" :=
    ofList_eq_append rfl rfl
  have hrest : "\n".intercalate serverLines =
      "\terrChan := make(chan error, 1)\n" ++ ("\tgo func() \x7b\n" ++
        ("\t\terr := server.ListenAndServe()\n" ++
          ("\t\tif err != nil && !errors.Is(err, http.ErrServerClosed) \x7b\n" ++
            ("\t\t\terrChan <- err\n" ++ ("\t\t\x7d\n" ++ ("\t\x7d()\n" ++
              ("\treturn errChan, func() error \x7b\n" ++
                ("\t\treturn server.Shutdown(context.Background())\n" ++
                  ("\t\x7d\n" ++ "\x7d"))))))))) := by
    decide +kernel
  unfold bootstrapBody
  rw [hrest, hopening, hempty, hserver]
  simp only [String.append_assoc, -String.reduceAppend]

lemma linesOf_bootstrapBody (hname : IsLine functionName) (haddr : IsLine addr) :
    linesOf (bootstrapBody functionName addr registrations) =
      ("func " ++ functionName ++ "() (chan error, ShutDowner) \x7b").toList ::
        "\tmux := http.NewServeMux()".toList :: (registrations.flatMap linesOf ++
          [] :: ("\tserver := &http.Server\x7bAddr: " ++ addr ++ ", Handler: mux\x7d").toList ::
            serverLines.map String.toList) := by
  have hfunc : IsLine ("func " ++ functionName ++ "() (chan error, ShutDowner) \x7b") := by
    simpa [hname] using by decide
  have hserver : IsLine ("\tserver := &http.Server\x7bAddr: " ++ addr ++ ", Handler: mux\x7d") := by
    simpa [haddr] using by decide
  have hmux : IsLine "\tmux := http.NewServeMux()" := by
    decide
  have hempty : linesOf "" = [[]] := rfl
  have hne : serverLines ≠ [] := List.cons_ne_nil _ _
  have hlines : ∀ line ∈ serverLines.map String.toList, '\n' ∉ line := by
    apply forall_of_map_toList
    · unfold serverLines
      iterate 11 apply map_toList_cons
      rfl
    · decide
  have hrest : ∀ line ∈ serverLines, IsLine line :=
    fun line hline => hlines _ (List.mem_map_of_mem hline)
  rw [bootstrapBody_eq, linesOf_append, linesOf_append, linesOf_append, linesOf_append,
    linesOf_join, linesOf_of_not_mem hfunc, linesOf_of_not_mem hmux, linesOf_of_not_mem hserver,
    linesOf_intercalate hne hrest, hempty]
  simp only [List.cons_append, List.nil_append]

end Body

end Routewright
