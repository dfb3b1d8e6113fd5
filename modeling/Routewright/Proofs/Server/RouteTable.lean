import Routewright.Proofs.Server.BootstrapLines
import Routewright.Proofs.Server.Consistency

namespace Routewright

open Go Text

namespace RouteTable

def isRegistration (line : List Char) : Bool :=
  registrationMark.isPrefixOf line

def isServer (line : List Char) : Bool :=
  serverMark.isPrefixOf line

structure Entry where
  pattern : String
  handler : String
deriving DecidableEq, Repr

/-- The last line of a function that is registered, where `rest` begins behind its first. -/
def lastStatement (rest : List (List Char)) : List Char :=
  ((rest.takeWhile (· != "\t\x7d)".toList)).getLast?).getD []

/-- The expression that handles requests: an argument of the registration, or what is called at
the end of the function that is registered. -/
def handlerText (kind : FrameworkKind) (behind : List Char) (rest : List (List Char)) :
    List Char :=
  match kind with
  | .http => (behind.drop 2).dropLast
  | .params => ((lastStatement rest).dropWhile (· == '\t')).takeWhile (· != '(')

def entry? (kind : FrameworkKind) (line : List Char) (rest : List (List Char)) : Option Entry :=
  match cutLiteral? (line.drop registrationMark.length) with
  | none => none
  | some (literal, behind) =>
    (unquote? literal).map fun pattern => ⟨.ofList pattern, .ofList (handlerText kind behind rest)⟩

def entries (kind : FrameworkKind) : List (List Char) → List (Option Entry)
  | [] => []
  | line :: rest =>
    if isRegistration line then entry? kind line rest :: entries kind rest else entries kind rest

def addresses (lines : List (List Char)) : List (Option String) :=
  (lines.filter isServer).map fun line =>
    ((cutLiteral? (line.drop serverMark.length)).bind fun r => unquote? r.1).map String.ofList

section Reading

variable {kind : FrameworkKind} {l m : List (List Char)}

lemma length_entries (kind : FrameworkKind) (lines : List (List Char)) :
    (entries kind lines).length = (lines.filter isRegistration).length := by
  induction lines with
  | nil => rfl
  | cons line rest ih =>
    rw [entries, List.filter_cons]
    split_ifs
    · rw [List.length_cons, List.length_cons, ih]
    · exact ih

lemma entries_append (h : ∀ line ∈ l, isRegistration line = false) :
    entries kind (l ++ m) = entries kind m := by
  induction l with
  | nil => rfl
  | cons line l ih =>
    obtain ⟨hline, hl⟩ := List.forall_mem_cons.mp h
    rw [List.cons_append, entries, if_neg (by simp [hline]), ih hl]

lemma addresses_append (l m : List (List Char)) :
    addresses (l ++ m) = addresses l ++ addresses m := by
  rw [addresses, List.filter_append, List.map_append]
  rfl

lemma addresses_of_none (h : ∀ line ∈ l, isServer line = false) : addresses l = [] := by
  have hnone : l.filter isServer = [] :=
    List.filter_eq_nil_iff.mpr fun line hline => by simp [h line hline]
  rw [addresses, hnone, List.map_nil]

end Reading

section Writing

variable {kind : FrameworkKind} {r : Route} {h : Handler}

lemma isRegistration_of_isIndented {line : String} (hline : IsIndented 2 line) :
    isRegistration line.toList = false := by
  obtain ⟨t, ht⟩ := hline.2
  rw [isRegistration, ← ht]
  rfl

lemma isServer_of_isIndented {line : String} (hline : IsIndented 2 line) :
    isServer line.toList = false := by
  obtain ⟨t, ht⟩ := hline.2
  rw [isServer, ← ht]
  rfl

lemma lastStatement_furtherLines (hh : h.IsNamed) (m : List (List Char)) :
    lastStatement ((Framework.furtherLines .params h).map String.toList ++ m) =
      (Verifier.callLine h).toList := by
  have hinner : ∀ line ∈ (statementLines 2 (Verifier.body h)).map String.toList,
      (line != "\t\x7d)".toList) = true := by
    refine List.forall_mem_map.mpr fun line hline => ?_
    obtain ⟨-, t, ht⟩ := Verifier.isIndented_body hh line hline
    rw [← ht]
    rfl
  rw [lastStatement, Framework.furtherLines, List.map_append, List.append_assoc,
    List.takeWhile_append_of_pos hinner, List.map_singleton, List.singleton_append,
    List.takeWhile_cons_of_neg (by simp), List.append_nil, Verifier.statementLines_body,
    List.map_append, List.map_singleton, List.getLast?_concat]
  rfl

lemma handlerText_registration (hh : h.IsNamed) (m : List (List Char)) :
    handlerText kind (Framework.behindPattern kind h).toList
      ((Framework.furtherLines kind h).map String.toList ++ m) = h.callExpr.toList := by
  cases kind with
  | http =>
    have hbehind : (Framework.behindPattern .http h).toList =
        ',' :: ' ' :: (h.callExpr.toList ++ [')']) := by
      simp [Framework.behindPattern]
    rw [handlerText, hbehind, List.drop_succ_cons, List.drop_succ_cons, List.drop_zero,
      List.dropLast_concat]
  | params => rw [handlerText, lastStatement_furtherLines hh, Verifier.callee_callLine hh]

lemma entries_registration (hh : h.IsNamed) (m : List (List Char)) :
    entries kind (linesOf (Framework.registration kind r h) ++ m) =
      some ⟨r.text, h.callExpr⟩ :: entries kind m := by
  have hfirst : isRegistration (registrationMark ++
      (quoteChars r.text.toList ++ (Framework.behindPattern kind h).toList)) = true :=
    List.isPrefixOf_iff_prefix.mpr (List.prefix_append _ _)
  have hfurther : ∀ line ∈ (Framework.furtherLines kind h).map String.toList,
      isRegistration line = false :=
    List.forall_mem_map.mpr
      (Framework.forall_mem_furtherLines hh (fun _ => isRegistration_of_isIndented) (by decide))
  rw [Framework.linesOf_registration hh, List.cons_append, entries, if_pos hfirst,
    entries_append hfurther, entry?, List.drop_left, cutLiteral?_quoteChars]
  simp only [unquote?_quoteChars, Option.map_some, handlerText_registration hh,
    String.ofList_toList]

lemma isServer_of_mem_registration (hh : h.IsNamed) :
    ∀ line ∈ linesOf (Framework.registration kind r h), isServer line = false := by
  rw [Framework.linesOf_registration hh]
  exact List.forall_mem_cons.mpr ⟨rfl, List.forall_mem_map.mpr
    (Framework.forall_mem_furtherLines hh (fun _ => isServer_of_isIndented) (by decide))⟩

lemma entries_registrations {bindings : List Binding}
    (h : ∀ b ∈ bindings, b.handler.IsNamed) (m : List (List Char)) :
    entries kind
        ((bindings.map fun b => Framework.registration kind b.route b.handler).flatMap linesOf ++
          m) =
      bindings.map (fun b => some ⟨b.route.text, b.handler.callExpr⟩) ++ entries kind m := by
  induction bindings with
  | nil => rfl
  | cons b bindings ih =>
    obtain ⟨hb, hrest⟩ := List.forall_mem_cons.mp h
    rw [List.map_cons, List.flatMap_cons, List.append_assoc, entries_registration hb, ih hrest]
    rfl

end Writing

end RouteTable

namespace Framework

open RouteTable

variable {f : Framework}

structure Readable (f : Framework) : Prop where
  named : ∀ b ∈ f.mux.bindings, b.handler.IsNamed
  registrations_eq : f.mux.registrations =
    f.mux.bindings.map fun b => registration f.kind b.route b.handler

lemma linesOf_bootstrap (f : Framework) : linesOf f.bootstrap.body =
    ("func " ++ f.kind.bootstrap ++ "() (chan error, ShutDowner) \x7b").toList ::
      "\tmux := http.NewServeMux()".toList :: (f.mux.registrations.flatMap linesOf ++
        [] :: (serverMark ++ (quoteChars f.mux.listenAddr.toList ++ ", Handler: mux\x7d".toList)) ::
          serverLines.map String.toList) := by
  have hname : IsLine f.kind.bootstrap := by
    cases f.kind <;> decide
  have hserver : ("\tserver := &http.Server\x7bAddr: " ++ quote f.mux.listenAddr ++
      ", Handler: mux\x7d").toList =
        serverMark ++ (quoteChars f.mux.listenAddr.toList ++ ", Handler: mux\x7d".toList) := by
    rw [String.toList_append, String.toList_append, toList_quote, List.append_assoc]
    rfl
  rw [bootstrap, MuxTable.bootstrap, linesOf_bootstrapBody hname (isLine_quote _), hserver]

lemma unmarked_serverLines : ∀ line ∈ serverLines.map String.toList,
    isRegistration line = false ∧ isServer line = false := by
  apply forall_of_map_toList
  · unfold serverLines
    iterate 11 apply map_toList_cons
    rfl
  · decide

lemma entries_bootstrap (hf : f.Readable) : entries f.kind (linesOf f.bootstrap.body) =
    f.mux.bindings.map fun b => some ⟨b.route.text, b.handler.callExpr⟩ := by
  have hbefore : ∀ kind : FrameworkKind, isRegistration ("func " ++ kind.bootstrap ++
      "() (chan error, ShutDowner) \x7b").toList = false := by
    intro kind
    cases kind <;> decide
  have hbehind : ∀ line ∈ [] :: (serverMark ++ (quoteChars f.mux.listenAddr.toList ++
      ", Handler: mux\x7d".toList)) :: serverLines.map String.toList,
        isRegistration line = false :=
    List.forall_mem_cons.mpr ⟨rfl, List.forall_mem_cons.mpr
      ⟨rfl, fun line hline => (unmarked_serverLines line hline).1⟩⟩
  have hnone := @entries_append f.kind _ [] hbehind
  rw [List.append_nil] at hnone
  rw [linesOf_bootstrap, entries, if_neg (Bool.not_eq_true _ ▸ hbefore f.kind), entries,
    if_neg (by decide), hf.registrations_eq, entries_registrations hf.named, hnone]
  exact List.append_nil _

lemma addresses_bootstrap (hf : f.Readable) :
    addresses (linesOf f.bootstrap.body) = [some f.mux.listenAddr] := by
  have hbefore : ∀ kind : FrameworkKind, isServer ("func " ++ kind.bootstrap ++
      "() (chan error, ShutDowner) \x7b").toList = false := by
    intro kind
    cases kind <;> decide
  have hfirst : addresses [("func " ++ f.kind.bootstrap ++
      "() (chan error, ShutDowner) \x7b").toList, "\tmux := http.NewServeMux()".toList] = [] :=
    addresses_of_none (List.forall_mem_cons.mpr ⟨hbefore f.kind, by decide⟩)
  have hregistrations : addresses (f.mux.registrations.flatMap linesOf) = [] := by
    refine addresses_of_none fun line hline => ?_
    obtain ⟨registration, hregistration, hline⟩ := List.mem_flatMap.mp hline
    rw [hf.registrations_eq] at hregistration
    obtain ⟨b, hb, rfl⟩ := List.mem_map.mp hregistration
    exact isServer_of_mem_registration (hf.named b hb) line hline
  have hlast : addresses (serverLines.map String.toList) = [] :=
    addresses_of_none fun line hline => (unmarked_serverLines line hline).2
  have hserver : addresses [[], serverMark ++ (quoteChars f.mux.listenAddr.toList ++
      ", Handler: mux\x7d".toList)] = [some f.mux.listenAddr] := by
    have hmark : isServer (serverMark ++ (quoteChars f.mux.listenAddr.toList ++
        ", Handler: mux\x7d".toList)) = true :=
      List.isPrefixOf_iff_prefix.mpr (List.prefix_append _ _)
    rw [addresses, List.filter_cons_of_neg (by decide), List.filter_cons_of_pos hmark,
      List.filter_nil, List.map_singleton, List.drop_left, cutLiteral?_quoteChars,
      Option.bind_some, unquote?_quoteChars, Option.map_some, String.ofList_toList]
  have hlines : linesOf f.bootstrap.body =
      [("func " ++ f.kind.bootstrap ++ "() (chan error, ShutDowner) \x7b").toList,
        "\tmux := http.NewServeMux()".toList] ++ (f.mux.registrations.flatMap linesOf ++
          ([[], serverMark ++ (quoteChars f.mux.listenAddr.toList ++
            ", Handler: mux\x7d".toList)] ++ serverLines.map String.toList)) :=
    linesOf_bootstrap f
  rw [hlines, addresses_append, addresses_append, addresses_append, hfirst, hregistrations,
    hserver, hlast]
  rfl

theorem routeTable_of_run (kind : FrameworkKind) (calls : List Call)
    (h : ∀ route handler, Call.bind route handler ∈ calls → handler.IsNamed) :
    let f := (new kind).run calls
    let lines := linesOf f.bootstrap.body
    (lines.filter isRegistration).length = f.mux.bindings.length ∧
      entries kind lines =
        f.mux.bindings.map (fun b => some ⟨b.route.text, b.handler.callExpr⟩) ∧
      addresses lines = [some (f.mux.addr.getD kind.defaultAddr)] := by
  intro f lines
  have hkind : f.kind = kind := run_kind calls
  have hf : f.Readable :=
    { named := fun b hb => by
        rcases mem_run_bindings hb with hb | hb
        · cases hb
        · exact h b.route b.handler hb
      registrations_eq := (run_consistent (new_consistent kind) calls).registrations_eq }
  have hentries : entries kind lines =
      f.mux.bindings.map fun b => some ⟨b.route.text, b.handler.callExpr⟩ :=
    hkind ▸ entries_bootstrap hf
  have haddr : f.mux.listenAddr = f.mux.addr.getD kind.defaultAddr := by
    rw [MuxTable.listenAddr, run_defaultAddr]
    rfl
  refine ⟨?_, hentries, haddr ▸ addresses_bootstrap hf⟩
  rw [← length_entries kind, hentries, List.length_map]

/-- A path that closes its literal and goes on with a registration of its own. -/
def forgingPath : String :=
  "/a\", api.Get)\n\tmux.HandleFunc(\"GET /b"

def forgingCalls : List Call :=
  [.bind ⟨.get, "/\x7b"⟩ ⟨"app/api", "api", "Get", [⟨"id", .ident "int", true, .auto⟩]⟩,
    .configure ⟨none, "ParamsConfig", [("Addr", "\":9\\n\"")]⟩,
    .bind ⟨.get, forgingPath⟩ ⟨"app/api", "api", "Get", [⟨"id", .ident "int", true, .auto⟩]⟩,
    .bind ⟨.put, forgingPath⟩ ⟨"app/api", "api", "Put", []⟩]

theorem routeTable_forgingCalls :
    let lines := linesOf ((new .params).run forgingCalls).bootstrap.body
    (lines.filter isRegistration).length = 1 ∧
      entries .params lines = [some ⟨"GET " ++ forgingPath, "api.Get"⟩] ∧
      addresses lines = [some ":9\n"] := by
  have hnamed : ∀ route handler, Call.bind route handler ∈ forgingCalls → handler.IsNamed := by
    intro route handler hcall
    simp only [forgingCalls, List.mem_cons, Call.bind.injEq, reduceCtorEq, false_or,
      List.not_mem_nil, or_false] at hcall
    rcases hcall with ⟨-, rfl⟩ | ⟨-, rfl⟩ | ⟨-, rfl⟩
    · exact ⟨by decide +kernel, by decide +kernel, by simp [Go.TypeExpr.IsNamed]; decide +kernel⟩
    · exact ⟨by decide +kernel, by decide +kernel, by simp [Go.TypeExpr.IsNamed]; decide +kernel⟩
    · exact ⟨by decide +kernel, by decide +kernel, by simp⟩
  have hbindings : ((new .params).run forgingCalls).mux.bindings = [⟨⟨.get, forgingPath⟩,
      ⟨"app/api", "api", "Get", [⟨"id", .ident "int", true, .auto⟩]⟩⟩] := by
    decide +kernel
  have haddr : ((new .params).run forgingCalls).mux.addr = some ":9\n" := by
    decide +kernel
  have hread := routeTable_of_run .params forgingCalls hnamed
  simp only [hbindings, haddr] at hread
  exact hread

end Framework

end Routewright
