import Routewright.Proofs.Go.Execution
import Routewright.Server.Verifier

namespace Routewright

open Go

variable {α : Type}

namespace Param

def raw (req : Request) (p : Param) : String :=
  match p.source with
  | .auto =>
    if req.pathValue p.name = "" then req.queryValue p.name else req.pathValue p.name
  | .path => req.pathValue p.name
  | .query => req.queryValue p.name
  | .header => req.headerValue p.name

def lookups (req : Request) (p : Param) : List (Event α) :=
  match p.source with
  | .auto =>
    if req.pathValue p.name = "" then [.pathValue p.name, .queryValue p.name]
    else [.pathValue p.name]
  | .path => [.pathValue p.name]
  | .query => [.queryValue p.name]
  | .header => [.headerValue p.name]

def IsMissing (req : Request) (p : Param) : Prop :=
  p.required = true ∧ p.raw req = ""

def IsUndecodable (req : Request) (decode : Decoder α) (package : String) (p : Param) : Prop :=
  p.raw req ≠ "" ∧ p.isString = false ∧ decode (p.goType package) (p.raw req) = none

def Fails (req : Request) (decode : Decoder α) (package : String) (p : Param) : Prop :=
  p.IsMissing req ∨ p.IsUndecodable req decode package

instance (req : Request) (decode : Decoder α) (package : String) (p : Param) :
    Decidable (p.Fails req decode package) :=
  inferInstanceAs (Decidable ((_ ∧ _) ∨ (_ ∧ _ ∧ _)))

def value (req : Request) (decode : Decoder α) (package : String) (p : Param) : Value α :=
  if p.raw req = "" then .fresh (p.goType package)
  else if p.isString then .text (p.raw req)
  else
    match decode (p.goType package) (p.raw req) with
    | some a => .decoded a
    | none => .fresh (p.goType package)

def passed (req : Request) (decode : Decoder α) (package : String) (p : Param) : Passed α :=
  if p.required then .value (p.value req decode package)
  else .pointer (p.value req decode package)

def complaint? (req : Request) (package : String) (p : Param) : Option String :=
  if p.raw req = "" then some ("param '" ++ p.name ++ "' is required\n")
  else
    (literalText? (" cannot be decoded into type " ++ p.goType package ++ "\\n")).map
      ("param value " ++ p.raw req ++ ·)

lemma rawVar_ne_valueVar (p q : Param) : p.rawVar ≠ q.valueVar := by
  intro h
  have hlast := congrArg (·.toList.getLast?) h
  simp [rawVar, valueVar] at hlast

lemma rawVar_ne_faults (p : Param) : p.rawVar ≠ Verifier.faults := by
  intro h
  have hlast := congrArg (·.toList.getLast?) h
  simp [rawVar, Verifier.faults] at hlast

lemma valueVar_ne_faults (p : Param) : p.valueVar ≠ Verifier.faults := by
  intro h
  have hlast := congrArg (·.toList.getLast?) h
  simp [valueVar, Verifier.faults] at hlast

lemma rawVar_ne_err (p : Param) : p.rawVar ≠ "err" := by
  intro h
  have hlast := congrArg (·.toList.getLast?) h
  simp [rawVar] at hlast

lemma valueVar_ne_err (p : Param) : p.valueVar ≠ "err" := by
  intro h
  have hlast := congrArg (·.toList.getLast?) h
  simp [valueVar] at hlast

lemma rawVar_ne_of_length_le (p : Param) {x : String} (h : x.length ≤ 2) : p.rawVar ≠ x := by
  rintro rfl
  have hlength : p.rawVar.length = p.name.length + 3 := String.length_append ..
  omega

lemma valueVar_ne_of_length_le (p : Param) {x : String} (h : x.length ≤ 2) : p.valueVar ≠ x := by
  rintro rfl
  have hlength : p.valueVar.length = p.name.length + 3 := String.length_append ..
  omega

lemma rawVar_eq_iff {p q : Param} : p.rawVar = q.rawVar ↔ p.name = q.name := by
  simp [rawVar, ← String.toList_inj]

lemma valueVar_eq_iff {p q : Param} : p.valueVar = q.valueVar ↔ p.name = q.name := by
  simp [valueVar, ← String.toList_inj]

lemma goType_of_isString {p : Param} (package : String) (h : p.isString = true) :
    p.goType package = "string" := by
  have htype : p.valueType = .ident "string" := by
    simpa [isString] using h
  have hpre : isPredeclared "string" = true := by
    decide
  simp [goType, htype, hpre]

end Param

namespace Verifier

variable {req : Request} {decode : Decoder α} {package : String} {p : Param} {s : Scope α}
  (t : List (Event α))

lemma exec_fetch (hraw : s p.rawVar = none) :
    execAll req decode (fetch p) ⟨[s], t⟩ =
      some (.next, ⟨[s.set p.rawVar (.text (p.raw req))], t ++ p.lookups req⟩) := by
  cases hsource : p.source
  case auto =>
    by_cases hpath : req.pathValue p.name = ""
    · simp [fetch, Param.lookup, Param.fallsBackToQuery, Param.raw, Param.lookups, hsource, hpath,
        execAll, Statement.exec, TextExpr.eval, block, hraw]
    · simp [fetch, Param.lookup, Param.fallsBackToQuery, Param.raw, Param.lookups, hsource, hpath,
        execAll, Statement.exec, TextExpr.eval, hraw]
  all_goals
    simp [fetch, Param.lookup, Param.fallsBackToQuery, Param.raw, Param.lookups, hsource,
      execAll, Statement.exec, TextExpr.eval, hraw]

lemma exec_demand_of_present (hraw : s p.rawVar = some (.text (p.raw req)))
    (h : ¬p.IsMissing req) :
    execAll req decode (demand p) ⟨[s], t⟩ = some (.next, ⟨[s], t⟩) := by
  by_cases hrequired : p.required = true
  · have hpresent : p.raw req ≠ "" := fun hempty => h ⟨hrequired, hempty⟩
    simp [demand, hrequired, execAll, Statement.exec, hraw, hpresent]
  · simp [demand, hrequired, execAll]

lemma exec_demand_of_missing (hname : isPlainText p.name = true)
    (hfaults : s faults = some (.text "")) (hraw : s p.rawVar = some (.text (p.raw req)))
    (h : p.IsMissing req) :
    execAll req decode (demand p) ⟨[s], t⟩ =
      some (.next, ⟨[s.set faults (.text ("param '" ++ p.name ++ "' is required\n"))], t⟩) := by
  obtain ⟨hrequired, hempty⟩ := h
  have htext : isPlainText ("param '" ++ p.name ++ "' is required") = true := by
    rw [isPlainText_append, isPlainText_append, hname]
    decide
  have hliteral : literalText? ("param '" ++ p.name ++ "' is required\\n") =
      some ("param '" ++ p.name ++ "' is required\n") := by
    simpa [String.append_assoc] using literalText?_line htext
  simp [demand, hrequired, execAll, Statement.exec, TextExpr.eval, block, hraw, hempty, hfaults,
    hliteral]

lemma exec_decode_of_passes (hraw : s p.rawVar = some (.text (p.raw req)))
    (hvalue : s p.valueVar = none) (h : ¬p.IsUndecodable req decode package) :
    execAll req decode (Verifier.decode p package) ⟨[s], t⟩ =
      some (.next, ⟨[s.set p.valueVar
        (.pointer (p.goType package) (p.value req decode package))], t⟩) := by
  have hne := p.rawVar_ne_valueVar p
  by_cases hempty : p.raw req = ""
  · simp [Verifier.decode, execAll, Statement.exec, Scope.set_of_ne _ _ hne, hvalue, hraw, hempty,
      Param.value]
  · cases hstring : p.isString
    · cases hdecode : decode (p.goType package) (p.raw req) with
      | none => exact absurd ⟨hempty, hstring, hdecode⟩ h
      | some a =>
        simp [Verifier.decode, execAll, Statement.exec, block, Scope.set_of_ne _ _ hne, hvalue,
          hraw, hempty, hstring, hdecode, Param.value]
    · simp [Verifier.decode, execAll, Statement.exec, TextExpr.eval, block,
        Scope.set_of_ne _ _ hne, hvalue, hraw, hempty, hstring, Param.value,
        Param.goType_of_isString package hstring]

lemma eval_complaint {f : Frame α} (hpresent : p.raw req ≠ "")
    (hraw : f.text? p.rawVar = some (p.raw req)) :
    TextExpr.eval req f
        (.append (.append (.literal "param value ") (.var p.rawVar))
          (.literal (" cannot be decoded into type " ++ p.goType package ++ "\\n"))) =
      (p.complaint? req package).map fun text => (text, []) := by
  have hfirst : literalText? "param value " = some "param value " :=
    literalText?_of_plain (by decide)
  rw [Param.complaint?, if_neg hpresent]
  simp only [TextExpr.eval, hfirst, hraw]
  cases literalText? (" cannot be decoded into type " ++ p.goType package ++ "\\n") <;> rfl

lemma exec_decode_of_undecodable (hfaults : s faults = some (.text ""))
    (hraw : s p.rawVar = some (.text (p.raw req))) (hvalue : s p.valueVar = none)
    (h : p.IsUndecodable req decode package) :
    execAll req decode (Verifier.decode p package) ⟨[s], t⟩ =
      (p.complaint? req package).map fun text =>
        (.next, ⟨[(s.set p.valueVar (.pointer (p.goType package) (.fresh (p.goType package)))).set
          faults (.text text)], t⟩) := by
  obtain ⟨hpresent, hstring, hdecode⟩ := h
  have herr : faults ≠ "err" := by
    decide
  simp [Verifier.decode, execAll, Statement.exec, block, hvalue, hraw, hfaults, hpresent, hstring,
    hdecode, eval_complaint hpresent, Scope.set_of_ne _ _ (p.rawVar_ne_valueVar p),
    Scope.set_of_ne _ _ p.valueVar_ne_faults.symm, Scope.set_of_ne _ _ herr,
    Scope.set_of_ne _ _ p.rawVar_ne_err]
  cases p.complaint? req package <;> simp

lemma exec_stop_of_fine (hfaults : s faults = some (.text "")) :
    execAll req decode stop ⟨[s], t⟩ = some (.next, ⟨[s], t⟩) := by
  simp [stop, execAll, Statement.exec, hfaults]

lemma exec_stop_of_fault {text : String} (hfaults : s faults = some (.text text))
    (h : text ≠ "") :
    execAll req decode stop ⟨[s], t⟩ = some (.left, ⟨[s], t ++ [.refused teapot text]⟩) := by
  simp [stop, execAll, Statement.exec, block, hfaults, h]

def verified (req : Request) (decode : Decoder α) (package : String) (s : Scope α) (p : Param) :
    Scope α :=
  (s.set p.rawVar (.text (p.raw req))).set p.valueVar
    (.pointer (p.goType package) (p.value req decode package))

structure Ready (s : Scope α) (params : List Param) : Prop where
  no_fault : s faults = some (.text "")
  no_raw : ∀ p ∈ params, s p.rawVar = none
  no_value : ∀ p ∈ params, s p.valueVar = none

lemma Ready.head {rest : List Param} (h : Ready s (p :: rest)) : Ready s [p] where
  no_fault := h.no_fault
  no_raw q hq := h.no_raw q (List.mem_cons.mpr (.inl (List.mem_singleton.mp hq)))
  no_value q hq := h.no_value q (List.mem_cons.mpr (.inl (List.mem_singleton.mp hq)))

lemma verified_of_ne {x : String} (hraw : x ≠ p.rawVar) (hvalue : x ≠ p.valueVar) :
    verified req decode package s p x = s x := by
  rw [verified, Scope.set_of_ne _ _ hvalue, Scope.set_of_ne _ _ hraw]

lemma Ready.verified {rest : List Param} (h : Ready s (p :: rest))
    (hname : p.name ∉ rest.map Param.name) : Ready (verified req decode package s p) rest := by
  have hne : ∀ q ∈ rest, q.name ≠ p.name := fun q hq heq =>
    hname (heq ▸ List.mem_map_of_mem hq)
  constructor
  · rw [verified_of_ne p.rawVar_ne_faults.symm p.valueVar_ne_faults.symm]
    exact h.no_fault
  · intro q hq
    rw [verified_of_ne (fun heq => hne q hq (Param.rawVar_eq_iff.mp heq)) (q.rawVar_ne_valueVar p)]
    exact h.no_raw q (List.mem_cons_of_mem p hq)
  · intro q hq
    rw [verified_of_ne (p.rawVar_ne_valueVar q).symm
      (fun heq => hne q hq (Param.valueVar_eq_iff.mp heq))]
    exact h.no_value q (List.mem_cons_of_mem p hq)

lemma verify_append (package : String) (p : Param) (rest : List Statement) :
    verify package p ++ rest =
      fetch p ++ (demand p ++ (Verifier.decode p package ++ (stop ++ rest))) := by
  simp only [verify, List.append_assoc]

lemma exec_verify_of_passes (hs : Ready s [p]) (h : ¬p.Fails req decode package)
    (rest : List Statement) :
    execAll req decode (verify package p ++ rest) ⟨[s], t⟩ =
      execAll req decode rest ⟨[verified req decode package s p], t ++ p.lookups req⟩ := by
  obtain ⟨hpresent, hdecodes⟩ := not_or.mp h
  have hp := List.mem_singleton_self p
  have hvalue : s.set p.rawVar (.text (p.raw req)) p.valueVar = none := by
    rw [Scope.set_of_ne _ _ (p.rawVar_ne_valueVar p).symm, hs.no_value p hp]
  have hfaults : verified req decode package s p faults = some (.text "") := by
    rw [verified_of_ne p.rawVar_ne_faults.symm p.valueVar_ne_faults.symm, hs.no_fault]
  rw [verify_append, execAll_append_of_next (exec_fetch t (hs.no_raw p hp)),
    execAll_append_of_next (exec_demand_of_present _ (Scope.set_self ..) hpresent),
    execAll_append_of_next (exec_decode_of_passes _ (Scope.set_self ..) hvalue hdecodes)]
  exact execAll_append_of_next (exec_stop_of_fine _ hfaults) rest

lemma complaint?_ne_empty {text : String} (h : p.complaint? req package = some text) :
    text ≠ "" := by
  rintro rfl
  by_cases hempty : p.raw req = ""
  · simp [Param.complaint?, hempty] at h
  · simp [Param.complaint?, hempty] at h

lemma exec_verify_of_fails (hname : isPlainText p.name = true) (hs : Ready s [p])
    (h : p.Fails req decode package) (rest : List Statement) :
    (execAll req decode (verify package p ++ rest) ⟨[s], t⟩).map (·.2.trace) =
      (p.complaint? req package).map fun text =>
        t ++ p.lookups req ++ [.refused teapot text] := by
  have hp := List.mem_singleton_self p
  have hraw : s.set p.rawVar (.text (p.raw req)) p.rawVar = some (.text (p.raw req)) :=
    Scope.set_self ..
  have hvalue : s.set p.rawVar (.text (p.raw req)) p.valueVar = none := by
    rw [Scope.set_of_ne _ _ (p.rawVar_ne_valueVar p).symm, hs.no_value p hp]
  have hfaults : s.set p.rawVar (.text (p.raw req)) faults = some (.text "") := by
    rw [Scope.set_of_ne _ _ p.rawVar_ne_faults.symm, hs.no_fault]
  rw [verify_append, execAll_append_of_next (exec_fetch t (hs.no_raw p hp))]
  by_cases hmissing : p.IsMissing req
  · have hdecodes : ¬p.IsUndecodable req decode package := fun hd => hd.1 hmissing.2
    have hcomplaint : p.complaint? req package = some _ := if_pos hmissing.2
    rw [execAll_append_of_next (exec_demand_of_missing _ hname hfaults hraw hmissing),
      execAll_append_of_next (exec_decode_of_passes _ _ _ hdecodes),
      execAll_append_of_left (exec_stop_of_fault _ _ (complaint?_ne_empty hcomplaint)), hcomplaint]
    · rfl
    · rw [Scope.set_of_ne _ _ p.valueVar_ne_faults.symm, Scope.set_self]
    · rw [Scope.set_of_ne _ _ p.rawVar_ne_faults, hraw]
    · rw [Scope.set_of_ne _ _ p.valueVar_ne_faults, hvalue]
  · have hdecode := exec_decode_of_undecodable (t ++ p.lookups req) hfaults hraw hvalue
      (h.resolve_left hmissing)
    rw [execAll_append_of_next (exec_demand_of_present _ hraw hmissing)]
    cases hcomplaint : p.complaint? req package with
    | none =>
      rw [hcomplaint] at hdecode
      rw [execAll_append_of_none hdecode]
      rfl
    | some text =>
      rw [hcomplaint] at hdecode
      rw [execAll_append_of_next hdecode,
        execAll_append_of_left
          (exec_stop_of_fault _ (Scope.set_self ..) (complaint?_ne_empty hcomplaint))]
      rfl

variable (req decode package)

lemma foldl_verified_of_ne {x : String} {params : List Param} (s : Scope α)
    (h : ∀ p ∈ params, x ≠ p.rawVar ∧ x ≠ p.valueVar) :
    params.foldl (verified req decode package) s x = s x := by
  induction params generalizing s with
  | nil => rfl
  | cons p rest ih =>
    obtain ⟨hraw, hvalue⟩ := h p List.mem_cons_self
    rw [List.foldl_cons, ih _ fun q hq => h q (List.mem_cons_of_mem p hq),
      verified_of_ne hraw hvalue]

lemma foldl_verified_valueVar {params : List Param} (s : Scope α)
    (hnames : (params.map Param.name).Nodup) (hp : p ∈ params) :
    params.foldl (verified req decode package) s p.valueVar =
      some (.pointer (p.goType package) (p.value req decode package)) := by
  induction params generalizing s with
  | nil => simp at hp
  | cons q rest ih =>
    obtain ⟨hq, hrest⟩ := List.nodup_cons.mp hnames
    rcases List.mem_cons.mp hp with rfl | hp
    · rw [List.foldl_cons, foldl_verified_of_ne, verified, Scope.set_self]
      intro q' hq'
      refine ⟨(q'.rawVar_ne_valueVar p).symm, fun heq => hq ?_⟩
      rw [Param.valueVar_eq_iff.mp heq]
      exact List.mem_map_of_mem hq'
    · exact ih _ hrest hp

variable {req decode package}

lemma exec_verify_all {before after : List Param} (hs : Ready s (before ++ after))
    (hnames : ((before ++ after).map Param.name).Nodup)
    (h : ∀ p ∈ before, ¬p.Fails req decode package) (rest : List Statement) :
    Ready (before.foldl (verified req decode package) s) after ∧
      execAll req decode (before.flatMap (verify package) ++ rest) ⟨[s], t⟩ =
        execAll req decode rest
          ⟨[before.foldl (verified req decode package) s],
            t ++ before.flatMap (Param.lookups req)⟩ := by
  induction before generalizing s t with
  | nil => exact ⟨hs, by simp⟩
  | cons p before ih =>
    obtain ⟨hp, hbefore⟩ := List.nodup_cons.mp hnames
    obtain ⟨hready, hexec⟩ := ih (t ++ p.lookups req) (hs.verified hp) hbefore
      fun q hq => h q (List.mem_cons_of_mem p hq)
    refine ⟨hready, ?_⟩
    rw [List.flatMap_cons, List.append_assoc,
      exec_verify_of_passes t hs.head (h p List.mem_cons_self), hexec, List.flatMap_cons,
      List.append_assoc]
    rfl

lemma mapM_argument {params : List Param}
    (hs : ∀ p ∈ params,
      s p.valueVar = some (.pointer (p.goType package) (p.value req decode package))) :
    (params.map Param.argument).mapM (Argument.eval ⟨[s], t⟩) =
      some (params.map (Param.passed req decode package)) := by
  induction params with
  | nil => rfl
  | cons p rest ih =>
    have hp := Frame.pointer?_cons_of_some [] t (hs p List.mem_cons_self)
    have harg : (Argument.eval ⟨[s], t⟩ p.argument) = some (p.passed req decode package) := by
      cases hrequired : p.required <;>
        simp [Argument.eval, Param.argument, hp, Param.passed, hrequired]
    simp [harg, ih fun q hq => hs q (List.mem_cons_of_mem p hq)]

def start : Scope α :=
  ((Scope.empty.set "w" .other).set "r" .other).set faults (.text "")

variable {packages : List String} {h : Handler}

lemma run_body (hwell : isWellFormed packages (body h) = true) :
    run packages req decode (body h) =
      (execAll req decode
        (h.params.flatMap (verify h.package) ++ [.call h.callExpr (h.params.map Param.argument)])
        ⟨[start], []⟩).map (·.2.trace) := by
  have hliteral : literalText? "" = some "" := literalText?_of_plain (by decide)
  have hfree : ((Scope.empty.set "w" .other).set "r" .other : Scope α) faults = none := by
    rw [Scope.set_of_ne _ _ (by decide), Scope.set_of_ne _ _ (by decide), Scope.empty_apply]
  rw [run, if_pos hwell]
  simp [body, execAll, Statement.exec, TextExpr.eval, hliteral, hfree, start]

lemma ready_start (params : List Param) : Ready (start : Scope α) params where
  no_fault := Scope.set_self ..
  no_raw p _ := by
    rw [start, Scope.set_of_ne _ _ p.rawVar_ne_faults,
      Scope.set_of_ne _ _ (p.rawVar_ne_of_length_le (by decide)),
      Scope.set_of_ne _ _ (p.rawVar_ne_of_length_le (by decide)), Scope.empty_apply]
  no_value p _ := by
    rw [start, Scope.set_of_ne _ _ p.valueVar_ne_faults,
      Scope.set_of_ne _ _ (p.valueVar_ne_of_length_le (by decide)),
      Scope.set_of_ne _ _ (p.valueVar_ne_of_length_le (by decide)), Scope.empty_apply]

lemma run_of_passes (hwell : isWellFormed packages (body h) = true)
    (hnames : (h.params.map Param.name).Nodup)
    (hpass : ∀ p ∈ h.params, ¬p.Fails req decode h.package) :
    run packages req decode (body h) =
      some (h.params.flatMap (Param.lookups req) ++
        [.called h.callExpr (h.params.map (Param.passed req decode h.package))]) := by
  have hready : Ready (start : Scope α) (h.params ++ []) := ready_start _
  have hnames' : ((h.params ++ []).map Param.name).Nodup := by
    rwa [List.append_nil]
  have hargs := mapM_argument ([] ++ h.params.flatMap (Param.lookups req)) fun p hp =>
    foldl_verified_valueVar req decode h.package start hnames hp
  rw [run_body hwell, (exec_verify_all [] hready hnames' hpass _).2]
  simp only [execAll, Statement.exec, hargs]
  simp

lemma run_of_fails (hwell : isWellFormed packages (body h) = true) {before after : List Param}
    (hparams : h.params = before ++ p :: after) (hname : isPlainText p.name = true)
    (hnames : (h.params.map Param.name).Nodup)
    (hbefore : ∀ q ∈ before, ¬q.Fails req decode h.package) (hp : p.Fails req decode h.package) :
    run packages req decode (body h) =
      (p.complaint? req h.package).map fun text =>
        (before ++ [p]).flatMap (Param.lookups req) ++ [.refused teapot text] := by
  rw [hparams] at hnames
  obtain ⟨hready, hexec⟩ := exec_verify_all [] (ready_start (before ++ p :: after)) hnames hbefore
    ((p :: after).flatMap (verify h.package) ++ [.call h.callExpr (h.params.map Param.argument)])
  rw [run_body hwell, hparams, List.flatMap_append, List.append_assoc, ← hparams, hexec,
    List.flatMap_cons, List.append_assoc, exec_verify_of_fails _ hname hready.head hp]
  simp

lemma complaint?_of_present (hpresent : p.raw req ≠ "")
    (hplain : isPlainText (p.goType package) = true) :
    p.complaint? req package =
      some ("param value " ++ p.raw req ++ " cannot be decoded into type " ++ p.goType package ++
        "\n") := by
  have htext : isPlainText (" cannot be decoded into type " ++ p.goType package) = true := by
    rw [isPlainText_append, hplain]
    decide
  rw [Param.complaint?, if_neg hpresent, literalText?_line htext]
  simp [String.append_assoc]

end Verifier

end Routewright
