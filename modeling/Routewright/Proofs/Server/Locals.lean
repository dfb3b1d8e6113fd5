import Routewright.Proofs.Go.Names
import Routewright.Proofs.Server.RouteTable

namespace Routewright

open Go Text

section Lines

variable {names : List String} {line : List Char}

lemma forall_declaredOn (hw : "w" ∈ names) (hr : "r" ∈ names)
    (h : ∀ n ∈ namesIn (words line), n ∈ names) : ∀ n ∈ declaredOn line, n ∈ names := by
  refine List.forall_mem_append.mpr ⟨?_, h⟩
  split_ifs
  · simp [hw, hr]
  · simp

end Lines

namespace Verifier

variable {h : Handler} {p : Param} {package : String}

lemma isIdentifier_rawVar (hp : Pattern.isIdentifier p.name.toList = true) :
    Pattern.isIdentifier p.rawVar.toList = true := by
  rw [Param.rawVar, String.toList_append]
  exact isIdentifier_append hp (by decide)

lemma isIdentifier_valueVar (hp : Pattern.isIdentifier p.name.toList = true) :
    Pattern.isIdentifier p.valueVar.toList = true := by
  rw [Param.valueVar, String.toList_append]
  exact isIdentifier_append hp (by decide)

lemma areNamed_verify (hp : Pattern.isIdentifier p.name.toList = true) :
    AreNamed (verify package p) := by
  have hraw := isIdentifier_rawVar hp
  have hvalue := isIdentifier_valueVar hp
  have hfaults : Pattern.isIdentifier faults.toList = true := by
    decide
  have hfetch : AreNamed (fetch p) := by
    rw [fetch]
    split_ifs
    · exact ⟨hraw, ⟨hraw, hraw, trivial⟩, trivial⟩
    · exact ⟨hraw, trivial⟩
  have hdemand : AreNamed (demand p) := by
    rw [demand]
    split_ifs
    · exact ⟨⟨hraw, hfaults, trivial⟩, trivial⟩
    · trivial
  have hdecode : AreNamed (decode p package) := by
    rw [decode]
    split_ifs
    · exact ⟨hvalue, ⟨hraw, hvalue, trivial⟩, trivial⟩
    · exact ⟨hvalue, ⟨hraw, ⟨hfaults, trivial⟩, trivial⟩, trivial⟩
  have hstop : AreNamed stop := ⟨⟨hfaults, trivial, trivial, trivial⟩, trivial⟩
  rw [verify, areNamed_append, areNamed_append, areNamed_append]
  exact ⟨⟨⟨hfetch, hdemand⟩, hdecode⟩, hstop⟩

lemma areNamed_verify_all {params : List Param}
    (hparams : ∀ p ∈ params, Pattern.isIdentifier p.name.toList = true) :
    AreNamed (params.flatMap (verify package)) := by
  induction params with
  | nil => trivial
  | cons p params ih =>
    obtain ⟨hp, hparams⟩ := List.forall_mem_cons.mp hparams
    rw [List.flatMap_cons, areNamed_append]
    exact ⟨areNamed_verify hp, ih hparams⟩

lemma areNamed_body (hh : h.IsNamed) : AreNamed (body h) := by
  have hpackage := isField_of_isIdentifier hh.package
  have hname := isField_of_isIdentifier hh.name
  have hcall : IsField h.callExpr.toList ∧ ',' ∉ h.callExpr.toList := by
    have hcallee : h.callExpr.toList = h.package.toList ++ '.' :: h.name.toList := by
      simp [Handler.callExpr]
    rw [hcallee]
    refine ⟨⟨by simp, List.forall_mem_append.mpr ⟨hpackage.not_blank, ?_⟩⟩, ?_⟩
    · exact List.forall_mem_cons.mpr ⟨by decide, hname.not_blank⟩
    · simp [comma_not_mem hh.package, comma_not_mem hh.name]
  have hparams : AreNamed (h.params.flatMap (verify h.package)) :=
    areNamed_verify_all fun p hp => (hh.params p hp).1
  have hfaults : (Statement.declare faults (.literal "")).IsNamed := by
    rw [Statement.IsNamed]
    decide
  rw [body, AreNamed, areNamed_append]
  exact ⟨hfaults, hparams, hcall, trivial⟩

lemma declared_verify (package : String) (p : Param) :
    ∀ n ∈ allDeclared (verify package p), n ∈ ["err", p.rawVar, p.valueVar] := by
  have hfetch : allDeclared (fetch p) = [p.rawVar] := by
    rw [fetch]
    split_ifs <;> rfl
  have hdemand : allDeclared (demand p) = [] := by
    rw [demand]
    split_ifs <;> rfl
  have hdecode : ∀ n ∈ allDeclared (decode p package), n ∈ ["err", p.valueVar] := by
    rw [decode]
    split_ifs <;> simp [allDeclared, Statement.declared]
  have hstop : allDeclared stop = [] := rfl
  rw [verify, allDeclared_append, allDeclared_append, allDeclared_append, hfetch, hdemand, hstop,
    List.append_nil, List.append_nil]
  refine List.forall_mem_append.mpr ⟨by simp, fun n hn => ?_⟩
  rcases List.mem_cons.mp (hdecode n hn) with rfl | hn
  · exact List.mem_cons_self
  · exact List.mem_cons_of_mem _ (List.mem_cons_of_mem _ hn)

def locals (h : Handler) : List String :=
  ["w", "r", faults, "err"] ++ h.params.flatMap fun p => [p.rawVar, p.valueVar]

lemma declared_body (h : Handler) : ∀ n ∈ allDeclared (body h), n ∈ locals h := by
  have hparams : ∀ n ∈ allDeclared (h.params.flatMap (verify h.package)),
      n = "err" ∨ ∃ p ∈ h.params, n ∈ [p.rawVar, p.valueVar] := by
    induction h.params with
    | nil => simp [allDeclared]
    | cons p params ih =>
      rw [List.flatMap_cons, allDeclared_append]
      refine List.forall_mem_append.mpr ⟨fun n hn => ?_, fun n hn => ?_⟩
      · exact (List.mem_cons.mp (declared_verify _ p n hn)).imp_right fun hn =>
          ⟨p, List.mem_cons_self, hn⟩
      · refine (ih n hn).imp_right ?_
        rintro ⟨q, hq, hn⟩
        exact ⟨q, List.mem_cons_of_mem p hq, hn⟩
  rw [body, allDeclared, allDeclared_append]
  refine List.forall_mem_append.mpr ⟨?_, List.forall_mem_append.mpr ⟨fun n hn => ?_, ?_⟩⟩
  · simp [Statement.declared, locals]
  · rcases hparams n hn with rfl | ⟨p, hp, hn⟩
    · simp [locals]
    · exact List.mem_append_right _ (List.mem_flatMap.mpr ⟨p, hp, hn⟩)
  · simp [allDeclared, Statement.declared]

lemma mem_declaredOn_ending {depth : ℕ} {name : String} (ending : String)
    (hending : ending ∈ ["Raw", "Val"]) (h : Pattern.isIdentifier (name ++ ending).toList = true)
    (rest : String) :
    name ++ ending ∈ declaredOn (indent depth (name ++ ending ++ " := " ++ rest)).toList := by
  have hplain : ∀ keyword ∈ "_" :: Lexeme.keywords, ∀ ending ∈ ["Raw", "Val"],
      ¬ending.toList <:+ keyword.toList := by
    decide
  have hfree : name ++ ending ∉ "_" :: Lexeme.keywords := fun hmem =>
    hplain _ hmem ending hending (by simp)
  exact mem_declaredOn_declaration h (List.ne_of_not_mem_cons hfree)
    (List.not_mem_of_not_mem_cons hfree) rest

lemma exists_declares (hh : h.IsNamed) (hp : p ∈ h.params) :
    ∀ n ∈ [p.rawVar, p.valueVar],
      ∃ line ∈ statementLines 2 (body h), n ∈ declaredOn line.toList := by
  have hname := (hh.params p hp).1
  have hbody : ∀ s ∈ verify h.package p, s ∈ body h := fun s hs =>
    List.mem_cons_of_mem _ (List.mem_append_left _ (List.mem_flatMap.mpr ⟨p, hp, hs⟩))
  have hraw : Statement.declare p.rawVar p.lookup ∈ body h :=
    hbody _ (by simp [verify, fetch])
  have hvalue : Statement.allocate p.valueVar (p.goType h.package) ∈ body h :=
    hbody _ (by simp [verify, decode])
  refine List.forall_mem_cons.mpr ⟨?_, List.forall_mem_singleton.mpr ?_⟩
  · refine ⟨_, mem_statementLines hraw List.mem_cons_self, ?_⟩
    exact mem_declaredOn_ending "Raw" (by simp) (isIdentifier_rawVar hname) _
  · refine ⟨_, mem_statementLines hvalue List.mem_cons_self, ?_⟩
    rw [allocation_eq]
    exact mem_declaredOn_ending "Val" (by simp) (isIdentifier_valueVar hname) _

end Verifier

namespace Framework

def bootstrapLocals : List String :=
  ["mux", "server", "errChan", "err", "w", "r", Verifier.faults]

def valueVars (f : Framework) : List String :=
  f.mux.bindings.flatMap fun b =>
    match f.kind with
    | .http => []
    | .params => b.handler.params.flatMap fun p => [p.rawVar, p.valueVar]

variable {f : Framework} {kind : FrameworkKind} {r : Route} {h : Handler}

lemma declared_serverLines :
    (serverLines.map String.toList).flatMap declaredOn = ["errChan", "err"] := by
  apply flatMap_of_map_toList
  · unfold serverLines
    iterate 11 apply map_toList_cons
    rfl
  · decide +kernel

lemma declaredOn_bootstrap (kind : FrameworkKind) :
    declaredOn ("func " ++ kind.bootstrap ++ "() (chan error, ShutDowner) \x7b").toList =
      [kind.bootstrap] := by
  cases kind <;> decide +kernel

lemma declared_serverMark (rest : List Char) :
    ∀ n ∈ declaredOn (RouteTable.serverMark ++ rest), n ∈ bootstrapLocals := by
  have hline : RouteTable.serverMark ++ rest = (indent 1 ("server" ++ " := " ++
      ("&http.Server\x7bAddr: " ++ .ofList rest))).toList := by
    have hmark : RouteTable.serverMark = List.replicate 1 '\t' ++
        ("server".toList ++ " := ".toList ++ "&http.Server\x7bAddr: ".toList) := by
      decide
    simp only [indent, String.toList_append, String.toList_ofList, hmark, List.append_assoc]
  refine forall_declaredOn (by decide) (by decide) fun n hn => ?_
  rw [hline] at hn
  rw [names_of_declaration (by decide) _ n hn]
  decide

lemma declared_registrationMark (rest : List Char) :
    ∀ n ∈ declaredOn (RouteTable.registrationMark ++ rest), n ∈ ["w", "r"] := by
  have hmark : RouteTable.registrationMark = ['\t'] ++ ("mux.HandleFunc".toList ++ ['(']) := by
    decide
  refine forall_declaredOn (by decide) (by decide) ?_
  rw [hmark, List.append_assoc, words_blanks_append (by decide), List.append_assoc,
    List.singleton_append, names_of_parenthesis (by decide) (by decide)]
  intro n hn
  cases hn

lemma declared_furtherLines (hh : h.IsNamed) :
    ∀ n ∈ ((furtherLines kind h).map String.toList).flatMap declaredOn, n ∈ bootstrapLocals ∨
      kind = .params ∧ n ∈ h.params.flatMap fun p => [p.rawVar, p.valueVar] := by
  have hclose : declaredOn "\t\x7d)".toList = [] := by
    decide
  have hfixed : ∀ n ∈ ["w", "r", Verifier.faults, "err"], n ∈ bootstrapLocals := by
    decide
  cases kind with
  | http => simp [furtherLines]
  | params =>
    intro n hn
    obtain ⟨line, hline, hn⟩ := List.mem_flatMap.mp hn
    obtain ⟨text, htext, rfl⟩ := List.mem_map.mp hline
    rcases List.mem_append.mp htext with htext | htext
    · have hmem : n ∈ Verifier.locals h :=
        forall_declaredOn (by simp [Verifier.locals]) (by simp [Verifier.locals])
          (fun n hn => Verifier.declared_body h n
            (mem_allDeclared (Verifier.body h) 2 (Verifier.areNamed_body hh) text htext n hn)) n hn
      exact (List.mem_append.mp hmem).imp (hfixed n) fun hn => ⟨rfl, hn⟩
    · rw [List.mem_singleton.mp htext, hclose] at hn
      cases hn

lemma declared_bootstrap (hf : f.Consistent) (hnamed : ∀ b ∈ f.mux.bindings, b.handler.IsNamed) :
    ∀ n ∈ (linesOf f.bootstrap.body).flatMap declaredOn,
      n ∈ bootstrapLocals ∨ n = f.kind.bootstrap ∨ n ∈ f.valueVars := by
  have hempty : declaredOn [] = [] := rfl
  have hmux : declaredOn "\tmux := http.NewServeMux()".toList = ["mux"] := by
    decide
  have hregistrations : ∀ n ∈ (f.mux.registrations.flatMap linesOf).flatMap declaredOn,
      n ∈ bootstrapLocals ∨ n ∈ f.valueVars := by
    intro n hn
    rw [hf.registrations_eq, List.flatMap_map, List.flatMap_assoc] at hn
    obtain ⟨b, hb, hn⟩ := List.mem_flatMap.mp hn
    rw [linesOf_registration (hnamed b hb), List.flatMap_cons] at hn
    rcases List.mem_append.mp hn with hn | hn
    · exact .inl ((by decide : ∀ n ∈ ["w", "r"], n ∈ bootstrapLocals) n
        (declared_registrationMark _ n hn))
    · refine (declared_furtherLines (hnamed b hb) n hn).imp_right fun ⟨hkind, hn⟩ => ?_
      refine List.mem_flatMap.mpr ⟨b, hb, ?_⟩
      rwa [hkind]
  rw [linesOf_bootstrap, List.flatMap_cons, List.flatMap_cons, List.flatMap_append,
    List.flatMap_cons, List.flatMap_cons, declaredOn_bootstrap, hempty, hmux, declared_serverLines]
  refine List.forall_mem_append.mpr ⟨?_, List.forall_mem_append.mpr ⟨?_, ?_⟩⟩
  · simp
  · simp [bootstrapLocals]
  refine List.forall_mem_append.mpr ⟨fun n hn => (hregistrations n hn).imp_right .inr, ?_⟩
  refine List.forall_mem_append.mpr ⟨by simp, List.forall_mem_append.mpr ⟨fun n hn => .inl ?_, ?_⟩⟩
  · exact declared_serverMark _ n hn
  · simp [bootstrapLocals]

lemma mem_declared_bootstrap (hf : f.Consistent)
    (hnamed : ∀ b ∈ f.mux.bindings, b.handler.IsNamed) :
    ∀ n ∈ f.kind.bootstrap :: f.valueVars, n ∈ (linesOf f.bootstrap.body).flatMap declaredOn := by
  rw [linesOf_bootstrap]
  refine List.forall_mem_cons.mpr ⟨?_, fun n hn => ?_⟩
  · rw [List.flatMap_cons, declaredOn_bootstrap]
    exact List.mem_append_left _ List.mem_cons_self
  obtain ⟨b, hb, hn⟩ := List.mem_flatMap.mp hn
  cases hkind : f.kind with
  | http =>
    rw [hkind] at hn
    cases hn
  | params =>
    rw [hkind] at hn
    obtain ⟨p, hp, hn⟩ := List.mem_flatMap.mp hn
    obtain ⟨line, hline, hn⟩ := Verifier.exists_declares (hnamed b hb) hp n hn
    have hfurther : line.toList ∈ linesOf (registration f.kind b.route b.handler) := by
      rw [linesOf_registration (hnamed b hb), hkind]
      exact List.mem_cons_of_mem _ (List.mem_map_of_mem (List.mem_append_left _ hline))
    have hregistration : line.toList ∈ f.mux.registrations.flatMap linesOf := by
      rw [hf.registrations_eq]
      exact List.mem_flatMap.mpr ⟨_, List.mem_map_of_mem hb, hfurther⟩
    refine List.mem_flatMap.mpr ⟨line.toList, ?_, hn⟩
    exact List.mem_cons_of_mem _ (List.mem_cons_of_mem _ (List.mem_append_left _ hregistration))

end Framework

end Routewright
