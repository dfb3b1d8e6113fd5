import Routewright.Proofs.Go.Decoding
import Routewright.Proofs.Server.EmittedCode
import Routewright.Proofs.Server.RouteTable

namespace Routewright

open Go Text

variable {h : Handler}

namespace Verifier

lemma anyDecodes_verify (package : String) (p : Param) :
    anyDecodes (verify package p) = !p.isString := by
  have hfetch : anyDecodes (fetch p) = false := by
    rw [fetch]
    split_ifs <;> rfl
  have hdemand : anyDecodes (demand p) = false := by
    rw [demand]
    split_ifs <;> rfl
  have hdecode : anyDecodes (decode p package) = !p.isString := by
    rw [decode]
    cases p.isString <;> rfl
  have hstop : anyDecodes stop = false := rfl
  rw [verify, anyDecodes_append, anyDecodes_append, anyDecodes_append, hfetch, hdemand, hdecode,
    hstop, Bool.false_or, Bool.false_or, Bool.or_false]

lemma anyDecodes_verify_all (package : String) (params : List Param) :
    anyDecodes (params.flatMap (verify package)) = params.any (!·.isString) := by
  induction params with
  | nil => rfl
  | cons p params ih =>
    rw [List.flatMap_cons, anyDecodes_append, anyDecodes_verify, ih, List.any_cons]

lemma anyDecodes_body (h : Handler) : anyDecodes (body h) = h.needsDecoding := by
  have hdeclare : (Statement.declare faults (.literal "")).decodes = false := rfl
  have hcall : anyDecodes [.call h.callExpr (h.params.map Param.argument)] = false := rfl
  rw [body, anyDecodes, anyDecodes_append, anyDecodes_verify_all, hdeclare, hcall, Bool.false_or,
    Bool.or_false]
  rfl

lemma anyOpensDecoding_body (hh : h.IsSpelled) :
    anyOpensDecoding (statementLines 2 (body h)) = h.needsDecoding := by
  have hread : AreReadable (.declare faults (.literal "") ::
      h.params.flatMap (verify h.package)) :=
    ⟨⟨isName_faults, isLiteralSource_of_plain (by decide)⟩,
      areReadable_verify_all fun p hp => ⟨hh.param p hp, hh.isPlainText_goType hp⟩⟩
  have hchecks : anyOpensDecoding (checkLines h) = h.needsDecoding := by
    rw [checkLines, anyOpensDecoding_statementLines _ 2 hread, anyDecodes, anyDecodes_verify_all]
    exact Bool.false_or _
  have hcall : anyOpensDecoding [callLine h] = false := by
    refine anyOpensDecoding_line ?_
    rw [Handler.callExpr, String.append_assoc, String.append_assoc, String.append_assoc]
    exact opensDecoding_statement hh.package (by decide) _
  rw [statementLines_body, anyOpensDecoding, List.any_append]
  exact (congrArg₂ or hchecks hcall).trans (Bool.or_false _)

end Verifier

namespace Framework

open RouteTable

variable {f : Framework} {kind : FrameworkKind}

lemma opensDecoding_mark (rest : List Char) : opensDecoding (registrationMark ++ rest) = false := by
  have hmark : registrationMark = '\t' :: 'm' :: registrationMark.drop 2 := rfl
  rw [hmark]
  rfl

lemma any_opensDecoding_registration (hh : h.IsSpelled) (r : Route) :
    (linesOf (registration kind r h)).any opensDecoding =
      (kind == .params && h.needsDecoding) := by
  rw [linesOf_registration hh.isNamed, List.any_cons, opensDecoding_mark, Bool.false_or]
  cases kind with
  | http => rfl
  | params =>
    have hbody : ((statementLines 2 (Verifier.body h)).map String.toList).any opensDecoding =
        h.needsDecoding :=
      List.any_map.trans (Verifier.anyOpensDecoding_body hh)
    have hclose : opensDecoding "\t\x7d)".toList = false := by
      decide
    rw [furtherLines, List.map_append, List.any_append, hbody, List.map_singleton, List.any_cons,
      hclose]
    exact Bool.or_false _

lemma any_opensDecoding_bindings {bindings : List Binding}
    (hb : ∀ b ∈ bindings, b.handler.IsSpelled) :
    (bindings.any fun b => (linesOf (registration kind b.route b.handler)).any opensDecoding) =
      (kind == .params && bindings.any fun b => b.handler.needsDecoding) := by
  induction bindings with
  | nil => exact (Bool.and_false _).symm
  | cons b bindings ih =>
    obtain ⟨hb, hbindings⟩ := List.forall_mem_cons.mp hb
    rw [List.any_cons, List.any_cons, any_opensDecoding_registration hb, ih hbindings,
      Bool.and_or_distrib_left]

lemma any_opensDecoding_bootstrap (hf : f.Consistent)
    (hb : ∀ b ∈ f.mux.bindings, b.handler.IsSpelled) :
    (linesOf f.bootstrap.body).any opensDecoding =
      (f.kind == .params && f.mux.bindings.any fun b => b.handler.needsDecoding) := by
  have hfunction : opensDecoding ("func " ++ f.kind.bootstrap ++
      "() (chan error, ShutDowner) \x7b").toList = false := by
    cases f.kind <;> decide
  have hmux : opensDecoding "\tmux := http.NewServeMux()".toList = false := by
    decide
  have hserver : ∀ rest, opensDecoding (serverMark ++ rest) = false := by
    intro rest
    have hmark : serverMark = '\t' :: 's' :: serverMark.drop 2 := rfl
    rw [hmark]
    rfl
  have hrest : (serverLines.map String.toList).any opensDecoding = false := by
    rw [List.any_eq_false]
    simp only [Bool.not_eq_true]
    apply forall_of_map_toList
    · unfold serverLines
      iterate 11 apply map_toList_cons
      rfl
    · decide
  have hempty : opensDecoding [] = false := rfl
  have hregistrations : (f.mux.registrations.flatMap linesOf).any opensDecoding =
      (f.kind == .params && f.mux.bindings.any fun b => b.handler.needsDecoding) := by
    rw [hf.registrations_eq, List.flatMap_map, List.any_flatMap, any_opensDecoding_bindings hb]
  rw [linesOf_bootstrap, List.any_cons, hfunction, List.any_cons, hmux, List.any_append,
    hregistrations, List.any_cons, hempty, List.any_cons, hserver, hrest]
  simp

end Framework

end Routewright
