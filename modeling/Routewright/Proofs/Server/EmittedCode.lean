import Routewright.Proofs.Go.Reading
import Routewright.Proofs.Server.BootstrapLines
import Routewright.Proofs.Server.Redeclaration

namespace Routewright

open Go

structure Handler.IsSpelled (h : Handler) : Prop where
  package : IsName h.package
  name : isIdentifier h.name.toList = true
  param : ∀ p ∈ h.params, isIdentifier p.name.toList = true
  type : ∀ p ∈ h.params, ∃ type, p.type.Names type ∧ isIdentifier type.toList = true

/-- Whether a handler is a function that other packages can call, of parameters that they can
declare. -/
structure Handler.IsPublic (h : Handler) : Prop extends h.IsSpelled where
  exported : isExported h.name = true
  usable : ∀ p ∈ h.params, ∀ type, p.type.Names type →
    isPredeclared type = true ∧ type ≠ "comparable" ∨ isExported type = true

variable {p : Param} {h : Handler} {package : String}

section Names

lemma isName_ending {name ending : String} (hending : ending ∈ ["Raw", "Val"])
    (hname : isIdentifier name.toList = true) : IsName (name ++ ending) := by
  have hchars : ∀ ending ∈ ["Raw", "Val"], ∀ c ∈ ending.toList, Lexeme.isNameChar c = true := by
    have hascii : ∀ ending ∈ ["Raw", "Val"], ∀ c ∈ ending.toList,
        c.toNat < 128 ∧ isAsciiWord c = true := by
      decide
    intro ending hending c hc
    exact (isNameChar_of_ascii (hascii ending hending c hc).1).trans (hascii ending hending c hc).2
  have hplain : ∀ keyword ∈ "_" :: Lexeme.keywords, ∀ ending ∈ ["Raw", "Val"],
      ¬ending.toList <:+ keyword.toList := by
    decide
  refine ⟨?_, fun hmem => hplain _ hmem ending hending (by simp)⟩
  rw [String.toList_append]
  exact go_isIdentifier_append hname (hchars ending hending)

lemma Param.isName_rawVar (hp : isIdentifier p.name.toList = true) : IsName p.rawVar :=
  isName_ending (by simp) hp

lemma Param.isName_valueVar (hp : isIdentifier p.name.toList = true) : IsName p.valueVar :=
  isName_ending (by simp) hp

lemma Param.valueType_of_names {type : String} (h : p.type.Names type) :
    p.valueType = .ident type := by
  rcases h with h | h <;> rw [Param.valueType, h] <;> rfl

lemma Param.goType_of_names {type : String} (h : p.type.Names type) (package : String) :
    p.goType package = if isPredeclared type then type else package ++ "." ++ type := by
  rw [Param.goType, Param.valueType_of_names h]

lemma isPlainText_of_go {s : String} (h : isIdentifier s.toList = true) : isPlainText s = true :=
  isPlainText_of_isIdentifier (isIdentifier_of_go h)

lemma Handler.IsSpelled.isPlainText_goType (hh : h.IsSpelled) (hp : p ∈ h.params) :
    isPlainText (p.goType h.package) = true := by
  obtain ⟨type, hnames, htype⟩ := hh.type p hp
  rw [Param.goType_of_names hnames]
  split_ifs
  · exact isPlainText_of_go htype
  · rw [isPlainText_append, isPlainText_append, isPlainText_of_go hh.package.1,
      isPlainText_of_go htype]
    decide

lemma Handler.IsSpelled.isNamed (hh : h.IsSpelled) : h.IsNamed where
  package := isIdentifier_of_go hh.package.1
  name := isIdentifier_of_go hh.name
  params p hp := by
    obtain ⟨type, hnames, htype⟩ := hh.type p hp
    refine ⟨isIdentifier_of_go (hh.param p hp), ?_⟩
    rcases hnames with hnames | hnames <;> rw [hnames] <;> exact isIdentifier_of_go htype

end Names

namespace Verifier

lemma isName_faults : IsName faults :=
  isName_of_ascii (by decide) (by decide)

section Reading

lemma isTerm_rawVar (hp : isIdentifier p.name.toList = true) : (TextExpr.var p.rawVar).IsTerm :=
  ⟨(Param.isName_rawVar hp).1, p.rawVar_ne_of_length_le (by decide)⟩

lemma areReadable_fetch (hp : isIdentifier p.name.toList = true) : AreReadable (fetch p) := by
  have hraw := Param.isName_rawVar hp
  have hlookup : p.lookup.IsReadable := by
    rw [Param.lookup]
    cases p.source <;> trivial
  rw [fetch]
  split_ifs
  · exact ⟨⟨hraw, hlookup⟩, ⟨hraw, ⟨hraw, trivial⟩, trivial⟩, trivial⟩
  · exact ⟨⟨hraw, hlookup⟩, trivial⟩

lemma isPlainText_demand (hp : isIdentifier p.name.toList = true) :
    isPlainText ("param '" ++ p.name ++ "' is required") = true := by
  rw [isPlainText_append, isPlainText_append, isPlainText_of_go hp]
  decide

lemma demand_text (name : String) :
    "param '" ++ name ++ "' is required\\n" = "param '" ++ name ++ "' is required" ++ "\\n" := by
  have hline : "' is required\\n" = "' is required" ++ "\\n" := by
    decide
  rw [hline, ← String.append_assoc]

lemma areReadable_demand (hp : isIdentifier p.name.toList = true) : AreReadable (demand p) := by
  have htext : IsLiteralSource ("param '" ++ p.name ++ "' is required\\n") :=
    demand_text p.name ▸ isLiteralSource_line (isPlainText_demand hp)
  rw [demand]
  split_ifs
  · exact ⟨⟨Param.isName_rawVar hp, ⟨isName_faults, htext⟩, trivial⟩, trivial⟩
  · trivial

lemma isPlainText_decode {type : String} (htype : isPlainText type = true) :
    isPlainText (" cannot be decoded into type " ++ type) = true := by
  rw [isPlainText_append, htype]
  decide

lemma areReadable_decode (hp : isIdentifier p.name.toList = true)
    (htype : isPlainText (p.goType package) = true) : AreReadable (decode p package) := by
  have hraw := Param.isName_rawVar hp
  have hvalue := Param.isName_valueVar hp
  have htext : (TextExpr.append (.append (.literal "param value ") (.var p.rawVar))
      (.literal (" cannot be decoded into type " ++ p.goType package ++ "\\n"))).IsReadable :=
    ⟨⟨isLiteralSource_of_plain (by decide), isTerm_rawVar hp⟩,
      isLiteralSource_line (isPlainText_decode htype)⟩
  rw [decode]
  split_ifs
  · exact ⟨hvalue, ⟨hraw, ⟨hvalue, isTerm_rawVar hp⟩, trivial⟩, trivial⟩
  · exact ⟨hvalue, ⟨hraw, ⟨hraw, hvalue, ⟨isName_faults, htext⟩, trivial⟩, trivial⟩, trivial⟩

lemma areReadable_verify (hp : isIdentifier p.name.toList = true)
    (htype : isPlainText (p.goType package) = true) : AreReadable (verify package p) := by
  have hstop : AreReadable stop :=
    ⟨⟨isName_faults, isName_faults, trivial, trivial⟩, trivial⟩
  rw [verify, areReadable_append, areReadable_append, areReadable_append]
  exact ⟨⟨⟨areReadable_fetch hp, areReadable_demand hp⟩, areReadable_decode hp htype⟩, hstop⟩

lemma areReadable_verify_all {params : List Param}
    (h : ∀ p ∈ params, isIdentifier p.name.toList = true ∧
      isPlainText (p.goType package) = true) : AreReadable (params.flatMap (verify package)) := by
  induction params with
  | nil => trivial
  | cons p params ih =>
    obtain ⟨⟨hp, htype⟩, hparams⟩ := List.forall_mem_cons.mp h
    rw [List.flatMap_cons, areReadable_append]
    exact ⟨areReadable_verify hp htype, ih hparams⟩

lemma areReadable_body (hh : h.IsSpelled) (hhttp : h.package ≠ "http") : AreReadable (body h) := by
  have hempty : IsLiteralSource "" := isLiteralSource_of_plain (by decide)
  have hparams : AreReadable (h.params.flatMap (verify h.package)) :=
    areReadable_verify_all fun p hp => ⟨hh.param p hp, hh.isPlainText_goType hp⟩
  have hargs : ∀ a ∈ h.params.map Param.argument, isIdentifier a.name.toList = true :=
    List.forall_mem_map.mpr fun p hp => (Param.isName_valueVar (hh.param p hp)).1
  refine ⟨⟨isName_faults, hempty⟩, areReadable_append.mpr ⟨hparams, ⟨?_, hargs⟩, trivial⟩⟩
  exact ⟨h.package, h.name, rfl, hh.package, hhttp, hh.name⟩

end Reading

section Checking

variable {packages : List String} {b : List (String × Kind)} {x : String} {kind : Kind}

def inside (packages : List String) (b : List (String × Kind)) : Context :=
  ⟨packages, [b, [("mux", .table)]]⟩

lemma kind?_inside (h : b.lookup x = some kind) : (inside packages b).kind? x = some kind := by
  simp [inside, Context.kind?, h]

lemma kind?_inside_of_none (h : b.lookup x = none) (hx : x ≠ "mux") :
    (inside packages b).kind? x = none := by
  have hmux : (x == "mux") = false := beq_false_of_ne hx
  simp [inside, Context.kind?, List.lookup_cons, h, hmux]

lemma kind?_inside_self : (inside packages ((x, kind) :: b)).kind? x = some kind :=
  Context.kind?_cons_self

lemma kind?_inside_of_ne {y : String} (h : x ≠ y) :
    (inside packages ((y, kind) :: b)).kind? x = (inside packages b).kind? x :=
  Context.kind?_cons_of_ne h

lemma declare_inside (hname : IsName x) (h : b.lookup x = none) :
    (inside packages b).declare x kind = some (inside packages ((x, kind) :: b)) :=
  Context.declare_of_new hname h

def imports (h : Handler) : List String :=
  [h.package, "http"] ++ if h.needsDecoding then ["json"] else []

def predeclared (h : Handler) : List String :=
  (if h.needsDecoding then ["new", "byte", "nil"] else ["new"]) ++
    (h.params.map (·.goType h.package)).filter isPredeclared

def scopeNames (h : Handler) : List String :=
  ["mux", "w", "r", faults] ++ paramVars h

/-- Whether the names that the code for a handler takes from a file mean there what they should. -/
structure Resolves (packages : List String) (h : Handler) : Prop where
  imported : ∀ name ∈ imports h, name ∈ packages
  distinct : (imports h).Nodup
  predeclared : ∀ name ∈ predeclared h, name ∉ packages
  visible : h.package ∉ scopeNames h

structure Fits (packages : List String) (h : Handler) (b : List (String × Kind))
    (params : List Param) : Prop where
  writer : b.lookup "w" = some .writer
  request : b.lookup "r" = some .request
  faults : b.lookup faults = some .text
  raw : ∀ p ∈ params, b.lookup p.rawVar = none
  value : ∀ p ∈ params, b.lookup p.valueVar = none
  free : ∀ x ∉ scopeNames h, b.lookup x = none

lemma check_fetch (hp : isIdentifier p.name.toList = true) (hr : b.lookup "r" = some .request)
    (hraw : b.lookup p.rawVar = none) :
    checkAll (inside packages b) (fetch p) = some (inside packages ((p.rawVar, .text) :: b)) := by
  have hne : "r" ≠ p.rawVar := (p.rawVar_ne_of_length_le (by decide)).symm
  have hlookup : p.lookup.isTyped (inside packages b) = true := by
    rw [Param.lookup]
    cases p.source <;> simp [TextExpr.isTyped, kind?_inside hr]
  rw [fetch, checkAll, Statement.check, if_pos hlookup,
    declare_inside (Param.isName_rawVar hp) hraw, Option.bind_some]
  split_ifs
  · simp [checkAll, Statement.check, TextExpr.isTyped, Context.kind?_enter_nil,
      kind?_inside_self, kind?_inside_of_ne hne, kind?_inside hr]
  · rfl

lemma check_demand {c : Context} (hp : isIdentifier p.name.toList = true)
    (hraw : c.kind? p.rawVar = some .text) (hfaults : c.kind? faults = some .text) :
    checkAll c (demand p) = some c := by
  have htext : (literalText? ("param '" ++ p.name ++ "' is required\\n")).isSome = true := by
    rw [demand_text, literalText?_line (isPlainText_demand hp)]
    rfl
  rw [demand]
  split_ifs
  · simp [checkAll, Statement.check, TextExpr.isTyped, Context.kind?_enter_nil, hraw, hfaults,
      htext]
  · rfl

lemma check_decode (hp : isIdentifier p.name.toList = true)
    (htype : isPlainText (p.goType package) = true) {c : Context}
    (hc : c = inside packages ((p.valueVar, .pointer (p.goType package)) :: b))
    (hraw : b.lookup p.rawVar = some .text) (hvalue : b.lookup p.valueVar = none)
    (hfaults : b.lookup faults = some .text)
    (hnew : (inside packages b).seesPredeclared "new" = true)
    (hseen : (inside packages b).seesType (p.goType package) = true)
    (hjson : p.isString = false → c.seesPackage "json" = true ∧
      c.seesPredeclared "byte" = true ∧ c.seesPredeclared "nil" = true) :
    checkAll (inside packages b) (decode p package) = some c := by
  have hplain : (literalText? "param value ").isSome = true := by
    rw [literalText?_of_plain (by decide)]
    rfl
  have htext : (literalText? (" cannot be decoded into type " ++ p.goType package ++
      "\\n")).isSome = true := by
    rw [literalText?_line (isPlainText_decode htype)]
    rfl
  have hrawKind : c.kind? p.rawVar = some .text := by
    rw [hc, kind?_inside_of_ne (p.rawVar_ne_valueVar p), kind?_inside hraw]
  have hvalueKind : c.kind? p.valueVar = some (.pointer (p.goType package)) := by
    rw [hc, kind?_inside_self]
  have hfaultsKind : c.kind? faults = some .text := by
    rw [hc, kind?_inside_of_ne p.valueVar_ne_faults.symm, kind?_inside hfaults]
  rw [decode, checkAll, Statement.check, if_pos ⟨hnew, hseen⟩,
    declare_inside (Param.isName_valueVar hp) hvalue, Option.bind_some, ← hc, checkAll,
    Statement.check, if_pos hrawKind]
  split_ifs with hstring
  · have hgoType := Param.goType_of_isString package hstring
    simp [checkAll, Statement.check, TextExpr.isTyped, Context.kind?_enter_nil, hrawKind,
      hvalueKind, hgoType]
  · obtain ⟨hpackage, hbyte, hnil⟩ := hjson (Bool.eq_false_iff.mpr hstring)
    have hfaultsNe : faults ≠ "err" := by
      decide
    simp [checkAll, Statement.check, TextExpr.isTyped, Argument.isTyped, Context.kind?_enter_nil,
      Context.kind?_enter_err, Context.seesPackage_enter_nil, Context.seesPredeclared_enter_nil,
      hrawKind, hvalueKind, hfaultsKind, hpackage, hbyte, hnil, hplain, htext, hfaultsNe,
      p.rawVar_ne_err]

lemma check_stop {c : Context} (hhttp : c.seesPackage "http" = true)
    (hwriter : c.kind? "w" = some .writer) (hfaults : c.kind? faults = some .text) :
    checkAll c stop = some c := by
  simp [stop, checkAll, Statement.check, Context.kind?_enter_nil, Context.seesPackage_enter_nil,
    hhttp, hwriter, hfaults]

lemma not_mem_scopeNames (hx : x ∈ ["http", "json", "new", "byte", "nil"] ++ predeclaredTypes) :
    x ∉ scopeNames h := by
  have hfixed : ∀ x ∈ ["http", "json", "new", "byte", "nil"] ++ predeclaredTypes,
      x ∉ ["mux", "w", "r", faults] ∧ ¬"Raw".toList <:+ x.toList ∧ ¬"Val".toList <:+ x.toList := by
    decide
  obtain ⟨hnames, hraw, hvalue⟩ := hfixed x hx
  refine fun hmem => (List.mem_append.mp hmem).elim hnames fun hvar => ?_
  obtain ⟨p, -, hvar⟩ := List.mem_flatMap.mp hvar
  rcases List.mem_cons.mp hvar with rfl | hvar
  · exact hraw (by simp [Param.rawVar])
  · obtain rfl := List.mem_singleton.mp hvar
    exact hvalue (by simp [Param.valueVar])

lemma mem_paramVars (hp : p ∈ h.params) : p.rawVar ∈ paramVars h ∧ p.valueVar ∈ paramVars h :=
  ⟨List.mem_flatMap.mpr ⟨p, hp, by simp⟩, List.mem_flatMap.mpr ⟨p, hp, by simp⟩⟩

variable {params : List Param}

lemma Fits.cons (hb : Fits packages h b params) (hx : x ∈ paramVars h) (kind : Kind) :
    Fits packages h ((x, kind) :: b) [] := by
  have hlookup : ∀ y, y ≠ x → ((x, kind) :: b).lookup y = b.lookup y := by
    intro y hy
    rw [List.lookup_cons, beq_false_of_ne hy]
  have hfixed : ∀ y ∈ [Verifier.faults, "w", "r", "err"], y ≠ x := by
    rintro y hy rfl
    exact not_mem_paramVars hy hx
  refine ⟨?_, ?_, ?_, by simp, by simp, fun y hy => ?_⟩
  · rw [hlookup _ (hfixed _ (by simp)), hb.writer]
  · rw [hlookup _ (hfixed _ (by simp)), hb.request]
  · rw [hlookup _ (hfixed _ (by simp)), hb.faults]
  · rw [hlookup, hb.free y hy]
    rintro rfl
    exact hy (List.mem_append_right _ hx)

lemma Fits.kind?_eq_none (hb : Fits packages h b params) (hx : x ∉ scopeNames h) :
    (inside packages b).kind? x = none := by
  refine kind?_inside_of_none (hb.free x hx) ?_
  rintro rfl
  exact hx (by simp [scopeNames])

lemma Fits.seesPackage (hb : Fits packages h b params) (hx : x ∉ scopeNames h)
    (hmem : x ∈ packages) : (inside packages b).seesPackage x = true := by
  rw [Context.seesPackage, hb.kind?_eq_none hx]
  exact List.contains_iff_mem.mpr hmem

lemma Fits.seesPredeclared (hb : Fits packages h b params) (hx : x ∉ scopeNames h)
    (hmem : x ∉ packages) : (inside packages b).seesPredeclared x = true := by
  rw [Context.seesPredeclared, hb.kind?_eq_none hx]
  simpa [inside] using hmem

lemma Fits.seesMember (hb : Fits packages h b params) {name : String} (hpackage : IsName package)
    (hname : isIdentifier name.toList = true) (hexported : isExported name = true)
    (hx : package ∉ scopeNames h) (hmem : package ∈ packages) :
    (inside packages b).seesMember (package ++ "." ++ name) = true := by
  have hpoint : ∀ c ∈ package.toList, (c != '.') = true := by
    intro c hc
    refine bne_iff_ne.mpr ?_
    rintro rfl
    have hchar := isNameChar_of_mem hpackage.1 '.' hc
    rw [not_isNameChar_of_sign '.' (by decide)] at hchar
    cases hchar
  have htext : (package ++ "." ++ name).toList = package.toList ++ '.' :: name.toList := by
    simp
  rw [Context.seesMember, htext, Text.takeWhile_append_cons '.' hpoint (by decide),
    Text.dropWhile_append_cons '.' hpoint (by decide)]
  simp [hb.seesPackage hx hmem, hname, hexported]

lemma Fits.seesType (hb : Fits packages h b params) (hh : h.IsPublic)
    (hr : Resolves packages h) (hp : p ∈ h.params) :
    (inside packages b).seesType (p.goType h.package) = true := by
  have hhidden : ∀ type ∈ predeclaredTypes, isExported type = false := by
    decide +kernel
  have hpoint : ∀ type ∈ predeclaredTypes, '.' ∉ type.toList := by
    decide
  obtain ⟨type, hnames, hident⟩ := hh.type p hp
  have htype := hh.usable p hp type hnames
  have hgoType := Param.goType_of_names hnames h.package
  cases hpre : isPredeclared type with
  | true =>
    have hmem : type ∈ predeclaredTypes := List.contains_iff_mem.mp hpre
    have hcomparable : type ≠ "comparable" := by
      rcases htype with htype | htype
      · exact htype.2
      · rw [hhidden type hmem] at htype
        cases htype
    rw [if_pos hpre] at hgoType
    have hused : type ∈ predeclared h := by
      refine List.mem_append_right _ (List.mem_filter.mpr ⟨List.mem_map.mpr ⟨p, hp, hgoType⟩, hpre⟩)
    have hseen := hb.seesPredeclared (not_mem_scopeNames (List.mem_append_right _ hmem))
      (hr.predeclared type hused)
    rw [hgoType, Context.seesType, if_pos hpre, hseen, Bool.and_true]
    exact bne_iff_ne.mpr hcomparable
  | false =>
    have hexported := htype.resolve_left fun ht => by simp [hpre] at ht
    have hqualified : isPredeclared (h.package ++ "." ++ type) = false := by
      refine Bool.eq_false_iff.mpr fun hmem => ?_
      exact hpoint _ (List.contains_iff_mem.mp hmem) (by simp)
    rw [if_neg (by simp [hpre])] at hgoType
    rw [hgoType, Context.seesType, hqualified]
    exact hb.seesMember hh.package hident hexported hr.visible
      (hr.imported _ (by simp [imports]))

def after (package : String) (b : List (String × Kind)) (p : Param) : List (String × Kind) :=
  (p.valueVar, .pointer (p.goType package)) :: (p.rawVar, .text) :: b

lemma lookup_after_of_ne {x : String} (hraw : x ≠ p.rawVar) (hvalue : x ≠ p.valueVar) :
    (after package b p).lookup x = b.lookup x := by
  rw [after, List.lookup_cons, beq_false_of_ne hvalue, List.lookup_cons, beq_false_of_ne hraw]

lemma Fits.after (hb : Fits packages h b (p :: params)) (hp : p ∈ h.params)
    (hname : p.name ∉ params.map Param.name) :
    Fits packages h (after h.package b p) params := by
  have hne : ∀ q ∈ params, q.name ≠ p.name := fun q hq heq =>
    hname (heq ▸ List.mem_map_of_mem hq)
  obtain ⟨hraw, hvalue⟩ := mem_paramVars hp
  have hcons := (hb.cons hraw .text).cons hvalue (.pointer (p.goType h.package))
  refine ⟨hcons.writer, hcons.request, hcons.faults, fun q hq => ?_, fun q hq => ?_, hcons.free⟩
  · rw [lookup_after_of_ne (fun heq => hne q hq (Param.rawVar_eq_iff.mp heq))
      (q.rawVar_ne_valueVar p)]
    exact hb.raw q (List.mem_cons_of_mem p hq)
  · rw [lookup_after_of_ne (p.rawVar_ne_valueVar q).symm
      (fun heq => hne q hq (Param.valueVar_eq_iff.mp heq))]
    exact hb.value q (List.mem_cons_of_mem p hq)

lemma check_verify (hb : Fits packages h b (p :: params)) (hh : h.IsPublic)
    (hr : Resolves packages h) (hp : p ∈ h.params) :
    checkAll (inside packages b) (verify h.package p) =
      some (inside packages (after h.package b p)) := by
  obtain ⟨hraw, hvalue⟩ := mem_paramVars hp
  have hbraw := hb.cons hraw .text
  have hbvalue := hbraw.cons hvalue (.pointer (p.goType h.package))
  have hident := hh.param p hp
  have hnew : "new" ∈ predeclared h := by
    rw [predeclared]
    split_ifs <;> simp
  have hjson : p.isString = false →
      (inside packages (after h.package b p)).seesPackage "json" = true ∧
        (inside packages (after h.package b p)).seesPredeclared "byte" = true ∧
          (inside packages (after h.package b p)).seesPredeclared "nil" = true := by
    intro hstring
    have hdecoding : h.needsDecoding = true :=
      List.any_eq_true.mpr ⟨p, hp, by simp [hstring]⟩
    exact ⟨hbvalue.seesPackage (not_mem_scopeNames (by simp))
        (hr.imported _ (by simp [imports, hdecoding])),
      hbvalue.seesPredeclared (not_mem_scopeNames (by simp))
        (hr.predeclared _ (by simp [predeclared, hdecoding])),
      hbvalue.seesPredeclared (not_mem_scopeNames (by simp))
        (hr.predeclared _ (by simp [predeclared, hdecoding]))⟩
  have hvalueNew : ((p.rawVar, Kind.text) :: b).lookup p.valueVar = none := by
    rw [List.lookup_cons, beq_false_of_ne (p.rawVar_ne_valueVar p).symm]
    exact hb.value p List.mem_cons_self
  have hdecode := check_decode hident (hh.isPlainText_goType hp) rfl
    (List.lookup_cons_self ..) hvalueNew hbraw.faults
    (hbraw.seesPredeclared (not_mem_scopeNames (by simp)) (hr.predeclared _ hnew))
    (hbraw.seesType hh hr hp) hjson
  rw [verify, checkAll_append, checkAll_append, checkAll_append,
    check_fetch hident hb.request (hb.raw p List.mem_cons_self), Option.bind_some,
    check_demand hident kind?_inside_self (kind?_inside hbraw.faults), Option.bind_some, hdecode,
    Option.bind_some]
  exact check_stop (hbvalue.seesPackage (not_mem_scopeNames (by simp))
    (hr.imported _ (by simp [imports]))) (kind?_inside hbvalue.writer)
    (kind?_inside hbvalue.faults)

lemma lookup_foldl_after (hx : ∀ p ∈ params, x ≠ p.rawVar ∧ x ≠ p.valueVar) :
    (params.foldl (after package) b).lookup x = b.lookup x := by
  induction params generalizing b with
  | nil => rfl
  | cons p params ih =>
    obtain ⟨⟨hraw, hvalue⟩, hrest⟩ := List.forall_mem_cons.mp hx
    rw [List.foldl_cons, ih hrest, lookup_after_of_ne hraw hvalue]

lemma check_verify_all (hb : Fits packages h b params) (hh : h.IsPublic)
    (hr : Resolves packages h) (hparams : ∀ p ∈ params, p ∈ h.params)
    (hnames : (params.map Param.name).Nodup) :
    checkAll (inside packages b) (params.flatMap (verify h.package)) =
        some (inside packages (params.foldl (after h.package) b)) ∧
      Fits packages h (params.foldl (after h.package) b) [] ∧
      ∀ p ∈ params, (params.foldl (after h.package) b).lookup p.valueVar =
        some (.pointer (p.goType h.package)) := by
  induction params generalizing b with
  | nil => exact ⟨rfl, hb, by simp⟩
  | cons p params ih =>
    obtain ⟨hp, hrest⟩ := List.forall_mem_cons.mp hparams
    obtain ⟨hname, hnames⟩ := List.nodup_cons.mp hnames
    obtain ⟨hcheck, hfits, hvalues⟩ := ih (hb.after hp hname) hrest hnames
    refine ⟨?_, hfits, List.forall_mem_cons.mpr ⟨?_, hvalues⟩⟩
    · rw [List.flatMap_cons, checkAll_append, check_verify hb hh hr hp]
      exact hcheck
    · rw [List.foldl_cons, lookup_foldl_after]
      · exact List.lookup_cons_self ..
      · refine fun q hq => ⟨(q.rawVar_ne_valueVar p).symm, fun heq => hname ?_⟩
        rw [Param.valueVar_eq_iff.mp heq]
        exact List.mem_map_of_mem hq

lemma useAll_verify (package : String) (p : Param) : useAll (verify package p) = true := by
  have hne : p.valueVar ≠ p.rawVar := (p.rawVar_ne_valueVar p).symm
  rw [verify, fetch, demand, decode, stop]
  split_ifs <;>
    simp [useAll, anyUses, Statement.usesAll, Statement.uses, Statement.ownVar?, TextExpr.uses,
      hne]

lemma anyUses_faults_verify (package : String) (p : Param) :
    anyUses faults (verify package p) = true := by
  have hown : ∀ s ∈ fetch p ++ demand p ++ decode p package, s.ownVar? ≠ some faults := by
    intro s hs heq
    have hvar : faults ∈ (verify package p).filterMap Statement.ownVar? :=
      List.mem_filterMap.mpr ⟨s, List.mem_append_left _ hs, heq⟩
    rw [ownVar?_verify] at hvar
    simp [p.rawVar_ne_faults.symm, p.valueVar_ne_faults.symm] at hvar
  have hstop : anyUses faults stop = true := by
    decide
  exact anyUses_of_not_own hown hstop

lemma useAll_body (hne : h.params ≠ []) : useAll (body h) = true := by
  have hcall : useAll [.call h.callExpr (h.params.map Param.argument)] = true := rfl
  have hall : ∀ params : List Param, useAll (params.flatMap (verify h.package)) = true := by
    intro params
    induction params with
    | nil => rfl
    | cons p params ih =>
      rw [List.flatMap_cons]
      exact useAll_append (useAll_verify _ p) ih
  have hfaults : anyUses faults (h.params.flatMap (verify h.package) ++
      [.call h.callExpr (h.params.map Param.argument)]) = true := by
    cases hparams : h.params with
    | nil => exact absurd hparams hne
    | cons p params =>
      rw [List.flatMap_cons, List.append_assoc]
      exact anyUses_append (anyUses_faults_verify _ p)
  rw [body, useAll, useAll_append (hall h.params) hcall, Bool.and_true, Bool.and_eq_true]
  exact ⟨rfl, hfaults⟩

lemma fits_start : Fits packages h [(faults, .text), ("w", .writer), ("r", .request)] h.params := by
  have hfixed : ∀ y ∈ [faults, "w", "r", "err"], y ∉ paramVars h := fun y => not_mem_paramVars
  have hfree : ∀ y, y ∉ [faults, "w", "r"] →
      [(faults, Kind.text), ("w", .writer), ("r", .request)].lookup y = none := by
    intro y hy
    simp only [List.mem_cons, List.not_mem_nil, or_false, not_or] at hy
    obtain ⟨hfaults, hw, hr⟩ := hy
    simp [List.lookup_cons, beq_false_of_ne hfaults, beq_false_of_ne hw, beq_false_of_ne hr]
  have hvars : ∀ x ∈ paramVars h, x ∉ [faults, "w", "r"] := by
    intro x hx hmem
    exact hfixed x (List.mem_append_left ["err"] hmem) hx
  refine ⟨by decide, by decide, by decide, fun p hp => hfree _ (hvars _ (mem_paramVars hp).1),
    fun p hp => hfree _ (hvars _ (mem_paramVars hp).2), fun x hx => hfree x fun hmem => hx ?_⟩
  rw [scopeNames]
  simp only [List.mem_cons, List.not_mem_nil, or_false] at hmem
  rcases hmem with rfl | rfl | rfl <;> simp

lemma check_call (hb : Fits packages h b []) (hh : h.IsPublic) (hr : Resolves packages h)
    (hvalues : ∀ p ∈ h.params, b.lookup p.valueVar = some (.pointer (p.goType h.package))) :
    checkAll (inside packages b) [.call h.callExpr (h.params.map Param.argument)] =
      some (inside packages b) := by
  have hmember : (inside packages b).seesMember h.callExpr = true :=
    hb.seesMember hh.package hh.name hh.exported hr.visible (hr.imported _ (by simp [imports]))
  have hargs : (h.params.map Param.argument).all (Argument.isTyped (inside packages b)) = true := by
    refine List.all_eq_true.mpr (List.forall_mem_map.mpr fun p hp => ?_)
    rw [Argument.isTyped, Param.argument, kind?_inside (hvalues p hp)]
    rfl
  rw [checkAll, Statement.check, if_pos ⟨hmember, hargs⟩]
  rfl

lemma isSome_check_body (hh : h.IsPublic) (hnames : (h.params.map Param.name).Nodup)
    (hr : Resolves packages h) :
    (checkAll (inside packages [("w", .writer), ("r", .request)]) (body h)).isSome = true := by
  have hstart : Fits packages h [(faults, .text), ("w", .writer), ("r", .request)] h.params :=
    fits_start
  obtain ⟨hcheck, hfits, hvalues⟩ := check_verify_all hstart hh hr (fun _ hp => hp) hnames
  have hempty : (TextExpr.literal "").isTyped
      (inside packages [("w", .writer), ("r", .request)]) = true := by
    rw [TextExpr.isTyped, literalText?_of_plain (by decide)]
    rfl
  rw [body, checkAll, Statement.check, if_pos hempty, declare_inside isName_faults (by decide),
    Option.bind_some, checkAll_append, hcheck, Option.bind_some, check_call hfits hh hr hvalues]
  rfl

lemma isWellFormed_body (hh : h.IsPublic) (hne : h.params ≠ [])
    (hnames : (h.params.map Param.name).Nodup) (hr : Resolves packages h) :
    isWellFormed packages (body h) = true := by
  have hhttp : "http" ∈ packages := hr.imported _ (by simp [imports])
  have hmux : ("http" == "mux") = false := by
    decide
  have houter : Context.seesPackage ⟨packages, [[("mux", .table)]]⟩ "http" = true := by
    simp [Context.seesPackage, Context.kind?, List.lookup_cons, hmux, hhttp]
  have hbody : (checkAll (Context.enter ⟨packages, [[("mux", .table)]]⟩
      [[("w", .writer), ("r", .request)]]) (body h)).isSome = true :=
    isSome_check_body hh hnames hr
  simp only [isWellFormed, houter, hbody, useAll_body hne, Bool.and_self]

end Checking

end Verifier

end Routewright
