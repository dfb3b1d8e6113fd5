import Mathlib.Data.List.TakeWhile
import Routewright.Doc.Decorator
import Routewright.Proofs.Text.Pieces

/-! Numbers, by the grammar of the language and as reading takes them. Reading lets underscores stand
anywhere among the digits and does not mind a zero in front of a decimal number. -/

namespace Routewright

open Text

namespace Go

inductive AreDigits (base : ℕ) : List Char → Prop
  | one {c : Char} (hc : isDigitOf base c = true) : AreDigits base [c]
  | digit {c : Char} {s : List Char} (hc : isDigitOf base c = true) (hs : AreDigits base s) :
      AreDigits base (c :: s)
  | separated {c : Char} {s : List Char} (hc : isDigitOf base c = true) (hs : AreDigits base s) :
      AreDigits base (c :: '_' :: s)

def AreMarkedDigits (base : ℕ) (s : List Char) : Prop :=
  AreDigits base s ∨ ∃ r, s = '_' :: r ∧ AreDigits base r

def baseMarks : List (Char × ℕ) :=
  [('x', 16), ('X', 16), ('b', 2), ('B', 2), ('o', 8), ('O', 8)]

/-- Integer literals. Behind a leading zero, digits without a mark are octal. -/
inductive IsInteger : List Char → Prop
  | decimal {c : Char} {s : List Char} (hc : c ≠ '0') (hs : AreDigits 10 (c :: s)) :
      IsInteger (c :: s)
  | octal {s : List Char} (hs : AreDigits 8 ('0' :: s)) : IsInteger ('0' :: s)
  | marked {c : Char} {base : ℕ} {s : List Char} (hc : (c, base) ∈ baseMarks)
      (hs : AreMarkedDigits base s) : IsInteger ('0' :: c :: s)

inductive IsExponent (marks : List Char) : List Char → Prop
  | intro {c : Char} {sign s : List Char} (hc : c ∈ marks) (hsign : sign ∈ [[], ['+'], ['-']])
      (hs : AreDigits 10 s) : IsExponent marks (c :: (sign ++ s))

inductive IsMantissa : List Char → Prop
  | whole {s : List Char} (hs : AreMarkedDigits 16 s) : IsMantissa s
  | fraction {s t : List Char} (hs : AreMarkedDigits 16 s) (ht : t = [] ∨ AreDigits 16 t) :
      IsMantissa (s ++ '.' :: t)
  | point {t : List Char} (ht : AreDigits 16 t) : IsMantissa ('.' :: t)

inductive IsFloat : List Char → Prop
  | fraction {s t e : List Char} (hs : AreDigits 10 s) (ht : t = [] ∨ AreDigits 10 t)
      (he : e = [] ∨ IsExponent ['e', 'E'] e) : IsFloat (s ++ '.' :: (t ++ e))
  | exponent {s e : List Char} (hs : AreDigits 10 s) (he : IsExponent ['e', 'E'] e) :
      IsFloat (s ++ e)
  | point {t e : List Char} (ht : AreDigits 10 t) (he : e = [] ∨ IsExponent ['e', 'E'] e) :
      IsFloat ('.' :: (t ++ e))
  | hexadecimal {c : Char} {s e : List Char} (hc : c ∈ ['x', 'X']) (hs : IsMantissa s)
      (he : IsExponent ['p', 'P'] e) : IsFloat ('0' :: c :: (s ++ e))

def IsNumber (s : List Char) : Prop :=
  IsInteger s ∨ IsFloat s

def isRunChar (base : ℕ) (c : Char) : Bool :=
  isDigitOf base c || c == '_'

section Digits

variable {base : ℕ} {c : Char} {s t : List Char}

lemma isDigitOf_of_isDigit (h : c.isDigit = true) : isDigitOf 10 c = true := by
  have hdigit : '0' ≤ c ∧ c ≤ '9' := Char.isDigit_iff_toNat.mp h
  have hlt : c.toNat - '0'.toNat < 10 := by
    have hends : '0'.toNat = 48 ∧ '9'.toNat = 57 := ⟨rfl, rfl⟩
    have hle := (Char.isDigit_iff_toNat.mp h).2
    omega
  rw [isDigitOf, digitValue?]
  simp only [if_pos hdigit, if_pos hlt]
  rfl

lemma isDigit_of_isDigitOf (hbase : base ≤ 10) (h : isDigitOf base c = true) :
    c.isDigit = true := by
  obtain ⟨v, hv⟩ := Option.isSome_iff_exists.mp h
  rw [digitValue?] at hv
  obtain ⟨hlt, -⟩ := Option.ite_none_right_eq_some.mp hv
  split_ifs at hlt with hdigit
  · exact Char.isDigit_iff_toNat.mpr hdigit
  all_goals
    omega

lemma isRunChar_of_mark (h : c.isDigit || c == '_') : isRunChar 10 c = true := by
  rcases Bool.or_eq_true_iff.mp h with hc | hc
  · rw [isRunChar, isDigitOf_of_isDigit hc, Bool.true_or]
  · rw [isRunChar, hc, Bool.or_true]

lemma areDigits_of_forall (hne : s ≠ []) (h : ∀ c ∈ s, isDigitOf base c = true) :
    AreDigits base s := by
  induction s with
  | nil => exact absurd rfl hne
  | cons c s ih =>
    obtain ⟨hc, hs⟩ := List.forall_mem_cons.mp h
    cases s with
    | nil => exact .one hc
    | cons d s => exact .digit hc (ih (by simp) hs)

lemma AreDigits.exists_cons (h : AreDigits base s) :
    ∃ c r, s = c :: r ∧ isDigitOf base c = true := by
  cases h with
  | one hc | digit hc _ | separated hc _ => exact ⟨_, _, rfl, hc⟩

lemma AreDigits.ne_nil (h : AreDigits base s) : s ≠ [] := by
  obtain ⟨c, r, rfl, -⟩ := h.exists_cons
  exact List.cons_ne_nil c r

lemma AreDigits.isRunChar (h : AreDigits base s) : ∀ c ∈ s, isRunChar base c = true := by
  have hdigit : ∀ c, isDigitOf base c = true → Go.isRunChar base c = true := by
    intro c hc
    rw [Go.isRunChar, hc, Bool.true_or]
  have hline : Go.isRunChar base '_' = true := by
    rw [Go.isRunChar, Bool.or_eq_true_iff]
    exact .inr rfl
  induction h with
  | one hc => exact List.forall_mem_singleton.mpr (hdigit _ hc)
  | digit hc _ ih => exact List.forall_mem_cons.mpr ⟨hdigit _ hc, ih⟩
  | separated hc _ ih =>
    exact List.forall_mem_cons.mpr ⟨hdigit _ hc, List.forall_mem_cons.mpr ⟨hline, ih⟩⟩

lemma AreDigits.decimal (hbase : base ≤ 10) (h : AreDigits base s) : AreDigits 10 s := by
  have hdigit : ∀ c, isDigitOf base c = true → isDigitOf 10 c = true := fun c hc =>
    isDigitOf_of_isDigit (isDigit_of_isDigitOf hbase hc)
  induction h with
  | one hc => exact .one (hdigit _ hc)
  | digit hc _ ih => exact .digit (hdigit _ hc) ih
  | separated hc _ ih => exact .separated (hdigit _ hc) ih

lemma IsExponent.exists_cons {marks e : List Char} (h : IsExponent marks e) :
    ∃ c r, e = c :: r ∧ c ∈ marks := by
  cases h with
  | intro hc _ _ => exact ⟨_, _, rfl, hc⟩

lemma span_unique {p : Char → Bool} {w w' t t' : List Char} (hw : ∀ c ∈ w, p c = true)
    (hw' : ∀ c ∈ w', p c = true) (ht : ∀ c, t.head? = some c → p c = false)
    (ht' : ∀ c, t'.head? = some c → p c = false) (h : w ++ t = w' ++ t') : w = w' ∧ t = t' := by
  have hdrop : ∀ w t : List Char, (∀ c ∈ w, p c = true) → (∀ c, t.head? = some c → p c = false) →
      (w ++ t).dropWhile p = t := fun w t hw ht => by
    rw [List.dropWhile_append_of_pos hw, dropWhile_eq_self_iff_head.mpr ht]
  have htail : t = t' := by
    rw [← hdrop w t hw ht, h, hdrop w' t' hw' ht']
  rw [htail] at h
  exact ⟨List.append_cancel_right h, htail⟩

end Digits

end Go

namespace Decorator

open Go

inductive Numeral
  | marked (mark : Char) (base : ℕ) (digits : List Char)
  | decimal (whole : List Char) (fraction : Option (List Char)) (exponent : List Char)
  | point (fraction exponent : List Char)

namespace Numeral

def text : Numeral → List Char
  | marked mark _ digits => '0' :: mark :: digits
  | decimal whole none exponent => whole ++ exponent
  | decimal whole (some fraction) exponent => whole ++ '.' :: (fraction ++ exponent)
  | point fraction exponent => '.' :: (fraction ++ exponent)

end Numeral

inductive Numeral.IsRead : Numeral → Prop
  | marked {mark : Char} {base : ℕ} {digits : List Char} (hmark : (mark, base) ∈ baseMarks)
      (hne : digits ≠ []) (hdigits : ∀ c ∈ digits, isRunChar base c = true) :
      IsRead (.marked mark base digits)
  | decimal {c : Char} {s : List Char} {fraction : Option (List Char)} {exponent : List Char}
      (hc : isDigitOf 10 c = true) (hs : ∀ c ∈ s, isRunChar 10 c = true)
      (hfraction : ∀ t ∈ fraction, ∀ c ∈ t, isRunChar 10 c = true)
      (hexponent : exponent = [] ∨ IsExponent ['e', 'E'] exponent) :
      IsRead (.decimal (c :: s) fraction exponent)
  | point {fraction exponent : List Char} (hfraction : AreDigits 10 fraction)
      (hexponent : exponent = [] ∨ IsExponent ['e', 'E'] exponent) : IsRead (.point fraction exponent)

/-- Whether the underscores of a number stand where the grammar has them, and a zero in front is
that of an octal number or of a floating-point number. -/
def Numeral.IsTidy : Numeral → Prop
  | marked _ base digits => AreMarkedDigits base digits
  | decimal whole fraction exponent => AreDigits 10 whole ∧
      (∀ t ∈ fraction, t = [] ∨ AreDigits 10 t) ∧
        (fraction = none → exponent = [] → whole.head? = some '0' → AreDigits 8 whole)
  | point _ _ => True

section Tails

variable {e t : List Char} {fraction : Option (List Char)}

def numeralTail (fraction : Option (List Char)) (exponent : List Char) : List Char :=
  match fraction with
  | none => exponent
  | some t => '.' :: (t ++ exponent)

lemma text_decimal (whole : List Char) (fraction : Option (List Char)) (exponent : List Char) :
    (Numeral.decimal whole fraction exponent).text = whole ++ numeralTail fraction exponent := by
  cases fraction <;> rfl

lemma head_exponent (he : e = [] ∨ IsExponent ['e', 'E'] e) {c : Char} (hc : e.head? = some c) :
    c ∈ ['e', 'E'] := by
  rcases he with rfl | he
  · cases hc
  · obtain ⟨d, r, rfl, hd⟩ := he.exists_cons
    rwa [← Option.some.inj hc]

lemma head_numeralTail (he : e = [] ∨ IsExponent ['e', 'E'] e) {c : Char}
    (hc : (numeralTail fraction e).head? = some c) : c ∈ ['.', 'e', 'E'] := by
  cases fraction with
  | none => exact List.mem_cons_of_mem _ (head_exponent he hc)
  | some t =>
    rw [← Option.some.inj hc]
    exact List.mem_cons_self

lemma not_isRunChar_of_mem {c : Char} (hc : c ∈ ['.', 'e', 'E']) : isRunChar 10 c = false := by
  have hall : ∀ c ∈ ['.', 'e', 'E'], isRunChar 10 c = false := by
    decide
  exact hall c hc

end Tails

section Reading

variable {s e : List Char}

lemma exponent_of_isExponent (h : isExponent e = true) : e = [] ∨ IsExponent ['e', 'E'] e := by
  cases e with
  | nil => exact .inl rfl
  | cons c r =>
    have hcut : ∃ sign ∈ [[], ['+'], ['-']], ∃ t, r = sign ++ t ∧
        ((c == 'e' || c == 'E') && !t.isEmpty && t.all Char.isDigit) = true := by
      unfold isExponent at h
      dsimp only at h
      split at h
      · exact ⟨['+'], by decide, _, rfl, h⟩
      · exact ⟨['-'], by decide, _, rfl, h⟩
      · exact ⟨[], by decide, r, rfl, h⟩
    obtain ⟨sign, hsign, t, rfl, hparts⟩ := hcut
    simp only [Bool.and_eq_true, Bool.or_eq_true, beq_iff_eq, Bool.not_eq_true',
      List.isEmpty_eq_false_iff, List.all_eq_true] at hparts
    obtain ⟨⟨hc, hne⟩, ht⟩ := hparts
    exact .inr (.intro (by simpa using hc) hsign
      (areDigits_of_forall hne fun c hc => isDigitOf_of_isDigit (ht c hc)))

lemma exists_decimal (h : isDecimalNumber s = true) : ∃ n : Numeral, n.IsRead ∧ n.text = s := by
  unfold isDecimalNumber at h
  split at h
  · cases h
  · rename_i r
    simp only [Bool.and_eq_true, Bool.not_eq_true', List.isEmpty_eq_false_iff] at h
    refine ⟨.point (r.takeWhile Char.isDigit) (r.dropWhile Char.isDigit),
      .point (areDigits_of_forall h.1 fun c hc => ?_) (exponent_of_isExponent h.2), ?_⟩
    · exact isDigitOf_of_isDigit (List.mem_takeWhile_imp hc)
    · rw [Numeral.text, List.takeWhile_append_dropWhile]
  · rename_i c r _
    obtain ⟨hc, h⟩ := Bool.and_eq_true_iff.mp h
    have hrun : ∀ t : List Char, ∀ d ∈ (t.takeWhile fun d => d.isDigit || d == '_'),
        isRunChar 10 d = true := fun t d hd =>
      isRunChar_of_mark (List.mem_takeWhile_imp (p := fun d => d.isDigit || d == '_') hd)
    have hcut : r = (r.takeWhile fun d => d.isDigit || d == '_') ++
        r.dropWhile fun d => d.isDigit || d == '_' := List.takeWhile_append_dropWhile.symm
    split at h
    · rename_i t ht
      refine ⟨.decimal _ (some _) _, .decimal (isDigitOf_of_isDigit hc) (hrun r)
        (by simpa using hrun t) (exponent_of_isExponent h), ?_⟩
      rw [Numeral.text, List.takeWhile_append_dropWhile, List.cons_append, ← ht, ← hcut]
    · refine ⟨.decimal _ none _, .decimal (isDigitOf_of_isDigit hc) (hrun r) (by simp)
        (exponent_of_isExponent h), ?_⟩
      rw [Numeral.text, List.cons_append, ← hcut]

lemma exists_numeral (h : isUnsignedNumber s = true) : ∃ n : Numeral, n.IsRead ∧ n.text = s := by
  rcases Bool.or_eq_true_iff.mp h with h | h
  · exact exists_decimal h
  · split at h
    · rename_i c r _
      have hmark : ∃ base, (c, base) ∈ baseMarks ∧ isDigitRun base r = true := by
        simp only [Bool.or_eq_true, Bool.and_eq_true, beq_iff_eq] at h
        rcases h with (⟨rfl | rfl, hr⟩ | ⟨rfl | rfl, hr⟩) | ⟨rfl | rfl, hr⟩ <;>
          exact ⟨_, by decide, hr⟩
      obtain ⟨base, hbase, hr⟩ := hmark
      rw [isDigitRun, Bool.and_eq_true_iff] at hr
      exact ⟨.marked c base r, .marked hbase (by simpa using hr.1) (List.all_eq_true.mp hr.2), rfl⟩
    · cases h

end Reading

section Tidiness

variable {base : ℕ} {mark c d : Char} {s t u : List Char} {n : Numeral}

lemma mark_cases (h : (mark, base) ∈ baseMarks) :
    isRunChar 10 mark = false ∧ mark ∉ ['.', 'e', 'E'] ∧ isRunChar 8 mark = false ∧
      isRunChar base 'p' = false ∧ isRunChar base 'P' = false := by
  have hall : ∀ x ∈ baseMarks, isRunChar 10 x.1 = false ∧ x.1 ∉ ['.', 'e', 'E'] ∧
      isRunChar 8 x.1 = false ∧ isRunChar x.2 'p' = false ∧ isRunChar x.2 'P' = false := by
    decide
  exact hall _ h

lemma base_unique {base' : ℕ} (h : (mark, base) ∈ baseMarks) (h' : (mark, base') ∈ baseMarks) :
    base = base' := by
  have hall : ∀ x ∈ baseMarks, ∀ y ∈ baseMarks, x.1 = y.1 → x.2 = y.2 := by
    decide
  exact hall _ h _ h' rfl

lemma second_of_run (hs : ∀ c ∈ s, isRunChar 10 c = true) (hne : s ≠ [])
    (ht : ∀ c, t.head? = some c → c ∈ ['.', 'e', 'E']) (h : s ++ t = d :: mark :: u) :
    isRunChar 10 mark = true ∨ mark ∈ ['.', 'e', 'E'] := by
  cases s with
  | nil => exact absurd rfl hne
  | cons c s =>
    have hrest : s ++ t = mark :: u := (List.cons.inj h).2
    cases s with
    | nil =>
      rw [List.nil_append] at hrest
      exact .inr (ht mark (by rw [hrest]; rfl))
    | cons c' s =>
      rw [← (List.cons.inj hrest).1]
      exact .inl (hs c' (by simp))

lemma mark_of_run (hmark : (mark, base) ∈ baseMarks) (hs : ∀ c ∈ s, isRunChar 10 c = true)
    (hne : s ≠ []) (ht : ∀ c, t.head? = some c → c ∈ ['.', 'e', 'E']) :
    s ++ t ≠ d :: mark :: u := by
  intro h
  obtain ⟨hrun, hpoint, -⟩ := mark_cases hmark
  rcases second_of_run hs hne ht h with hmem | hmem
  · rw [hrun] at hmem
    cases hmem
  · exact hpoint hmem

lemma markedDigits_of_isNumber (hmark : (mark, base) ∈ baseMarks)
    (hs : ∀ c ∈ s, isRunChar base c = true) (h : IsNumber ('0' :: mark :: s)) :
    AreMarkedDigits base s := by
  generalize htext : '0' :: mark :: s = text at h
  rcases h with h | h
  · cases h with
    | decimal hc _ => exact absurd (List.cons.inj htext).1.symm hc
    | octal hdigits =>
      rw [← htext] at hdigits
      have hrun := hdigits.isRunChar mark (by simp)
      rw [(mark_cases hmark).2.2.1] at hrun
      cases hrun
    | marked hc hdigits =>
      obtain ⟨-, hrest⟩ := List.cons.inj htext
      obtain ⟨rfl, rfl⟩ := List.cons.inj hrest
      rwa [base_unique hmark hc]
  · cases h with
    | @fraction w t e hw ht he =>
      exact absurd htext.symm (mark_of_run hmark hw.isRunChar hw.ne_nil
        (fun c hc => by rw [← Option.some.inj hc]; exact List.mem_cons_self))
    | exponent hw he =>
      exact absurd htext.symm (mark_of_run hmark hw.isRunChar hw.ne_nil
        fun c hc => List.mem_cons_of_mem _ (head_exponent (.inr he) hc))
    | point _ _ => exact absurd (List.cons.inj htext).1 (by decide)
    | hexadecimal hc hm he =>
      obtain ⟨-, hrest⟩ := List.cons.inj htext
      obtain ⟨rfl, rfl⟩ := List.cons.inj hrest
      obtain ⟨d, r, rfl, hd⟩ := he.exists_cons
      have hrun := hs d (by simp)
      obtain ⟨-, -, -, hp, hP⟩ := mark_cases hmark
      simp only [List.mem_cons, List.not_mem_nil, or_false] at hd
      rcases hd with rfl | rfl
      · rw [hp] at hrun
        cases hrun
      · rw [hP] at hrun
        cases hrun

variable {w e : List Char} {fraction : Option (List Char)}

lemma numeralTail_eq_nil (h : numeralTail fraction e = []) : fraction = none ∧ e = [] := by
  cases fraction with
  | none => exact ⟨rfl, h⟩
  | some t => cases h

lemma parts_unique (hs : ∀ c ∈ s, isRunChar 10 c = true) (he : e = [] ∨ IsExponent ['e', 'E'] e)
    (hw : AreDigits 10 w) (ht : ∀ c, t.head? = some c → c ∈ ['.', 'e', 'E'])
    (h : s ++ numeralTail fraction e = w ++ t) : s = w ∧ numeralTail fraction e = t :=
  span_unique hs hw.isRunChar (fun _ hc => not_isRunChar_of_mem (head_numeralTail he hc))
    (fun c hc => not_isRunChar_of_mem (ht c hc)) h

lemma fraction_unique (hfraction : ∀ t ∈ fraction, ∀ c ∈ t, isRunChar 10 c = true)
    (he : e = [] ∨ IsExponent ['e', 'E'] e) {e' : List Char} (ht : t = [] ∨ AreDigits 10 t)
    (he' : e' = [] ∨ IsExponent ['e', 'E'] e') (h : numeralTail fraction e = '.' :: (t ++ e')) :
    fraction = some t := by
  cases fraction with
  | none =>
    rw [numeralTail] at h
    have hhead : '.' ∈ ['e', 'E'] := head_exponent he (by rw [h]; rfl)
    exact absurd hhead (by decide)
  | some u =>
    have hrun : ∀ c ∈ t, isRunChar 10 c = true := by
      rcases ht with rfl | ht
      · simp
      · exact ht.isRunChar
    have hexponent : ∀ {e : List Char}, e = [] ∨ IsExponent ['e', 'E'] e →
        ∀ c, e.head? = some c → isRunChar 10 c = false := fun he c hc =>
      not_isRunChar_of_mem (List.mem_cons_of_mem _ (head_exponent he hc))
    rw [(span_unique (hfraction u rfl) hrun (hexponent he) (hexponent he') (List.cons.inj h).2).1]

lemma tidy_of_isNumber (hd : isDigitOf 10 d = true) (hs : ∀ c ∈ d :: s, isRunChar 10 c = true)
    (hfraction : ∀ t ∈ fraction, ∀ c ∈ t, isRunChar 10 c = true)
    (he : e = [] ∨ IsExponent ['e', 'E'] e)
    (h : IsNumber (d :: s ++ numeralTail fraction e)) :
    (Numeral.decimal (d :: s) fraction e).IsTidy := by
  generalize htext : d :: s ++ numeralTail fraction e = text at h
  -- Whatever literal the text is, its digits end where the whole part of the number ends.
  have hdigits : ∀ {w}, AreDigits 10 w → d :: s ++ numeralTail fraction e = w →
      d :: s = w ∧ fraction = none ∧ e = [] := fun {w} hw h => by
    rw [← List.append_nil w] at h
    obtain ⟨heq, hnil⟩ := parts_unique hs he hw (by simp) h
    exact ⟨heq, numeralTail_eq_nil hnil⟩
  rcases h with h | h
  · cases h with
    | decimal hc hw =>
      obtain ⟨heq, rfl, rfl⟩ := hdigits hw htext
      rw [heq]
      exact ⟨hw, by simp, fun _ _ hhead => absurd (Option.some.inj hhead) hc⟩
    | octal hw =>
      obtain ⟨heq, rfl, rfl⟩ := hdigits (hw.decimal (by decide)) htext
      rw [heq]
      exact ⟨hw.decimal (by decide), by simp, fun _ _ _ => hw⟩
    | marked hc _ =>
      exact absurd htext (mark_of_run hc hs (by simp) fun c hc => head_numeralTail he hc)
  · cases h with
    | @fraction w t e' hw ht he' =>
      obtain ⟨heq, htail⟩ := parts_unique hs he hw
        (fun c hc => by rw [← Option.some.inj hc]; exact List.mem_cons_self) htext
      rw [heq, fraction_unique hfraction he ht he' htail]
      exact ⟨hw, by simpa using ht, by simp⟩
    | @exponent w e' hw he' =>
      obtain ⟨heq, htail⟩ := parts_unique hs he hw
        (fun c hc => List.mem_cons_of_mem _ (head_exponent (.inr he') hc)) htext
      obtain ⟨c, r, rfl, hc⟩ := he'.exists_cons
      cases fraction with
      | none =>
        rw [heq]
        refine ⟨hw, by simp, fun _ hnil => ?_⟩
        rw [numeralTail, hnil] at htail
        cases htail
      | some t =>
        rw [← (List.cons.inj htail).1] at hc
        exact absurd hc (by decide)
    | point _ _ =>
      rw [(List.cons.inj htext).1] at hd
      exact absurd hd (by decide)
    | hexadecimal hc _ _ =>
      have hmark : ∀ c ∈ ['x', 'X'], (c, 16) ∈ baseMarks := by
        decide
      exact absurd htext
        (mark_of_run (hmark _ hc) hs (by simp) fun c hc => head_numeralTail he hc)

lemma Numeral.IsRead.isNumber_iff (h : n.IsRead) : IsNumber n.text ↔ n.IsTidy := by
  cases h with
  | @marked mark base digits hmark hne hdigits =>
    exact ⟨markedDigits_of_isNumber hmark hdigits, fun h => .inl (.marked hmark h)⟩
  | @decimal c s fraction e hc hs hfraction he =>
    have hrun : ∀ d ∈ c :: s, isRunChar 10 d = true :=
      List.forall_mem_cons.mpr ⟨by rw [isRunChar, hc, Bool.true_or], hs⟩
    rw [text_decimal]
    refine ⟨tidy_of_isNumber hc hrun hfraction he, fun ⟨hdigits, htidy, hoctal⟩ => ?_⟩
    cases fraction with
    | some t => exact .inr (.fraction hdigits (htidy t rfl) he)
    | none =>
      rcases he with rfl | he
      · rw [numeralTail, List.append_nil]
        by_cases hzero : c = '0'
        · rw [hzero] at hoctal ⊢
          exact .inl (.octal (hoctal rfl rfl rfl))
        · exact .inl (.decimal hzero hdigits)
      · exact .inr (.exponent hdigits he)
  | point hfraction he => exact ⟨fun _ => trivial, fun _ => .inr (.point hfraction he)⟩

end Tidiness

end Decorator

end Routewright
