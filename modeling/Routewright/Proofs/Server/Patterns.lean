import Mathlib.Logic.Function.Basic
import Routewright.Proofs.Doc.Decorators
import Routewright.Server.Verifier

namespace Routewright

open Text

namespace Go

/-- Whether the character behind a text is escaped: a backslash stands before it that is not escaped
itself. -/
def escapesNext (s : List Char) : Bool :=
  s.foldl (fun escaped c => !escaped && c == '\\') false

section Quotes

variable {c d : Char} {s t : List Char}

lemma escapesNext_cons (hc : c ≠ '\\') (s : List Char) : escapesNext (c :: s) = escapesNext s := by
  rw [escapesNext, escapesNext, List.foldl_cons, beq_false_of_ne hc, Bool.and_false]

lemma escapesNext_escape (c : Char) (s : List Char) :
    escapesNext ('\\' :: c :: s) = escapesNext s :=
  rfl

lemma escapesNext_of_enclosed (h : Decorator.Enclosed stringQuote s) :
    escapesNext s = false ∧ ∀ before behind, s = before ++ stringQuote :: behind →
      escapesNext before = true := by
  induction h with
  | nil => simp [escapesNext]
  | @plain c s hquote hslash _ ih =>
    have hc : c ≠ '\\' := fun heq => absurd (hslash heq) (by decide)
    refine ⟨by rw [escapesNext_cons hc, ih.1], fun before behind heq => ?_⟩
    cases before with
    | nil => exact absurd (List.cons.inj heq).1 hquote
    | cons d before =>
      obtain ⟨rfl, hrest⟩ := List.cons.inj heq
      rw [escapesNext_cons hc, ih.2 before behind hrest]
  | @escaped c s _ _ ih =>
    refine ⟨by rw [escapesNext_escape, ih.1], fun before behind heq => ?_⟩
    match before with
    | [] => cases (List.cons.inj heq).1
    | [d] =>
      obtain ⟨rfl, -⟩ := List.cons.inj heq
      rfl
    | d :: e :: before =>
      obtain ⟨rfl, hrest⟩ := List.cons.inj heq
      rw [escapesNext_escape, ih.2 before behind (List.cons.inj hrest).2]

lemma not_isControl_of_mem_fourHexDigits {n : ℕ} (h : d ∈ fourHexDigits n) :
    isControl d = false := by
  have hall : ∀ m < 16, isControl (hexDigit m) = false := by
    decide
  simp only [fourHexDigits, List.mem_cons, List.not_mem_nil, or_false] at h
  rcases h with rfl | rfl | rfl | rfl <;> exact hall _ (Nat.mod_lt _ (by decide))

lemma not_isControl_of_mem_quoteChar (h : d ∈ quoteChar c) : isControl d = false := by
  have hletters : ∀ e ∈ '\\' :: 'u' :: escapeLetters, isControl e = false := by
    decide
  rcases quoteChar_cases c with ⟨-, hc⟩ | ⟨e, he, -, hc⟩ | ⟨-, hc⟩
  · -- A control character is never written as itself.
    by_contra hcontrol
    have hd : isControl c = true := by
      rw [hc, List.mem_singleton] at h
      rwa [h, Bool.not_eq_false] at hcontrol
    rw [quoteChar] at hc
    split_ifs at hc <;> simp at hc
  · rw [hc, List.mem_cons, List.mem_singleton] at h
    rcases h with rfl | rfl
    · exact hletters _ List.mem_cons_self
    · exact hletters _ (List.mem_cons_of_mem _ (List.mem_cons_of_mem _ he))
  · rw [hc, List.mem_cons, List.mem_cons] at h
    rcases h with rfl | rfl | h
    · exact hletters _ List.mem_cons_self
    · exact hletters _ (by decide)
    · exact not_isControl_of_mem_fourHexDigits h

lemma quote_injective : Function.Injective quote := by
  intro s t h
  have hread := congrArg (fun l : String => unquote? l.toList) h
  simp only [toList_quote, unquote?_quoteChars, Option.some.injEq] at hread
  exact String.toList_injective hread

end Quotes

end Go

lemma Route.text_injective : Function.Injective Route.text := by
  intro r r' h
  have htext : ∀ r : Route, r.text.toList = r.method.name.toList ++ ' ' :: r.path.toList := by
    intro r
    rw [Route.text, String.toList_append, String.toList_append, List.append_assoc]
    rfl
  -- A method has no blank in its name, so the name ends where the first blank stands.
  have hname : ∀ r : Route, r.text.toList.takeWhile (· != ' ') = r.method.name.toList := by
    intro r
    have hall : ∀ m ∈ Method.all, ∀ c ∈ m.name.toList, (c != ' ') = true := by
      decide
    rw [htext]
    exact takeWhile_append_cons ' ' (hall _ r.method.mem_all) (by decide) _
  have hnames : r.method.name.toList = r'.method.name.toList := by
    rw [← hname r, ← hname r', h]
  have hpaths : r.path.toList = r'.path.toList := by
    have htexts := congrArg String.toList h
    rw [htext, htext, hnames] at htexts
    exact (List.cons.inj (List.append_cancel_left htexts)).2
  obtain ⟨method, path⟩ := r
  obtain ⟨method', path'⟩ := r'
  have hmethod : method = method' := by
    have hnamed := congrArg Method.ofName? (String.toList_injective hnames)
    rw [Method.ofName?_name, Method.ofName?_name] at hnamed
    exact Option.some.inj hnamed
  exact congrArg₂ Route.mk hmethod (String.toList_injective hpaths)

theorem Go.quote_faithful :
    (∀ s, unquote? (quote s).toList = some s.toList ∧
      (∀ c ∈ (quote s).toList, isControl c = false) ∧
        ∃ body, (quote s).toList = stringQuote :: (body ++ [stringQuote]) ∧
          escapesNext body = false ∧ ∀ before behind, body = before ++ stringQuote :: behind →
            escapesNext before = true) ∧
      Function.Injective quote ∧ Function.Injective Route.pattern := by
  refine ⟨fun s => ?_, quote_injective, quote_injective.comp Route.text_injective⟩
  rw [toList_quote]
  refine ⟨unquote?_quoteChars s.toList, ?_, s.toList.flatMap quoteChar, rfl,
    escapesNext_of_enclosed (Decorator.enclosed_flatMap_quoteChar s.toList)⟩
  have hquote : isControl stringQuote = false := by
    decide
  simp only [quoteChars, List.mem_cons, List.mem_append, List.mem_flatMap, List.not_mem_nil,
    or_false]
  rintro c (rfl | ⟨d, -, hc⟩ | rfl)
  · exact hquote
  · exact not_isControl_of_mem_quoteChar hc
  · exact hquote

end Routewright
