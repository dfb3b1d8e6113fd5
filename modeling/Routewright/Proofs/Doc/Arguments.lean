import Routewright.Proofs.Doc.Calls
import Routewright.Proofs.Doc.Numbers
import Routewright.Proofs.Go.Escapes

namespace Routewright

open Text

namespace Go

def unsigned : List Char → List Char
  | '+' :: s => s
  | '-' :: s => s
  | s => s

def IsInterpreted (s : List Char) (v : String) : Prop :=
  ∃ xs, Body stringQuote s xs ∧ (∀ x ∈ xs, x.IsBelow 256) ∧
    v.toList.flatMap String.utf8EncodeChar = xs.flatMap Symbol.bytes

def IsRaw (s : List Char) (v : String) : Prop :=
  rawQuote ∉ s ∧ v.toList = s.filter (· ≠ '\r')

def IsRune (s : List Char) (v : String) : Prop :=
  ∃ x, Body runeQuote s [x] ∧ x.IsBelow 256 ∧ v.toList = [x.char]

inductive IsLiteral : List Char → String → Prop
  | interpreted {s : List Char} {v : String} (h : IsInterpreted s v) :
      IsLiteral (quoted stringQuote s) v
  | raw {s : List Char} {v : String} (h : IsRaw s v) : IsLiteral (quoted rawQuote s) v
  | rune {s : List Char} {v : String} (h : IsRune s v) : IsLiteral (quoted runeQuote s) v
  | number {s : List Char} (h : IsNumber (unsigned s)) : IsLiteral s (.ofList s)
  | word {v : String} (h : v ∈ ["true", "false"]) : IsLiteral v.toList v

end Go

namespace Decorator

open Go

/-- What is taken for a literal although it is none, or for another text than it denotes: raw
literals with raw quotes inside, bytes that are no ASCII characters, and numbers that are not tidy. -/
inductive IsSlip : List Char → Prop
  | interpreted {s : List Char} {xs : List Symbol} (hs : Body stringQuote s xs)
      (hxs : ∃ x ∈ xs, ¬x.IsBelow 128) : IsSlip (quoted stringQuote s)
  | raw {s : List Char} (hs : rawQuote ∈ s) : IsSlip (quoted rawQuote s)
  | rune {s : List Char} {x : Symbol} (hs : Body runeQuote s [x]) (hx : ¬x.IsBelow 256) :
      IsSlip (quoted runeQuote s)
  | number {s : List Char} {n : Numeral} (hn : n.IsRead) (htext : n.text = unsigned s)
      (htidy : ¬n.IsTidy) : IsSlip s

section Kinds

variable {q : Char} {s : List Char} {v : String} {n : Numeral}

lemma unsigned_quoted (hq : q ∈ quotes) (s : List Char) : unsigned (quoted q s) = quoted q s := by
  rcases mem_quotes_iff.mp hq with rfl | rfl | rfl <;> rfl

lemma head_of_isNumber (h : IsNumber s) : ∃ c r, s = c :: r ∧ (isDigitOf 10 c = true ∨ c = '.') := by
  rcases h with h | h
  · cases h with
    | decimal _ hs =>
      obtain ⟨c, r, heq, hc⟩ := hs.exists_cons
      exact ⟨c, r, heq, .inl hc⟩
    | octal _ | marked _ _ => exact ⟨'0', _, rfl, .inl (by decide)⟩
  · cases h with
    | fraction hs _ _ | exponent hs _ =>
      obtain ⟨c, r, rfl, hc⟩ := hs.exists_cons
      exact ⟨c, _, rfl, .inl hc⟩
    | point _ _ => exact ⟨'.', _, rfl, .inr rfl⟩
    | hexadecimal _ _ _ => exact ⟨'0', _, rfl, .inl (by decide)⟩

lemma head_of_isRead (h : n.IsRead) :
    ∃ c r, n.text = c :: r ∧ (isDigitOf 10 c = true ∨ c = '.') := by
  cases h with
  | marked _ _ _ => exact ⟨'0', _, rfl, .inl (by decide)⟩
  | @decimal c s _ _ hc _ _ _ => exact ⟨c, _, text_decimal (c :: s) _ _, .inl hc⟩
  | point _ _ => exact ⟨'.', _, rfl, .inr rfl⟩

lemma quote_not_numeral (hq : q ∈ quotes) : ¬(isDigitOf 10 q = true ∨ q = '.') := by
  have hall : ∀ q ∈ quotes, ¬(isDigitOf 10 q = true ∨ q = '.') := by
    decide
  exact hall q hq

lemma isLiteral_quoted (hq : q ∈ quotes) (h : IsLiteral (quoted q s) v) :
    q = stringQuote ∧ IsInterpreted s v ∨ q = rawQuote ∧ IsRaw s v ∨
      q = runeQuote ∧ IsRune s v := by
  generalize htext : quoted q s = text at h
  cases h with
  | interpreted h =>
    obtain ⟨rfl, rfl⟩ := quoted_inj htext
    exact .inl ⟨rfl, h⟩
  | raw h =>
    obtain ⟨rfl, rfl⟩ := quoted_inj htext
    exact .inr (.inl ⟨rfl, h⟩)
  | rune h =>
    obtain ⟨rfl, rfl⟩ := quoted_inj htext
    exact .inr (.inr ⟨rfl, h⟩)
  | number h =>
    rw [← htext, unsigned_quoted hq] at h
    obtain ⟨c, r, heq, hc⟩ := head_of_isNumber h
    rw [← (List.cons.inj heq).1] at hc
    exact absurd hc (quote_not_numeral hq)
  | word hv =>
    have hwords : ∀ v ∈ ["true", "false"], ∀ q ∈ quotes, v.toList.head? ≠ some q := by
      decide
    exact absurd (by rw [← htext]; rfl) (hwords _ hv q hq)

lemma isSlip_quoted (hq : q ∈ quotes) (h : IsSlip (quoted q s)) :
    q = stringQuote ∧ (∃ xs, Body stringQuote s xs ∧ ∃ x ∈ xs, ¬x.IsBelow 128) ∨
      q = rawQuote ∧ rawQuote ∈ s ∨
        q = runeQuote ∧ ∃ x, Body runeQuote s [x] ∧ ¬x.IsBelow 256 := by
  generalize htext : quoted q s = text at h
  cases h with
  | interpreted hs hxs =>
    obtain ⟨rfl, rfl⟩ := quoted_inj htext
    exact .inl ⟨rfl, _, hs, hxs⟩
  | raw hs =>
    obtain ⟨rfl, rfl⟩ := quoted_inj htext
    exact .inr (.inl ⟨rfl, hs⟩)
  | rune hs hx =>
    obtain ⟨rfl, rfl⟩ := quoted_inj htext
    exact .inr (.inr ⟨rfl, _, hs, hx⟩)
  | number hn heq _ =>
    rw [← htext, unsigned_quoted hq] at heq
    obtain ⟨c, r, hhead, hc⟩ := head_of_isRead hn
    rw [← (List.cons.inj (heq.symm.trans hhead)).1] at hc
    exact absurd hc (quote_not_numeral hq)

lemma isLiteral_interpreted_iff : IsLiteral (quoted stringQuote s) v ↔ IsInterpreted s v := by
  refine ⟨fun h => ?_, .interpreted⟩
  simpa [stringQuote, rawQuote, runeQuote] using isLiteral_quoted (by decide) h

lemma isLiteral_raw_iff : IsLiteral (quoted rawQuote s) v ↔ IsRaw s v := by
  refine ⟨fun h => ?_, .raw⟩
  simpa [stringQuote, rawQuote, runeQuote] using isLiteral_quoted (by decide) h

lemma isLiteral_rune_iff : IsLiteral (quoted runeQuote s) v ↔ IsRune s v := by
  refine ⟨fun h => ?_, .rune⟩
  simpa [stringQuote, rawQuote, runeQuote] using isLiteral_quoted (by decide) h

lemma isSlip_interpreted_iff : IsSlip (quoted stringQuote s) ↔
    ∃ xs, Body stringQuote s xs ∧ ∃ x ∈ xs, ¬x.IsBelow 128 := by
  refine ⟨fun h => ?_, fun ⟨_, hxs, hx⟩ => .interpreted hxs hx⟩
  simpa [stringQuote, rawQuote, runeQuote] using isSlip_quoted (by decide) h

lemma isSlip_raw_iff : IsSlip (quoted rawQuote s) ↔ rawQuote ∈ s := by
  refine ⟨fun h => ?_, .raw⟩
  simpa [stringQuote, rawQuote, runeQuote] using isSlip_quoted (by decide) h

lemma isSlip_rune_iff :
    IsSlip (quoted runeQuote s) ↔ ∃ x, Body runeQuote s [x] ∧ ¬x.IsBelow 256 := by
  refine ⟨fun h => ?_, fun ⟨_, hx, hbelow⟩ => .rune hx hbelow⟩
  simpa [stringQuote, rawQuote, runeQuote] using isSlip_quoted (by decide) h

end Kinds

section Exactness

variable {s : List Char} {v : String}

lemma interpreted_exact {xs : List Symbol} (hs : Body stringQuote s xs) :
    IsLiteral (quoted stringQuote s) (.ofList (xs.map Symbol.char)) ↔
      ¬IsSlip (quoted stringQuote s) := by
  rw [isLiteral_interpreted_iff, isSlip_interpreted_iff, IsInterpreted, String.toList_ofList,
    hs.encoded_iff (by decide)]
  constructor
  · rintro hbelow ⟨ys, hys, y, hy, hnot⟩
    obtain rfl := hs.unique (by decide) hys
    exact hnot (hbelow y hy)
  · intro hslip x hx
    by_contra hnot
    exact hslip ⟨xs, hs, x, hx, hnot⟩

lemma raw_exact (s : List Char) : IsLiteral (quoted rawQuote s) (.ofList (s.filter (· ≠ '\r'))) ↔
    ¬IsSlip (quoted rawQuote s) := by
  rw [isLiteral_raw_iff, isSlip_raw_iff, IsRaw, String.toList_ofList]
  exact and_iff_left rfl

lemma rune_exact {x : Symbol} (hs : Body runeQuote s [x]) :
    IsLiteral (quoted runeQuote s) (.ofList [x.char]) ↔ ¬IsSlip (quoted runeQuote s) := by
  have hunique : ∀ {y}, Body runeQuote s [y] → x = y := fun hy =>
    (List.cons.inj (hs.unique (by decide) hy)).1
  rw [isLiteral_rune_iff, isSlip_rune_iff]
  constructor
  · rintro ⟨y, hy, hbelow, -⟩ ⟨z, hz, hnot⟩
    obtain rfl := hunique hy
    obtain rfl := hunique hz
    exact hnot hbelow
  · intro hslip
    refine ⟨x, hs, ?_, String.toList_ofList⟩
    by_contra hnot
    exact hslip ⟨x, hs, hnot⟩

lemma isNumber_eq (s : List Char) : isNumber s = isUnsignedNumber (unsigned s) := by
  unfold isNumber
  split
  · rfl
  · rfl
  · rename_i hplus hminus
    rw [unsigned.eq_3 s hplus hminus]

lemma isLiteral_unquoted (hs : ∀ q ∈ quotes, s.head? ≠ some q) (h : IsLiteral s v) :
    IsNumber (unsigned s) ∨ v ∈ ["true", "false"] ∧ s = v.toList := by
  cases h with
  | interpreted _ => exact absurd rfl (hs stringQuote (by decide))
  | raw _ => exact absurd rfl (hs rawQuote (by decide))
  | rune _ => exact absurd rfl (hs runeQuote (by decide))
  | number h => exact .inl h
  | word h => exact .inr ⟨h, rfl⟩

lemma isSlip_unquoted (hs : ∀ q ∈ quotes, s.head? ≠ some q) (h : IsSlip s) :
    ∃ n : Numeral, n.IsRead ∧ n.text = unsigned s ∧ ¬n.IsTidy := by
  cases h with
  | interpreted _ _ => exact absurd rfl (hs stringQuote (by decide))
  | raw _ => exact absurd rfl (hs rawQuote (by decide))
  | rune _ _ => exact absurd rfl (hs runeQuote (by decide))
  | number hn htext htidy => exact ⟨_, hn, htext, htidy⟩

lemma word_not_numeral {n : Numeral} (hn : n.IsRead) (hv : v ∈ ["true", "false"]) :
    n.text ≠ unsigned v.toList := by
  intro heq
  have hwords : ∀ v ∈ ["true", "false"],
      (unsigned v.toList).head?.any (fun c => isDigitOf 10 c || c == '.') = false := by
    decide
  obtain ⟨c, r, htext, hc⟩ := head_of_isRead hn
  have hhead := hwords v hv
  rw [← heq, htext, List.head?_cons, Option.any_some, Bool.or_eq_false_iff, beq_eq_false_iff_ne]
    at hhead
  rcases hc with hdigit | hpoint
  · rw [hdigit] at hhead
    cases hhead.1
  · exact hhead.2 hpoint

lemma word_exact (hv : v ∈ ["true", "false"]) : IsLiteral v.toList v ↔ ¬IsSlip v.toList := by
  have hplain : ∀ v ∈ ["true", "false"], ∀ q ∈ quotes, v.toList.head? ≠ some q := by
    decide
  refine ⟨fun _ hslip => ?_, fun _ => .word hv⟩
  obtain ⟨n, hn, htext, -⟩ := isSlip_unquoted (hplain v hv) hslip
  exact word_not_numeral hn hv htext

lemma number_exact (hs : ∀ q ∈ quotes, s.head? ≠ some q) (h : isNumber s = true) :
    IsLiteral s (.ofList s) ↔ ¬IsSlip s := by
  rw [isNumber_eq] at h
  obtain ⟨n, hn, htext⟩ := exists_numeral h
  have hiff : ∀ {n : Numeral}, n.IsRead → n.text = unsigned s → (IsNumber (unsigned s) ↔ n.IsTidy) :=
    fun hn htext => htext ▸ hn.isNumber_iff
  constructor
  · intro hliteral hslip
    rcases isLiteral_unquoted hs hliteral with hnumber | ⟨hword, heq⟩
    · obtain ⟨m, hm, hmtext, htidy⟩ := isSlip_unquoted hs hslip
      exact htidy ((hiff hm hmtext).mp hnumber)
    · rw [heq] at htext
      exact word_not_numeral hn hword htext
  · intro hslip
    refine .number ((hiff hn htext).mpr ?_)
    by_contra htidy
    exact hslip (.number hn htext htidy)

lemma isLiteral_iff (htrim : trim s = s) (h : literalValue? s = some v) :
    IsLiteral s v ↔ ¬IsSlip s := by
  unfold literalValue? at h
  split at h
  · cases h
  · rename_i c r
    split_ifs at h with hstring hrune hword
    · obtain ⟨t, ht, rfl⟩ := Option.map_eq_some_iff.mp h
      rw [unquote?_eq_some_iff, htrim] at ht
      rcases ht with ⟨body, hbody, rfl⟩ | ⟨body, xs, hbody, hxs, rfl⟩
      · rw [hbody]
        exact raw_exact body
      · rw [hbody]
        exact interpreted_exact hxs
    · obtain ⟨x, hx, rfl⟩ := Option.map_eq_some_iff.mp h
      rw [unquoteRune?_eq_some_iff, htrim] at hx
      obtain ⟨body, x, hbody, hxs, rfl⟩ := hx
      rw [hbody]
      exact rune_exact hxs
    · obtain rfl := Option.some.inj h
      have hplain : ∀ q ∈ quotes, (c :: r).head? ≠ some q := by
        intro q hq heq
        rw [List.head?_cons] at heq
        obtain rfl := Option.some.inj heq
        rcases mem_quotes_iff.mp hq with hc | hc | hc
        · exact hstring (.inl hc)
        · exact hrune hc
        · exact hstring (.inr hc)
      rcases hword with hword | hword | hnumber
      · rw [hword, String.ofList_toList]
        exact word_exact (by decide)
      · rw [hword, String.ofList_toList]
        exact word_exact (by decide)
      · exact number_exact hplain hnumber

end Exactness

section Calls

variable {c : Layout} {cs : List Layout} {d : Decorator} {ds : List Decorator}
  {line text source value : String}

def Layout.IsText (c : Layout) (text : String) : Prop :=
  ∃ s t, c.Spans s ∧ (∀ b ∈ t, isBlank b = true) ∧ text.toList = s ++ t

def Layout.Denotes (c : Layout) (d : Decorator) : Prop :=
  d.name = c.name ∧ List.Forall₂
    (fun source value => IsLiteral (trim source) value ↔ ¬IsSlip (trim source)) c.sources d.args

def Layout.HasForeign (c : Layout) : Prop :=
  ∃ source ∈ c.sources, ¬IsSlip (trim source) ∧ ∀ value, ¬IsLiteral (trim source) value

lemma literalValue?_of_argument {source : List Char} (h : argument c.name source = .ok value) :
    literalValue? (trim source) = some value := by
  rw [argument] at h
  split at h
  · cases h
  · rename_i value' hvalue
    rw [hvalue, Except.ok.inj h]

lemma issue_of_argument {source : List Char} {issue : DecoratorIssue}
    (h : argument c.name source = .error issue) :
    issue = .notLiteral (.ofList (trim source)) c.name := by
  rw [argument] at h
  split at h
  · exact (Except.error.inj h).symm
  · cases h

lemma Layout.denotes_of_decorator (h : c.decorator = .ok d) : c.Denotes d := by
  obtain ⟨values, hvalues, rfl⟩ := except_map_eq_ok_iff.mp h
  refine ⟨rfl, (except_mapM_eq_ok_iff.mp hvalues).imp fun source value hvalue => ?_⟩
  exact isLiteral_iff (trim_trim source) (literalValue?_of_argument hvalue)

lemma Layout.issue_of_decorator {issue : DecoratorIssue} (h : c.decorator = .error issue) :
    ∃ source ∈ c.sources, issue = .notLiteral (.ofList (trim source)) c.name := by
  obtain ⟨source, hsource, herror⟩ := exists_error_of_mapM (except_map_eq_error_iff.mp h)
  exact ⟨source, hsource, issue_of_argument herror⟩

lemma Layout.HasForeign.decorator_ne_ok (h : c.HasForeign) (d : Decorator) :
    c.decorator ≠ .ok d := by
  intro hd
  obtain ⟨source, hsource, hslip, hliteral⟩ := h
  obtain ⟨values, hvalues, -⟩ := except_map_eq_ok_iff.mp hd
  obtain ⟨value, hvalue⟩ := exists_ok_of_mapM hvalues source hsource
  have hiff := isLiteral_iff (trim_trim source) (literalValue?_of_argument hvalue)
  exact hliteral value (hiff.mpr hslip)

lemma Layout.IsText.ofText_eq (h : c.IsText text) : ofText text = c.decorator := by
  obtain ⟨s, t, hs, ht, htext⟩ := h
  exact ofText_of_call hs ht htext

lemma ofText_of_foreign (h : c.IsText text) (hforeign : c.HasForeign) :
    ∃ source ∈ c.sources, ofText text = .error (.notLiteral (.ofList (trim source)) c.name) := by
  rw [h.ofText_eq]
  cases hdecorator : c.decorator with
  | ok d => exact absurd hdecorator (hforeign.decorator_ne_ok d)
  | error issue =>
    obtain ⟨source, hsource, rfl⟩ := Layout.issue_of_decorator hdecorator
    exact ⟨source, hsource, rfl⟩

lemma ofLine_of_foreign (h : Layout.Fills cs line.toList) (hforeign : ∃ c ∈ cs, c.HasForeign) :
    ∃ c ∈ cs, ∃ source ∈ c.sources,
      ofLine line = .error (.notLiteral (.ofList (trim source)) c.name) := by
  rw [h.ofLine_eq]
  cases hdecorators : cs.mapM Layout.decorator with
  | ok ds =>
    obtain ⟨c, hc, hforeign⟩ := hforeign
    obtain ⟨d, hd⟩ := exists_ok_of_mapM hdecorators c hc
    exact absurd hd (hforeign.decorator_ne_ok d)
  | error issue =>
    obtain ⟨c, hc, herror⟩ := exists_error_of_mapM hdecorators
    obtain ⟨source, hsource, rfl⟩ := Layout.issue_of_decorator herror
    exact ⟨c, hc, source, hsource, rfl⟩

theorem arguments_denote (text : String) :
    (∀ d, ofText text = .ok d →
      (∃ c : Layout, c.IsText text) ∧ ∀ c : Layout, c.IsText text → c.Denotes d) ∧
      (∀ ds, ofLine text = .ok ds → ds ≠ [] →
        (∃ cs, Layout.Fills cs text.toList) ∧
          ∀ cs, Layout.Fills cs text.toList → List.Forall₂ Layout.Denotes cs ds) ∧
        (∀ c : Layout, c.IsText text → c.HasForeign →
          ∃ source ∈ c.sources,
            ofText text = .error (.notLiteral (.ofList (trim source)) c.name)) ∧
          ∀ cs, Layout.Fills cs text.toList → (∃ c ∈ cs, c.HasForeign) →
            ∃ c ∈ cs, ∃ source ∈ c.sources,
              ofLine text = .error (.notLiteral (.ofList (trim source)) c.name) := by
  refine ⟨fun d h => ⟨?_, fun c hc => ?_⟩, fun ds h hne => ⟨?_, fun cs hcs => ?_⟩,
    fun _ => ofText_of_foreign, fun _ => ofLine_of_foreign⟩
  · obtain ⟨c, s, t, hs, ht, htext⟩ := exists_call_of_ofText h
    exact ⟨c, s, t, hs, ht, htext⟩
  · rw [hc.ofText_eq] at h
    exact Layout.denotes_of_decorator h
  · exact exists_calls_of_ofLine h (head_of_ofLine h hne)
  · rw [hcs.ofLine_eq] at h
    exact (except_mapM_eq_ok_iff.mp h).imp fun _ _ => Layout.denotes_of_decorator

theorem arguments_denote_sum :
    (∃ c : Layout, c.IsText "path(\"GET\", '/')") ∧ (∃ cs, Layout.Fills cs "@path(true)".toList) ∧
      ofText "path(\"a\" + \"b\")" = .error (.notLiteral "\"a\" + \"b\"" "path") ∧
        ofLine "@path(\"a\" + \"b\")" = .error (.notLiteral "\"a\" + \"b\"" "path") := by
  have hbody : ∀ xs, ¬Body stringQuote "a\" + \"b".toList xs := by
    intro xs hxs
    have hread : unescape? stringQuote "a\" + \"b".toList = none := by
      decide +kernel
    rw [hxs.unescape?_eq (by decide)] at hread
    cases hread
  let c : Layout := ⟨"path", [quoted stringQuote "a\" + \"b".toList]⟩
  have hforeign : c.HasForeign := by
    refine ⟨_, List.mem_singleton.mpr rfl, ?_⟩
    rw [show trim (quoted stringQuote "a\" + \"b".toList) = quoted stringQuote "a\" + \"b".toList by
      decide]
    refine ⟨fun hslip => ?_, fun value hvalue => ?_⟩
    · obtain ⟨xs, hxs, -⟩ := isSlip_interpreted_iff.mp hslip
      exact hbody xs hxs
    · obtain ⟨xs, hxs, -⟩ := isLiteral_interpreted_iff.mp hvalue
      exact hbody xs hxs
  have ha : Enclosed stringQuote ['a'] := .plain (by decide) (by decide) .nil
  have hb : Enclosed stringQuote ['b'] := .plain (by decide) (by decide) .nil
  have hunbroken : Unbroken "\"a\" + \"b\"".toList :=
    .quoted (by decide) ha (.plain (by decide) (by decide) (.plain (by decide) (by decide)
      (.plain (by decide) (by decide) (.quoted (by decide) hb .nil))))
  have htext : "path(\"a\" + \"b\")".toList =
      c.name.toList ++ [] ++ '(' :: ([','].intercalate c.sources ++ [')']) := by
    decide
  have hspans : c.Spans "path(\"a\" + \"b\")".toList := by
    rw [htext]
    exact .intro (by decide) (by decide)
      (.some (List.forall_mem_singleton.mpr hunbroken) ⟨'a', by decide, by decide⟩)
  have hcall : c.IsText "path(\"a\" + \"b\")" :=
    ⟨_, [], hspans, by simp, (List.append_nil _).symm⟩
  have hline : Layout.Fills [c] "@path(\"a\" + \"b\")".toList :=
    @Layout.Fills.cons [] _ _ _ _ (by decide) hspans (@Layout.Fills.nil [] (by decide))
  refine ⟨((arguments_denote _).1 ⟨"path", ["GET", "/"]⟩ (by decide +kernel)).1,
    ((arguments_denote _).2.1 [⟨"path", ["true"]⟩] (by decide +kernel) (by simp)).1, ?_, ?_⟩
  · obtain ⟨source, hsource, herror⟩ := (arguments_denote _).2.2.1 c hcall hforeign
    rw [herror, List.mem_singleton.mp hsource]
    decide
  · obtain ⟨d, hd, source, hsource, herror⟩ :=
      (arguments_denote _).2.2.2 [c] hline ⟨c, List.mem_singleton.mpr rfl, hforeign⟩
    rw [List.mem_singleton.mp hd] at hsource herror
    rw [herror, List.mem_singleton.mp hsource]
    decide

theorem ofText_joins_raws :
    ofText "path(`GET` + `X`, \"/\")" = .ok ⟨"path", ["GET` + `X", "/"]⟩ ∧
      ∀ value, ¬IsLiteral (quoted rawQuote "GET` + `X".toList) value := by
  refine ⟨by decide +kernel, fun value h => ?_⟩
  obtain ⟨hraw, -⟩ := isLiteral_raw_iff.mp h
  exact hraw (by decide)

end Calls

end Decorator

end Routewright
