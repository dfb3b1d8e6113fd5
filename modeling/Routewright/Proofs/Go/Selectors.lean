import Routewright.Proofs.Go.Identifier
import Routewright.Proofs.Go.Quoting
import Routewright.Proofs.Text.Pieces
import Routewright.Server.Statement

/-! The selectors of a source text: each word that no dot precedes, with the word behind the dot
that follows it. A reader goes through the text character by character and passes over comments and
string literals. -/

namespace Routewright.Go

open Lexeme Text

structure Selector where
  operand : String
  member : String
deriving DecidableEq, Repr

namespace Selector

inductive State
  | between
  | slash
  | comment
  | word (w : List Char)
  | dot (w : List Char)
  | member (w m : List Char)
  /-- Behind a dot that follows no word. -/
  | further
  | literal
  | escape
deriving DecidableEq

section Scanning

-- The characters of words are a parameter, since the letters of the language are a large table.
variable (isWord : Char → Bool)

def State.start (c : Char) : State :=
  if c = stringQuote then literal
  else if c = '/' then slash
  else if c = '.' then further
  else if isWord c then word [c]
  else between

def State.next : State → Char → State
  | between, c => start isWord c
  | slash, c => if c = '/' then comment else start isWord c
  | comment, c => if c = '\n' then between else comment
  | word w, c => if isWord c then word (w ++ [c]) else if c = '.' then dot w else start isWord c
  | dot w, c => if isWord c then member w [c] else start isWord c
  | member w m, c => if isWord c then member w (m ++ [c]) else start isWord c
  | further, c => if isWord c then further else start isWord c
  | literal, c => if c = '\\' then escape else if c = stringQuote then between else literal
  | escape, _ => literal

def State.found : State → Char → List Selector
  | member w m, c => if isWord c then [] else [⟨.ofList w, .ofList m⟩]
  | _, _ => []

def scanWith (s : State) : List Char → State × List Selector
  | [] => (s, [])
  | c :: text =>
    let behind := scanWith (s.next isWord c) text
    (behind.1, s.found isWord c ++ behind.2)

end Scanning

def scan : State → List Char → State × List Selector :=
  scanWith isNameChar

def onLine (line : List Char) : List Selector :=
  (scan .between (line ++ ['\n'])).2

def all (source : String) : List Selector :=
  (linesOf source).flatMap onLine

/-- Whether a text begins and ends between words, and has the given selectors. -/
def AreIn (found : List Selector) (text : List Char) : Prop :=
  scan .between text = (.between, found)

def EndsWord (text : List Char) : Prop :=
  ∃ c rest, text = c :: rest ∧ isNameChar c = false ∧ c ≠ '.'

variable {s t w m : List Char} {found further : List Selector}

lemma scan_nil (a : State) : scan a [] = (a, []) :=
  rfl

lemma scan_cons (a : State) (c : Char) (s : List Char) : scan a (c :: s) =
    ((scan (a.next isNameChar c) s).1, a.found isNameChar c ++ (scan (a.next isNameChar c) s).2) :=
  rfl

lemma scan_append (a : State) (s t : List Char) : scan a (s ++ t) =
    ((scan (scan a s).1 t).1, (scan a s).2 ++ (scan (scan a s).1 t).2) := by
  induction s generalizing a with
  | nil => simp [scan_nil]
  | cons c s ih => rw [List.cons_append, scan_cons, ih, scan_cons, List.append_assoc]

lemma AreIn.append (hs : AreIn found s) (ht : AreIn further t) :
    AreIn (found ++ further) (s ++ t) := by
  rw [AreIn, scan_append, hs, ht]

section Ascii

lemma scanWith_congr {p q : Char → Bool} (h : ∀ c ∈ s, p c = q c) (a : State) :
    scanWith p a s = scanWith q a s := by
  induction s generalizing a with
  | nil => rfl
  | cons c s ih =>
    obtain ⟨hc, hs⟩ := List.forall_mem_cons.mp h
    have hnext : a.next p c = a.next q c := by
      cases a <;> simp only [State.next, State.start, hc]
    have hfound : a.found p c = a.found q c := by
      cases a <;> simp only [State.found, hc]
    rw [scanWith, scanWith, hnext, hfound, ih hs]

def areInAscii (found : List Selector) (text : List Char) : Bool :=
  text.all (·.toNat < 128) && scanWith isAsciiWord .between text == (.between, found)

lemma areIn_of_ascii (h : areInAscii found s = true) : AreIn found s := by
  obtain ⟨hascii, hscan⟩ := Bool.and_eq_true_iff.mp h
  have hchars : ∀ c ∈ s, isNameChar c = isAsciiWord c := fun c hc =>
    isNameChar_of_ascii (of_decide_eq_true (List.all_eq_true.mp hascii c hc))
  rw [AreIn, scan, scanWith_congr hchars]
  exact eq_of_beq hscan

def onAsciiLine (line : List Char) : List Selector :=
  (scanWith isAsciiWord .between (line ++ ['\n'])).2

lemma flatMap_onLine {lines : List (List Char)} (h : ∀ line ∈ lines, ∀ c ∈ line, c.toNat < 128)
    (hlines : lines.flatMap onAsciiLine = found) : lines.flatMap onLine = found := by
  rw [← hlines]
  refine List.flatMap_congr fun line hline => ?_
  have hchars : ∀ c ∈ line ++ ['\n'], isNameChar c = isAsciiWord c := fun c hc =>
    isNameChar_of_ascii ((List.forall_mem_append.mpr ⟨h line hline, by decide⟩) c hc)
  rw [onLine, scan, scanWith_congr hchars]
  rfl

end Ascii

lemma scan_word (hw : ∀ c ∈ w, isNameChar c = true) (x : List Char) :
    scan (.word x) w = (.word (x ++ w), []) := by
  induction w generalizing x with
  | nil => simp [scan_nil]
  | cons c w ih =>
    obtain ⟨hc, hw⟩ := List.forall_mem_cons.mp hw
    rw [scan_cons, State.next, if_pos hc, ih hw, List.append_assoc]
    rfl

lemma scan_member (hm : ∀ c ∈ m, isNameChar c = true) (x y : List Char) :
    scan (.member x y) m = (.member x (y ++ m), []) := by
  induction m generalizing y with
  | nil => simp [scan_nil]
  | cons c m ih =>
    obtain ⟨hc, hm⟩ := List.forall_mem_cons.mp hm
    rw [scan_cons, State.next, if_pos hc, State.found, if_pos hc, ih hm, List.append_assoc]
    rfl

lemma start_of_isNameChar {c : Char} (hc : isNameChar c = true) :
    State.start isNameChar c = .word [c] := by
  have hne : ∀ d : Char, d.toNat < 128 → isAsciiWord d = false → c ≠ d := by
    rintro d hascii hd rfl
    rw [isNameChar_of_ascii hascii, hd] at hc
    cases hc
  have hquote : c ≠ stringQuote := hne _ (by decide) (by decide)
  rw [State.start, if_neg hquote, if_neg (hne _ (by decide) (by decide)),
    if_neg (hne _ (by decide) (by decide)), if_pos hc]

lemma scan_identifier (hw : isIdentifier w = true) : scan .between w = (.word w, []) := by
  have hchars := isNameChar_of_mem hw
  cases w with
  | nil => cases hw
  | cons c w =>
    obtain ⟨hc, hw⟩ := List.forall_mem_cons.mp hchars
    rw [scan_cons, State.next, start_of_isNameChar hc, scan_word hw]
    rfl

lemma AreIn.word (hw : isIdentifier w = true) (he : EndsWord t) (ht : AreIn found t) :
    AreIn found (w ++ t) := by
  obtain ⟨c, rest, rfl, hc, hdot⟩ := he
  have hnext : (State.word w).next isNameChar c = .start isNameChar c := by
    rw [State.next, if_neg (by simp [hc]), if_neg hdot]
  have hend : scan (.word w) (c :: rest) = scan .between (c :: rest) := by
    rw [scan_cons, hnext]
    rfl
  rw [AreIn, scan_append, scan_identifier hw, hend, ht]
  rfl

lemma AreIn.selector (hw : isIdentifier w = true) (hm : isIdentifier m = true) (he : EndsWord t)
    (ht : AreIn found t) : AreIn (⟨.ofList w, .ofList m⟩ :: found) (w ++ '.' :: (m ++ t)) := by
  obtain ⟨c, rest, rfl, hc, hdot⟩ := he
  have hsign : isNameChar '.' = false :=
    isNameChar_of_ascii (by decide)
  have hdotted : scan (.word w) ('.' :: (m ++ c :: rest)) = scan (.dot w) (m ++ c :: rest) := by
    rw [scan_cons, State.next, if_neg (by simp [hsign]), if_pos rfl]
    rfl
  have hmember : scan (.dot w) m = (.member w m, []) := by
    have hchars := isNameChar_of_mem hm
    cases m with
    | nil => cases hm
    | cons d m =>
      obtain ⟨hd, hm⟩ := List.forall_mem_cons.mp hchars
      rw [scan_cons, State.next, if_pos hd, scan_member hm]
      rfl
  have hend : scan (.member w m) (c :: rest) = (.between, ⟨.ofList w, .ofList m⟩ :: found) := by
    have hbetween : scan .between (c :: rest) = (.between, found) := ht
    rw [scan_cons, State.next] at hbetween
    rw [scan_cons, State.next, if_neg (by simp [hc]), State.found, if_neg (by simp [hc])]
    simp only [State.found, List.nil_append, Prod.mk.injEq] at hbetween
    simp only [hbetween, List.singleton_append]
  rw [AreIn, scan_append, scan_identifier hw, hdotted, scan_append, hmember, hend]
  rfl

lemma AreIn.qualified {package name : String} (hp : isIdentifier package.toList = true)
    (hn : isIdentifier name.toList = true) (he : EndsWord t) (ht : AreIn found t) :
    AreIn (⟨package, name⟩ :: found) ((package ++ "." ++ name).toList ++ t) := by
  have hdot : ".".toList = ['.'] := by
    decide
  have hselector := AreIn.selector hp hn he ht
  rw [String.ofList_toList, String.ofList_toList] at hselector
  simp only [String.toList_append, List.append_assoc, hdot]
  exact hselector

lemma areIn_lineEnd : AreIn [] ['\n'] :=
  areIn_of_ascii (by decide)

lemma areIn_closing : AreIn [] (")".toList ++ ['\n']) :=
  areIn_of_ascii (by decide)

lemma areIn_comma : AreIn [] ", ".toList :=
  areIn_of_ascii (by decide)

lemma onLine_of_areIn (h : AreIn found (s ++ ['\n'])) : onLine s = found :=
  congrArg Prod.snd h

example : onLine "f(g.h().i, \"a.b\\\"c.d\", errs...) // x.y".toList = [⟨"g", "h"⟩] :=
  onLine_of_areIn (areIn_of_ascii (by decide +kernel))

lemma endsWord_append {mark : String} (hmark : mark.toList.head?.any fun c =>
    [' ', '(', ')', ',', '\n'].contains c) (t : List Char) : EndsWord (mark.toList ++ t) := by
  have hsigns : ∀ c ∈ [' ', '(', ')', ',', '\n'],
      c.toNat < 128 ∧ isAsciiWord c = false ∧ c ≠ '.' := by
    decide
  obtain ⟨c, hc, hsign⟩ := (Option.any_eq_true _ _).mp hmark
  obtain ⟨rest, hrest⟩ := List.head?_eq_some_iff.mp hc
  obtain ⟨hascii, hend, hdot⟩ := hsigns c (List.contains_iff_mem.mp hsign)
  exact ⟨c, rest ++ t, by rw [hrest]; rfl, by rw [isNameChar_of_ascii hascii, hend], hdot⟩

lemma endsWord_line : EndsWord ['\n'] :=
  ⟨'\n', [], rfl, isNameChar_of_ascii (by decide), by decide⟩

lemma onLine_indent (depth : ℕ) (line : String) :
    onLine (indent depth line).toList = onLine line.toList := by
  have htabs : AreIn [] (List.replicate depth '\t') := by
    induction depth with
    | zero => rfl
    | succ depth ih => exact @AreIn.append ['\t'] _ [] [] (areIn_of_ascii rfl) ih
  have hline : (scan .between (line.toList ++ ['\n'])) = (_, onLine line.toList) := rfl
  have htext : (indent depth line).toList ++ ['\n'] =
      List.replicate depth '\t' ++ (line.toList ++ ['\n']) := by
    simp [indent]
  rw [onLine, htext, scan_append, htabs, hline]
  rfl

section Literals

lemma scan_plain (hs : ∀ c ∈ s, isPlainChar c = true) : scan .literal s = (.literal, []) := by
  induction s with
  | nil => rfl
  | cons c s ih =>
    obtain ⟨hc, hs⟩ := List.forall_mem_cons.mp hs
    obtain ⟨hquote, hslash, -⟩ := ne_of_isPlainChar hc
    have hnext : State.literal.next isNameChar c = .literal := by
      rw [State.next, if_neg hslash, if_neg (show ¬c = stringQuote from hquote)]
    rw [scan_cons, hnext, ih hs]
    rfl

lemma scan_quoteChar (c : Char) : scan .literal (quoteChar c) = (.literal, []) := by
  rcases quoteChar_cases c with ⟨hplain, hc⟩ | ⟨d, hd, -, hc⟩ | ⟨-, hc⟩
  · rw [hc]
    exact scan_plain (List.forall_mem_singleton.mpr hplain)
  · rw [hc]
    rfl
  · have hcut : '\\' :: 'u' :: fourHexDigits c.toNat = ['\\', 'u'] ++ fourHexDigits c.toNat := rfl
    have hescape : scan .literal ['\\', 'u'] = (.literal, []) := rfl
    rw [hc, hcut, scan_append, hescape, scan_plain fun d hd => (mem_fourHexDigits hd).2]
    rfl

lemma areIn_of_literal (h : scan .literal s = (.literal, [])) :
    AreIn [] (stringQuote :: (s ++ [stringQuote])) := by
  have hopen : scan .between [stringQuote] = (.literal, []) := rfl
  have hclose : scan .literal [stringQuote] = (.between, []) := rfl
  rw [← List.singleton_append, AreIn, scan_append, hopen, scan_append, h, hclose]
  rfl

lemma areIn_quoteChars (s : List Char) : AreIn [] (quoteChars s) := by
  refine areIn_of_literal ?_
  induction s with
  | nil => rfl
  | cons c s ih =>
    rw [List.flatMap_cons, scan_append, scan_quoteChar, ih]
    rfl

lemma areIn_plain {source : String} (h : isPlainText source = true) :
    AreIn [] ("\"" ++ source ++ "\"").toList := by
  rw [String.toList_append, String.toList_append, List.append_assoc]
  exact areIn_of_literal (scan_plain (List.all_eq_true.mp h))

lemma areIn_line {source : String} (h : isPlainText source = true) :
    AreIn [] ("\"" ++ (source ++ "\\n") ++ "\"").toList := by
  have hescape : scan .literal "\\n".toList = (.literal, []) := by
    decide
  rw [String.toList_append, String.toList_append, String.toList_append, List.append_assoc]
  refine areIn_of_literal ?_
  rw [scan_append, scan_plain (List.all_eq_true.mp h), hescape]
  rfl

end Literals

end Selector

end Routewright.Go
