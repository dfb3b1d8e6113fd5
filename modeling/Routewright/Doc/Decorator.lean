import Routewright.Failure
import Routewright.Go.Literal
import Routewright.Text.Letters
import Routewright.Text.Split

/-!
Decorators: calls such as `@path("GET", "/items")` in a doc comment.

Every argument is one literal. A line may hold several decorators with blanks between them.
-/

namespace Routewright

open Text

structure Decorator where
  name : String
  args : List String
deriving DecidableEq, Repr

namespace Decorator

def knownNames : List String := ["path"]

def isLine (line : List Char) : Bool :=
  match (words line).head? with
  | some (c :: r) => c == '@' && r.contains '('
  | _ => false

def isNameChar (c : Char) : Bool :=
  isAlphanumeric c || c == '_' || c == '.'

structure RawArgument where
  text : List Char
  more : Bool
  rest : List Char

/-- Reads up to the first comma or closing parenthesis outside quotes; `quote` is the quote that
is open and `escaped` tells that a backslash stands before the text. -/
def splitArgument (quote : Option Char) (escaped : Bool) : List Char → Option RawArgument
  | [] => none
  | c :: r =>
    let step (quote : Option Char) (escaped : Bool) :=
      (splitArgument quote escaped r).map fun a => { a with text := c :: a.text }
    match quote with
    | some q =>
      if escaped then step quote false
      else if c = '\\' ∧ q ≠ Go.rawQuote then step quote true
      else if c = q then step none false
      else step quote false
    | none =>
      if c = Go.stringQuote ∨ c = Go.runeQuote ∨ c = Go.rawQuote then step (some c) false
      else if c = ',' ∨ c = ')' then some ⟨[], c == ',', r⟩
      else step none false

def isExponent : List Char → Bool
  | [] => true
  | e :: r =>
    let digits := match r with
      | '+' :: t => t
      | '-' :: t => t
      | _ => r
    (e == 'e' || e == 'E') && !digits.isEmpty && digits.all Char.isDigit

def isDecimalNumber : List Char → Bool
  | [] => false
  | '.' :: r => !(r.takeWhile Char.isDigit).isEmpty && isExponent (r.dropWhile Char.isDigit)
  | c :: r =>
    let isDigitMark (d : Char) := d.isDigit || d == '_'
    c.isDigit &&
      match r.dropWhile isDigitMark with
      | '.' :: t => isExponent (t.dropWhile isDigitMark)
      | t => isExponent t

def isDigitRun (base : Nat) (s : List Char) : Bool :=
  !s.isEmpty && s.all fun c => isDigitOf base c || c == '_'

def isUnsignedNumber (s : List Char) : Bool :=
  isDecimalNumber s ||
    match s with
    | '0' :: c :: r =>
      ((c == 'x' || c == 'X') && isDigitRun 16 r) || ((c == 'b' || c == 'B') && isDigitRun 2 r) ||
        ((c == 'o' || c == 'O') && isDigitRun 8 r)
    | _ => false

def isNumber (s : List Char) : Bool :=
  match s with
  | '+' :: r => isUnsignedNumber r
  | '-' :: r => isUnsignedNumber r
  | _ => isUnsignedNumber s

def literalValue? (raw : List Char) : Option String :=
  match raw with
  | [] => none
  | c :: _ =>
    if c = Go.stringQuote ∨ c = Go.rawQuote then (Go.unquote? raw).map String.ofList
    else if c = Go.runeQuote then (Go.unquoteRune? raw).map fun x => String.ofList [x]
    else if raw = "true".toList ∨ raw = "false".toList ∨ isNumber raw then some (.ofList raw)
    else none

structure Call where
  name : String
  source : String
  args : List String

def Call.finish (call : Call) : Decorator where
  name := call.name
  args := call.args.reverse

abbrev Reading (α : Type) := Except DecoratorIssue (α × List Char)

theorem splitArgument_eq {quote : Option Char} {escaped : Bool} {s : List Char} {a : RawArgument}
    (h : splitArgument quote escaped s = some a) :
    s = a.text ++ (if a.more then ',' else ')') :: a.rest := by
  induction s generalizing quote escaped a with
  | nil => simp [splitArgument] at h
  | cons c r ih =>
    have step {quote escaped} (h : (splitArgument quote escaped r).map
        (fun a => { a with text := c :: a.text }) = some a) :
        c :: r = a.text ++ (if a.more then ',' else ')') :: a.rest := by
      obtain ⟨b, hb, rfl⟩ := Option.map_eq_some_iff.1 h
      simpa using ih hb
    unfold splitArgument at h
    dsimp only at h
    split at h
    · split at h
      · exact step h
      · split at h
        · exact step h
        · split at h <;> exact step h
    · split at h
      · exact step h
      · split at h
        · rename_i hc
          obtain rfl := Option.some.inj h
          rcases hc with rfl | rfl <;> simp
        · exact step h

theorem length_trimStart_le (s : List Char) : (trimStart s).length ≤ s.length :=
  (List.dropWhile_sublist _).length_le

theorem length_rest_lt {s : List Char} {a : RawArgument}
    (h : splitArgument none false (trimStart s) = some a) : a.rest.length < s.length := by
  have h₁ := congrArg List.length (splitArgument_eq h)
  have h₂ := length_trimStart_le s
  simp only [List.length_append, List.length_cons] at h₁
  omega

def readArgs (call : Call) (s : List Char) : Reading Decorator :=
  match _h : splitArgument none false (trimStart s) with
  | none => .error (.unterminated call.source)
  | some arg =>
    match literalValue? (trim arg.text) with
    | none => .error (.notLiteral (.ofList (trim arg.text)) call.name)
    | some value =>
      let call := { call with args := value :: call.args }
      if arg.more then readArgs call arg.rest else .ok (call.finish, arg.rest)
termination_by s.length
decreasing_by exact length_rest_lt _h

def read (source : String) (s : List Char) : Reading Decorator :=
  let name := s.takeWhile isNameChar
  let named := String.ofList name
  if name.isEmpty || name.head?.any Char.isDigit then .error (.noName (trimmed source))
  else if name.contains '.' || !knownNames.contains named then .error (.unknownName named)
  else
    match trimStart (s.dropWhile isNameChar) with
    | '(' :: r =>
      match trimStart r with
      | ')' :: t => .ok (⟨named, []⟩, t)
      | t => readArgs ⟨named, trimmed source, []⟩ t
    | _ => .error (.notCall named)

theorem length_readArgs_lt {call : Call} {s t : List Char} {d : Decorator}
    (h : readArgs call s = .ok (d, t)) : t.length < s.length := by
  induction hn : s.length using Nat.strongRecOn generalizing call s with
  | ind n ih =>
    subst hn
    rw [readArgs] at h
    split at h
    · simp at h
    · rename_i arg ha
      have hlt := length_rest_lt ha
      split at h
      · simp at h
      · dsimp only at h
        split at h
        · have := ih _ hlt h rfl
          omega
        · obtain ⟨rfl, rfl⟩ := Prod.mk.injEq .. ▸ Except.ok.inj h
          exact hlt

theorem length_read_lt {source : String} {s t : List Char} {d : Decorator}
    (h : read source s = .ok (d, t)) : t.length < s.length := by
  have h₀ : (trimStart (s.dropWhile isNameChar)).length ≤ s.length :=
    Nat.le_trans (length_trimStart_le _) (List.dropWhile_sublist _).length_le
  unfold read at h
  dsimp only at h
  split at h
  · simp at h
  · split at h
    · simp at h
    · split at h
      · rename_i r hr
        have h₁ := length_trimStart_le r
        rw [hr, List.length_cons] at h₀
        split at h
        · rename_i u hu
          obtain ⟨rfl, rfl⟩ := Prod.mk.injEq .. ▸ Except.ok.inj h
          rw [hu, List.length_cons] at h₁
          omega
        · have := length_readArgs_lt h
          omega
      · simp at h

def readAll (source : String) (s : List Char) : Except DecoratorIssue (List Decorator) :=
  match s with
  | [] => .ok []
  | '@' :: r =>
    match _h : read source r with
    | .error issue => .error issue
    | .ok (d, t) => (readAll source (trimStart t)).map (d :: ·)
  | _ => .error (.textBetween (.ofList (trim s)))
termination_by s.length
decreasing_by
  have := length_read_lt _h
  have := length_trimStart_le t
  simp only [List.length_cons]
  omega

def ofLine (line : String) : Except DecoratorIssue (List Decorator) :=
  match trimStart line.toList with
  | '@' :: r => readAll line ('@' :: r)
  | _ => .ok []

def ofText (text : String) : Except DecoratorIssue Decorator :=
  match read text text.toList with
  | .error issue => .error issue
  | .ok (d, t) =>
    match trimStart t with
    | [] => .ok d
    | rest => .error (.textBehind (.ofList rest) text)

end Decorator

end Routewright
