import Routewright.Text.Blank

/-!
Cutting a text into pieces: at separators, into words, into lines and into fields.

`splitWhere p s` has one piece more than `s` has separators, and no piece holds a separator.
-/

namespace Routewright.Text

def splitWhere (p : Char → Bool) : List Char → List (List Char)
  | [] => [[]]
  | c :: r =>
    if p c then [] :: splitWhere p r
    else
      match splitWhere p r with
      | [] => [[c]]
      | w :: ws => (c :: w) :: ws

def splitOnChar (sep : Char) (s : List Char) : List (List Char) :=
  splitWhere (· == sep) s

/-- The pieces between the places where the character `sep` stands twice in a row, read from the
left; `piece` is the part of the current piece already passed, in reverse. -/
def splitOnPairAfter (sep : Char) (piece : List Char) : List Char → List (List Char)
  | [] => [piece.reverse]
  | [c] => [(c :: piece).reverse]
  | c :: d :: r =>
    if c == sep && d == sep then piece.reverse :: splitOnPairAfter sep [] r
    else splitOnPairAfter sep (c :: piece) (d :: r)

def splitOnPair (sep : Char) (s : List Char) : List (List Char) :=
  splitOnPairAfter sep [] s

def words (s : List Char) : List (List Char) :=
  (splitWhere isBlank s).filter (!·.isEmpty)

def commaList (s : List Char) : List (List Char) :=
  ((splitOnChar ',' s).map trim).filter (!·.isEmpty)

def dropFinalReturn (s : List Char) : List Char :=
  if s.getLast? = some '\r' then s.dropLast else s

/-- The lines among pieces cut at line feeds: a carriage return before a line feed belongs to the
line end, and nothing after the last line feed is no line. -/
def linesOfPieces : List (List Char) → List (List Char)
  | [] => []
  | [last] => if last.isEmpty then [] else [last]
  | piece :: rest => dropFinalReturn piece :: linesOfPieces rest

def lines (s : List Char) : List (List Char) :=
  linesOfPieces (splitOnChar '\n' s)

def afterWord (s : List Char) : List Char :=
  trimStart (s.dropWhile (!isBlank ·))

theorem length_afterWord_lt {c : Char} {r : List Char} (h : isBlank c = false) :
    (afterWord (c :: r)).length < (c :: r).length := by
  have h₁ : ((c :: r).dropWhile (!isBlank ·)).length ≤ r.length := by
    simpa [List.dropWhile, h] using (List.dropWhile_sublist (!isBlank ·) (l := r)).length_le
  have h₂ := (List.dropWhile_sublist isBlank
    (l := (c :: r).dropWhile (!isBlank ·))).length_le
  simp only [afterWord, trimStart, List.length_cons]
  omega

def fieldsFrom (n : Nat) : List Char → List (List Char)
  | [] => []
  | c :: r =>
    if n = 1 then [trimEnd (c :: r)]
    else if h : isBlank c then []
    else (c :: r).takeWhile (!isBlank ·) :: fieldsFrom (n - 1) (afterWord (c :: r))
termination_by s => s.length
decreasing_by exact length_afterWord_lt (by simpa using h)

/-- Cuts a text at runs of blanks into at most `n` fields, the last of which keeps its inner
blanks; zero means no bound. -/
def fields (n : Nat) (s : List Char) : List (List Char) :=
  fieldsFrom n (trimStart s)

def beforeSlashes : List Char → List Char
  | [] => []
  | [c] => [c]
  | c :: d :: r => if c == '/' && d == '/' then [] else c :: beforeSlashes (d :: r)

def contains (part : List Char) : List Char → Bool
  | [] => part.isEmpty
  | c :: r => part.isPrefixOf (c :: r) || contains part r

def dropStart? (start s : List Char) : Option (List Char) :=
  start.isPrefixOf? s

def dropEnd? (final s : List Char) : Option (List Char) :=
  (final.reverse.isPrefixOf? s.reverse).map List.reverse

def lastElement (s : List Char) : List Char :=
  ((splitOnChar '/' s).getLast?).getD []

theorem splitWhere_ne_nil (p : Char → Bool) (s : List Char) : splitWhere p s ≠ [] := by
  cases s with
  | nil => simp [splitWhere]
  | cons c r =>
    rw [splitWhere]
    split
    · simp
    · split <;> simp

end Routewright.Text
