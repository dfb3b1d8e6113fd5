/-!
Blank characters and the text around them.

`isBlank` is the White_Space property. `trim` drops blanks at both ends and nothing else; a text
that starts and ends with a character that is not blank is its own trim.
-/

namespace Routewright.Text

def isBlank (c : Char) : Bool :=
  (9 ≤ c.toNat && c.toNat ≤ 13) || c.toNat == 0x20 || c.toNat == 0x85 || c.toNat == 0xa0 ||
    c.toNat == 0x1680 || (0x2000 ≤ c.toNat && c.toNat ≤ 0x200a) || c.toNat == 0x2028 ||
    c.toNat == 0x2029 || c.toNat == 0x202f || c.toNat == 0x205f || c.toNat == 0x3000

def trimStart (s : List Char) : List Char :=
  s.dropWhile isBlank

def dropEndWhile (p : Char → Bool) : List Char → List Char
  | [] => []
  | c :: r =>
    match dropEndWhile p r with
    | [] => if p c then [] else [c]
    | d :: t => c :: d :: t

def trimEnd (s : List Char) : List Char :=
  dropEndWhile isBlank s

def trim (s : List Char) : List Char :=
  trimEnd (trimStart s)

def allBlank (s : List Char) : Bool :=
  s.all isBlank

def trimmed (s : String) : String :=
  .ofList (trim s.toList)

def isBlankText (s : String) : Bool :=
  allBlank s.toList

theorem dropEndWhile_append_singleton (p : Char → Bool) (s : List Char) (c : Char) :
    dropEndWhile p (s ++ [c]) = if p c then dropEndWhile p s else s ++ [c] := by
  induction s with
  | nil => simp [dropEndWhile]
  | cons d r ih =>
    rw [List.cons_append, dropEndWhile, ih]
    by_cases h : p c
    · simp [h, dropEndWhile]
    · cases r <;> simp [h]

@[simp] theorem trimStart_nil : trimStart [] = [] := rfl

@[simp] theorem trim_nil : trim [] = [] := rfl

end Routewright.Text
