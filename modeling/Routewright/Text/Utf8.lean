/-!
Reading bytes as UTF-8.

`units` reads a byte sequence as characters and ill-formed parts, each ill-formed part as long as a
well-formed character could still begin with it. A text is valid when no part is ill-formed.
-/

namespace Routewright.Text.Utf8

/-- A character that is not complete yet: the bits read so far, the bounds of the next byte, and
the number of bytes that follow that one. -/
structure Partial where
  bits : Nat
  lower : Nat
  upper : Nat
  more : Nat
deriving DecidableEq

inductive Progress
  | done (c : Char)
  | more (p : Partial)
  | bad
deriving DecidableEq

def first (b : Nat) : Progress :=
  if b < 0x80 then .done (Char.ofNat b)
  else if b < 0xc2 then .bad
  else if b < 0xe0 then .more ⟨b - 0xc0, 0x80, 0xbf, 0⟩
  else if b = 0xe0 then .more ⟨0, 0xa0, 0xbf, 1⟩
  else if b = 0xed then .more ⟨0xd, 0x80, 0x9f, 1⟩
  else if b < 0xf0 then .more ⟨b - 0xe0, 0x80, 0xbf, 1⟩
  else if b = 0xf0 then .more ⟨0, 0x90, 0xbf, 2⟩
  else if b < 0xf4 then .more ⟨b - 0xf0, 0x80, 0xbf, 2⟩
  else if b = 0xf4 then .more ⟨4, 0x80, 0x8f, 2⟩
  else .bad

def Partial.next (p : Partial) (b : Nat) : Progress :=
  if p.lower ≤ b ∧ b ≤ p.upper then
    let bits := p.bits * 64 + (b - 0x80)
    match p.more with
    | 0 => .done (Char.ofNat bits)
    | n + 1 => .more ⟨bits, 0x80, 0xbf, n⟩
  else .bad

mutual

def unitsFrom : List UInt8 → List (Option Char)
  | [] => []
  | b :: r =>
    match first b.toNat with
    | .done c => some c :: unitsFrom r
    | .more p => unitsAfter p r
    | .bad => none :: unitsFrom r

def unitsAfter (p : Partial) : List UInt8 → List (Option Char)
  | [] => [none]
  | b :: r =>
    match p.next b.toNat with
    | .done c => some c :: unitsFrom r
    | .more q => unitsAfter q r
    | .bad =>
      match first b.toNat with
      | .done c => none :: some c :: unitsFrom r
      | .more q => none :: unitsAfter q r
      | .bad => none :: none :: unitsFrom r

end

def units (bytes : ByteArray) : List (Option Char) :=
  unitsFrom bytes.data.toList

def sequence : List (Option Char) → Option (List Char)
  | [] => some []
  | none :: _ => none
  | some c :: r => (sequence r).map (c :: ·)

def decode? (bytes : ByteArray) : Option String :=
  (sequence (units bytes)).map String.ofList

def decodeLossy (bytes : ByteArray) : List Char :=
  (units bytes).map fun u => u.getD (Char.ofNat 0xfffd)

theorem sequence_map_some (s : List Char) : sequence (s.map some) = some s := by
  induction s with
  | nil => rfl
  | cons c r ih => simp [sequence, ih]

theorem sequence_eq_some_iff {u : List (Option Char)} {s : List Char} :
    sequence u = some s ↔ u = s.map some := by
  refine ⟨fun h => ?_, fun h => h ▸ sequence_map_some s⟩
  induction u generalizing s with
  | nil => simp_all [sequence]
  | cons x r ih =>
    cases x with
    | none => simp [sequence] at h
    | some c =>
      obtain ⟨t, ht, rfl⟩ := Option.map_eq_some_iff.1 h
      simp [ih ht]

end Routewright.Text.Utf8
