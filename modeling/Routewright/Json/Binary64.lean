/-!
Binary floating point numbers of double precision, as exact values.

`nearest` rounds a positive rational to the nearest number, ties to the even one, and `shortest`
finds the fewest decimal digits that round back: the first grid of decimals, from coarse to fine,
that meets the interval of the number, and on it the point nearest to the number.
-/

namespace Routewright.Json

structure Binary64 where
  mantissa : Nat
  exponent : Int
deriving DecidableEq, Repr

structure Decimal where
  digits : Nat
  exponent : Int
deriving DecidableEq, Repr

namespace Binary64

def zero : Binary64 := ⟨0, -1074⟩

def value (x : Binary64) : Rat :=
  x.mantissa * 2 ^ x.exponent

def roundHalfEven (q : Rat) : Nat :=
  let below := q.floor.toNat
  let gap := q - below
  if gap < 1 / 2 then below
  else if 1 / 2 < gap then below + 1
  else if below % 2 = 0 then below
  else below + 1

def exponentOf (q : Rat) : Int :=
  let low := (q.num.natAbs.log2 : Int) - q.den.log2 - 53
  max (if q < (2 : Rat) ^ (low + 53) then low else low + 1) (-1074)

def nearest (q : Rat) : Option Binary64 :=
  if q ≤ 0 then some zero
  else
    let e := exponentOf q
    let m := roundHalfEven (q / 2 ^ e)
    let x : Binary64 := if m = Nat.pow 2 53 then ⟨Nat.pow 2 52, e + 1⟩ else ⟨m, e⟩
    if x.exponent ≤ 971 then some x else none

def bounds (x : Binary64) : Rat × Rat :=
  let ulp : Rat := 2 ^ x.exponent
  let below := if x.mantissa = Nat.pow 2 52 ∧ -1074 < x.exponent then ulp / 4 else ulp / 2
  (x.value - below, x.value + ulp / 2)

def attracts (x : Binary64) (q : Rat) : Bool :=
  let b := x.bounds
  if x.mantissa % 2 = 0 then b.1 ≤ q && q ≤ b.2 else b.1 < q && q < b.2

def onGrid (x : Binary64) (exponent : Int) : Option Decimal :=
  let unit : Rat := 10 ^ exponent
  let below := (x.value / unit).floor.toNat
  let low := x.attracts (below * unit)
  let high := x.attracts ((below + 1 : Nat) * unit)
  if low && high then some ⟨roundHalfEven (x.value / unit), exponent⟩
  else if low then some ⟨below, exponent⟩
  else if high then some ⟨below + 1, exponent⟩
  else none

def gridExponents : List Int :=
  (List.range 634).map fun (i : Nat) => (309 : Int) - i

def shortest (x : Binary64) : Decimal :=
  (gridExponents.findSome? x.onGrid).getD ⟨0, 0⟩

end Binary64

structure Layout where
  /-- The least and the greatest decimal exponent of a number written without an exponent. -/
  positionalFrom : Int
  positionalTo : Int
  positiveMark : String

def layout : Layout := ⟨-5, 15, "e+"⟩

def zeros (n : Nat) : String :=
  .ofList (List.replicate n '0')

def Decimal.text (form : Layout) (d : Decimal) : String :=
  let digits := toString d.digits
  let order : Int := digits.length - 1 + d.exponent
  if form.positionalFrom ≤ order ∧ order ≤ form.positionalTo then
    if 0 ≤ d.exponent then digits ++ zeros d.exponent.toNat ++ ".0"
    else if 0 ≤ order then
      let whole := (order + 1).toNat
      .ofList (digits.toList.take whole) ++ "." ++ .ofList (digits.toList.drop whole)
    else "0." ++ zeros (-order - 1).toNat ++ digits
  else
    let fraction :=
      if digits.length = 1 then "" else "." ++ .ofList (digits.toList.drop 1)
    let mark := if 0 ≤ order then form.positiveMark else "e-"
    .ofList (digits.toList.take 1) ++ fraction ++ mark ++ toString order.natAbs

def Binary64.text (x : Binary64) : String :=
  if x.mantissa = 0 then "0.0" else x.shortest.text layout

end Routewright.Json
