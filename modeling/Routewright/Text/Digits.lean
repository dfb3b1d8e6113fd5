namespace Routewright.Text

def digitValue? (base : Nat) (c : Char) : Option Nat :=
  let v :=
    if '0' ≤ c ∧ c ≤ '9' then c.toNat - '0'.toNat
    else if 'a' ≤ c ∧ c ≤ 'f' then c.toNat - 'a'.toNat + 10
    else if 'A' ≤ c ∧ c ≤ 'F' then c.toNat - 'A'.toNat + 10
    else base
  if v < base then some v else none

def isDigitOf (base : Nat) (c : Char) : Bool :=
  (digitValue? base c).isSome

def digitsValueFrom (base acc : Nat) : List Char → Option Nat
  | [] => some acc
  | c :: r => (digitValue? base c).bind fun v => digitsValueFrom base (acc * base + v) r

def digitsValue? (base : Nat) (s : List Char) : Option Nat :=
  if s.isEmpty then none else digitsValueFrom base 0 s

def boundedDecimal? (bound : Nat) (s : List Char) : Option Nat :=
  let digits := match s with
    | '+' :: r => r
    | _ => s
  (digitsValue? 10 digits).filter (· < bound)

def hexDigit (n : Nat) : Char :=
  if n < 10 then Char.ofNat ('0'.toNat + n) else Char.ofNat ('a'.toNat + (n - 10))

def fourHexDigits (n : Nat) : List Char :=
  [hexDigit (n / 4096 % 16), hexDigit (n / 256 % 16), hexDigit (n / 16 % 16), hexDigit (n % 16)]

def ofCodePoint? (n : Nat) : Option Char :=
  if n.isValidChar then some (Char.ofNat n) else none

end Routewright.Text
