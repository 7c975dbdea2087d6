namespace Folio.Number

/-- A finite double, `± mantissa * 2 ^ exponent`. -/
structure Dyadic where
  negative : Bool
  mantissa : Nat
  exponent : Int
  deriving DecidableEq, Repr

def Dyadic.ofFloat? (x : Float) : Option Dyadic :=
  let bits := x.toBits.toNat
  let fraction : Nat := bits % Nat.pow 2 52
  let biased : Nat := bits / Nat.pow 2 52 % Nat.pow 2 11
  let negative := bits / Nat.pow 2 63 == 1
  if biased = 2047 then none
  else if biased = 0 then some ⟨negative, fraction, -1074⟩
  else some ⟨negative, fraction + Nat.pow 2 52, (biased : Int) - 1075⟩

def Dyadic.fraction (d : Dyadic) : Rat :=
  let m : Int := if d.negative then -d.mantissa else d.mantissa
  mkRat (m * Nat.pow 2 d.exponent.toNat) (Nat.pow 2 (-d.exponent).toNat)

def integer? (x : Float) : Option Int :=
  (Dyadic.ofFloat? x).bind fun d =>
    if d.fraction.den = 1 then some d.fraction.num else none

end Folio.Number
