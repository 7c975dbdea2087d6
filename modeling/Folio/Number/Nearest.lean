namespace Folio.Number

def roundDiv (n d : Nat) : Nat :=
  let q := n / d
  let twice := 2 * (n % d)
  if twice < d then q else if d < twice then q + 1 else q + q % 2

def binaryMagnitude (n d : Nat) : Int :=
  let e : Int := (n.log2 : Int) - d.log2
  if d * Nat.pow 2 e.toNat ≤ n * Nat.pow 2 (-e).toNat then e else e - 1

def timesPowerOfTwo (m : Nat) (e : Int) : Rat :=
  mkRat (m * Nat.pow 2 e.toNat) (Nat.pow 2 (-e).toNat)

/-- The number of 53 binary digits that is nearest to a positive fraction. -/
def nearestBinary (n d : Nat) : Rat :=
  let e := binaryMagnitude n d - 52
  timesPowerOfTwo (roundDiv (n * Nat.pow 2 (-e).toNat) (d * Nat.pow 2 e.toNat)) e

def nearestDouble (x : Rat) : Rat :=
  if x.num < 0 then -nearestBinary x.num.natAbs x.den
  else if x.num = 0 then 0
  else nearestBinary x.num.natAbs x.den

def roundHalfUp (x : Rat) : Int :=
  (x + mkRat 1 2).floor

end Folio.Number
