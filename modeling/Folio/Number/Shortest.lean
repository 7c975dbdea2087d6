import Folio.Number.Binary
/-!
The shortest decimal that reads back as a given double, and its text.
-/

namespace Folio.Number

def compareScaled (a : Nat) (p : Int) (b : Nat) (k : Int) : Ordering :=
  let left := a * Nat.pow 2 p.toNat * Nat.pow 10 (-k).toNat
  let right := b * Nat.pow 10 k.toNat * Nat.pow 2 (-p).toNat
  compare left right

/-- Does the decimal `d * 10 ^ k` read back as the double `m * 2 ^ q`? The reals that round to it
reach half way to its neighbours, ends included when `m` is even. -/
def readsBack (m : Nat) (q : Int) (d : Nat) (k : Int) : Bool :=
  let below := if m = Nat.pow 2 52 ∧ -1074 < q then 4 * m - 1 else 4 * m - 2
  let above := 4 * m + 2
  let low := compareScaled below (q - 2) d k
  let high := compareScaled above (q - 2) d k
  if m % 2 = 0 then low != .gt && high != .lt else low == .lt && high == .gt

def scaled (m : Nat) (q k : Int) : Nat :=
  (m * Nat.pow 2 q.toNat * Nat.pow 10 (-k).toNat) / (Nat.pow 2 (-q).toNat * Nat.pow 10 k.toNat)

def upperIsNearer (m : Nat) (q : Int) (d : Nat) (k : Int) : Bool :=
  match compareScaled (2 * m) q (2 * d + 1) k with
  | .gt => true
  | .eq => d % 2 == 1
  | .lt => false

def magnitude (m : Nat) (q : Int) : Int :=
  if 0 ≤ q then ((toString (m * Nat.pow 2 q.toNat)).length : Int) - 1
  else
    let shift : Int := 1100
    ((toString (scaled m q (-shift))).length : Int) - 1 - shift

/-- Digits and power of ten of the first grid, from the coarsest of `count` grids on, with a point
that reads back. -/
def search (m : Nat) (q top : Int) : Nat → Nat → Nat × Int
  | 0, n => (scaled m q (top - n), top - n)
  | count + 1, n =>
    let k := top - n
    let d := scaled m q k
    let here := readsBack m q d k
    let next := readsBack m q (d + 1) k
    if here && next then (if upperIsNearer m q d k then d + 1 else d, k)
    else if here then (d, k)
    else if next then (d + 1, k)
    else search m q top count (n + 1)

def shortest (m : Nat) (q : Int) : Nat × Int :=
  search m q (magnitude m q) 17 0

def decimalText (digits : List Char) (point : Int) : String :=
  let n : Int := digits.length
  if -4 < point ∧ point ≤ 16 then
    if point ≤ 0 then
      String.ofList ('0' :: '.' :: List.replicate (-point).toNat '0' ++ digits)
    else if n ≤ point then
      String.ofList (digits ++ List.replicate (point - n).toNat '0' ++ ['.', '0'])
    else
      String.ofList (digits.take point.toNat ++ '.' :: digits.drop point.toNat)
  else
    let e := point - 1
    let fraction := match digits.drop 1 with
      | [] => []
      | ds => '.' :: ds
    let power := (toString e.natAbs).toList
    let power := List.replicate (2 - power.length) '0' ++ power
    String.ofList (digits.take 1 ++ fraction ++ 'e' :: (if e < 0 then '-' else '+') :: power)

def floatText (x : Float) : String :=
  match Dyadic.ofFloat? x with
  | none => if x.isNaN then "nan" else if x < 0 then "-inf" else "inf"
  | some d =>
    let body :=
      if d.mantissa = 0 then "0.0"
      else
        let (n, k) := shortest d.mantissa d.exponent
        let ds := (toString n).toList
        let trimmed := (ds.reverse.dropWhile (· == '0')).reverse
        decimalText trimmed (ds.length + k)
    if d.negative then "-" ++ body else body

end Folio.Number
