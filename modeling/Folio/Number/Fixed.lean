import Folio.Number.Nearest
import Folio.Number.Shortest

namespace Folio.Number

def scaledRound (m : Nat) (q places : Int) : Nat :=
  roundDiv (m * Nat.pow 2 q.toNat * Nat.pow 10 places.toNat)
    (Nat.pow 2 (-q).toNat * Nat.pow 10 (-places).toNat)

def leadingZeros (width : Nat) (ds : List Char) : List Char :=
  List.replicate (width - ds.length) '0' ++ ds

def pointed (places : Nat) (alternate : Bool) (n : Nat) : List Char :=
  let ds := leadingZeros (places + 1) (toString n).toList
  let whole := ds.take (ds.length - places)
  if places = 0 then (if alternate then whole ++ ['.'] else whole)
  else whole ++ '.' :: ds.drop (ds.length - places)

def fixedText (places : Nat) (alternate : Bool) (m : Nat) (q : Int) : List Char :=
  pointed places alternate (scaledRound m q places)

def significant (count : Nat) (m : Nat) (q : Int) : Nat × Int :=
  if m = 0 then (0, 0)
  else
    let e := magnitude m q
    let n := scaledRound m q ((count : Int) - 1 - e)
    if n = Nat.pow 10 count then (Nat.pow 10 (count - 1), e + 1) else (n, e)

def exponentText (e : Int) : List Char :=
  'e' :: (if e < 0 then '-' else '+') :: leadingZeros 2 (toString e.natAbs).toList

def scientificText (places : Nat) (alternate : Bool) (m : Nat) (q : Int) : List Char :=
  let (n, e) := significant (places + 1) m q
  pointed places alternate n ++ exponentText e

def withoutZeros (cs : List Char) : List Char :=
  if cs.contains '.' then
    match (cs.reverse.dropWhile (· == '0')) with
    | '.' :: rest => rest.reverse
    | rest => rest.reverse
  else cs

/-- Positional for exponents from -4 up to the number of digits, scientific elsewhere; trailing
zeros go unless `alternate`. -/
def generalText (digits : Nat) (alternate : Bool) (m : Nat) (q : Int) : List Char :=
  let count := max digits 1
  let (n, e) := significant count m q
  let tidy := fun cs => if alternate then cs else withoutZeros cs
  if -4 ≤ e ∧ e < count then tidy (pointed ((count : Int) - 1 - e).toNat alternate n)
  else tidy (pointed (count - 1) alternate n) ++ exponentText e

end Folio.Number
