namespace Folio.Http.Punycode

def digit (n : Nat) : Char :=
  if n < 26 then Char.ofNat (97 + n) else Char.ofNat (48 + (n - 26))

def threshold (bias position : Nat) : Nat :=
  min 26 (max 1 (36 * position - bias))

def digits (bias position n : Nat) : List Char :=
  let t := threshold bias position
  if n < t then [digit n]
  else digit (t + (n - t) % (36 - t)) :: digits bias (position + 1) ((n - t) / (36 - t))
termination_by n
decreasing_by
  have h1 : 1 ≤ threshold bias position := by unfold threshold; omega
  have h2 := Nat.div_le_self (n - threshold bias position) (36 - threshold bias position)
  omega

def reduced (distance : Nat) : Nat × Nat :=
  if 455 < distance then
    let (count, rest) := reduced (distance / 35)
    (count + 1, rest)
  else (0, distance)
termination_by distance

/-- The bias after an insertion at a distance, which was the first one or not; `length` characters
stand there now. -/
def adapted (isFirst : Bool) (distance length : Nat) : Nat :=
  let halved := distance / (if isFirst then 700 else 2)
  let (count, rest) := reduced (halved + halved / length)
  36 * count + 36 * rest / (rest + 38)

structure Encoder where
  distance : Nat := 0
  bias : Nat := 72
  length : Nat
  written : List Char

namespace Encoder

def pass (ascii code : Nat) (e : Encoder) (c : Char) : Encoder :=
  if c.toNat < code then { e with distance := e.distance + 1 }
  else if c.toNat = code then
    { distance := 0
      bias := adapted (e.length = ascii) e.distance (e.length + 1)
      length := e.length + 1
      written := e.written ++ digits e.bias 1 e.distance }
  else e

def insert (ascii : Nat) (label : List Char) (before : Nat) : List Nat → Encoder → Encoder
  | [], e => e
  | code :: codes, e =>
    let e := { e with distance := e.distance + (code - before - 1) * (e.length + 1) }
    let e := label.foldl (pass ascii code) e
    insert ascii label code codes { e with distance := e.distance + 1 }

end Encoder

def encode (label : List Char) : List Char :=
  let ascii := label.filter (·.toNat < 128)
  let codes := (((label.map Char.toNat).filter (128 ≤ ·)).mergeSort (· ≤ ·)).eraseDups
  let start := if ascii.isEmpty then [] else ascii ++ ['-']
  (Encoder.insert ascii.length label 127 codes
    { length := ascii.length, written := start }).written

end Folio.Http.Punycode
