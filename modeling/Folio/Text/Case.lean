import Folio.Text.CaseTable

namespace Folio.Text

def inRanges (n : Nat) : List (Nat × Nat) → Bool
  | [] => false
  | (lo, hi) :: rs => if n < lo then false else n ≤ hi || inRanges n rs

def shifted (n : Nat) : List Run → Option Nat
  | [] => none
  | r :: rs =>
    if n < r.first then none
    else if n ≤ r.last && (n - r.first) % r.step == 0 then some (n + r.shift).toNat
    else shifted n rs

def mapped (runs : List Run) (expansions : List (Nat × List Nat)) (c : Char) : List Char :=
  match expansions.lookup c.toNat with
  | some ns => ns.map Char.ofNat
  | none =>
    match shifted c.toNat runs with
    | some n => [Char.ofNat n]
    | none => [c]

def lowerChar (c : Char) : List Char :=
  if c.toNat < 128 then [c.toLower] else mapped lowerRuns lowerExpansions c

def upperChar (c : Char) : List Char :=
  if c.toNat < 128 then [c.toUpper] else mapped upperRuns upperExpansions c

def facesCased (cs : List Char) : Bool :=
  match cs.dropWhile (fun c => inRanges c.toNat caseIgnorableRanges) with
  | [] => false
  | c :: _ => inRanges c.toNat casedRanges

/-- Lowers a text whose already lowered part, read backwards, is `before`. -/
def lowerAfter (before : List Char) : List Char → List Char
  | [] => []
  | c :: cs =>
    let low :=
      if c = 'Σ' then [if facesCased before && !facesCased cs then 'ς' else 'σ'] else lowerChar c
    low ++ lowerAfter (c :: before) cs

def lower (s : String) : String :=
  String.ofList (lowerAfter [] s.toList)

def upper (s : String) : String :=
  String.ofList (s.toList.flatMap upperChar)

end Folio.Text
