namespace Folio.Text

structure Encoding where
  width : Nat
  highFirst : Bool := false
  deriving DecidableEq, Repr

namespace Encoding

def ofBytes : List UInt8 → Encoding
  | a :: b :: c :: d :: _ =>
    if a = 0 then ⟨if b = 0 then 4 else 2, true⟩
    else if b = 0 then ⟨if c = 0 ∧ d = 0 then 4 else 2, false⟩
    else ⟨1, false⟩
  | [a, b] => if a = 0 then ⟨2, true⟩ else if b = 0 then ⟨2, false⟩ else ⟨1, false⟩
  | _ => ⟨1, false⟩

def ofLowFirst (bytes : List UInt8) : Nat :=
  bytes.foldr (fun b n => b.toNat + 256 * n) 0

def number (e : Encoding) (bytes : List UInt8) : Nat :=
  ofLowFirst (if e.highFirst then bytes.reverse else bytes)

def units? (e : Encoding) : Nat → List UInt8 → Option (List Nat)
  | _, [] => some []
  | 0, _ => none
  | fuel + 1, bytes =>
    let unit := bytes.take e.width
    if unit.length = e.width then
      (units? e fuel (bytes.drop e.width)).map (e.number unit :: ·)
    else none

end Encoding

def isHighSurrogate (n : Nat) : Bool :=
  0xD800 ≤ n && n < 0xDC00

def isLowSurrogate (n : Nat) : Bool :=
  0xDC00 ≤ n && n < 0xE000

def ofSurrogates (high low : Nat) : Char :=
  Char.ofNat (0x10000 + (high - 0xD800) * 0x400 + (low - 0xDC00))

def ofUnit (n : Nat) : Char :=
  if isHighSurrogate n || isLowSurrogate n then '\uFFFD' else Char.ofNat n

def joined16 : List Nat → List Char
  | high :: low :: units =>
    if isHighSurrogate high && isLowSurrogate low then ofSurrogates high low :: joined16 units
    else ofUnit high :: joined16 (low :: units)
  | [unit] => [ofUnit unit]
  | [] => []

def Encoding.read? (e : Encoding) (bytes : List UInt8) : Option (List Char) :=
  (e.units? bytes.length bytes).bind fun units =>
    if e.width = 2 then some (joined16 units)
    else if units.all (· < 0x110000) then some (units.map ofUnit)
    else none

def recoded? (s : String) : Option String :=
  let bytes := s.toUTF8.toList
  let e := Encoding.ofBytes bytes
  if e.width = 1 then some s else (e.read? bytes).map String.ofList

end Folio.Text
