import Folio.Http.NameTable
import Folio.Http.Percent
import Folio.Http.Punycode
import Folio.Number.Numeral
import Folio.Text.Path

namespace Folio.Http

open Folio.Number Folio.Text

inductive HostFlaw where
  | badQuad
  | badBracketed
  | badName
  deriving DecidableEq, Repr

/-- The states in which a text can be that is read as four runs of digits with any character
between two of them: how many of those are still to come, and whether a digit stands before. -/
def quadStep (states : List (Nat × Bool)) (c : Char) : List (Nat × Bool) :=
  (states.flatMap fun (gaps, afterDigit) =>
    (if isDigit c then [(gaps, true)] else []) ++
      (if afterDigit && 0 < gaps then [(gaps - 1, false)] else [])).eraseDups

def looksLikeQuad (host : List Char) : Bool :=
  (host.foldl quadStep [(3, false)]).contains (0, true)

def isOctet (cs : List Char) : Bool :=
  allDigits cs && cs.length ≤ 3 && natOf cs < 256 && (cs.head? != some '0' || cs == ['0'])

def isQuad (host : List Char) : Bool :=
  let octets := Path.splitOn '.' host
  octets.length == 4 && octets.all isOctet

def isHextet (cs : List Char) : Bool :=
  !cs.isEmpty && cs.length ≤ 4 && cs.all isHexDigit

def hextets? (cs : List Char) : Option (List (List Char)) :=
  let groups := Path.splitOn ':' cs
  match groups.getLast? with
  | some last =>
    if groups.length < 3 then none
    else if last.contains '.' then
      if isQuad last then some (groups.dropLast ++ [['0'], ['0']]) else none
    else some groups
  | none => none

def areHextets (groups : List (List Char)) : Bool :=
  let inner := groups.tail.dropLast
  if inner.all (!·.isEmpty) then groups.length == 8 && groups.all isHextet
  else
    let before := groups.take (1 + (inner.takeWhile (!·.isEmpty)).length)
    let after := groups.drop (before.length + 1)
    let edge := fun (part : List (List Char)) => if part == [[]] then [] else part
    let written := edge before ++ edge after
    groups.length ≤ 9 && written.length < 8 && written.all isHextet

def isBracketed (cs : List Char) : Bool :=
  let zone := cs.dropWhile (· != '%')
  let isZone := match zone with
    | [] => true
    | _ :: name => !name.isEmpty && !name.contains '%'
  isZone && (hextets? (cs.takeWhile (· != '%'))).any areHextets

def hostMarks : List Char :=
  "-._~!$&'()*+,;=\"`\x7b\x7d%|\\".toList

def isHostChar (c : Char) : Bool :=
  c.isAlphanum || hostMarks.contains c

def isNameChar (c : Char) : Bool :=
  if c.toNat < 128 then c.isLower || c.isDigit || c == '-'
  else isPrintable c && lowerChar c == [c] && inRanges c.toNat nameRanges

def codedMark : List Char := "xn--".toList

def label? (cs : List Char) : Option (List Char) :=
  let isAscii := cs.all (·.toNat < 128)
  let coded := if isAscii then cs else codedMark ++ Punycode.encode cs
  let isPlain := !cs.isEmpty && cs.head? != some '-' && cs.getLast? != some '-' &&
    (cs.drop 2).take 2 != ['-', '-'] && cs.all isNameChar
  let isCoded := isAscii && codedMark.isPrefixOf cs && codedMark.length < cs.length &&
    cs.getLast? != some '-'
  if (isPlain || isCoded) && coded.length ≤ 63 then some coded else none

def isDot (c : Char) : Bool :=
  c == '.' || c == '\u3002' || c == '\uFF0E' || c == '\uFF61'

def name? (cs : List Char) : Option (List Char) :=
  let labels := Path.splitOn '.' (cs.map fun c => if isDot c then '.' else c)
  let isEnded := 1 < labels.length && labels.getLast? == some []
  let labels := if isEnded then labels.dropLast else labels
  (labels.mapM label?).bind fun coded =>
    let text := ['.'].intercalate coded ++ (if isEnded then ['.'] else [])
    if text.length ≤ (if isEnded then 254 else 253) then some text else none

def sentHost (cs : List Char) : Except HostFlaw (List Char) :=
  if looksLikeQuad cs then if isQuad cs then .ok cs else .error .badQuad
  else if cs.head? == some '[' && 1 < cs.length && cs.getLast? == some ']' then
    let inner := cs.tail.dropLast
    if isBracketed inner then .ok inner else .error .badBracketed
  else
    let low := (lower (String.ofList cs)).toList
    if cs.all (·.toNat < 128) then .ok (percentEncoded isHostChar low)
    else match name? low with
      | some name => .ok name
      | none => .error .badName

end Folio.Http
