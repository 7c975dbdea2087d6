import Folio.Text.Quoted

namespace Folio.Http

open Folio.Text

def isHexDigit (c : Char) : Bool :=
  ('0' ≤ c && c ≤ '9') || ('a' ≤ c && c ≤ 'f') || ('A' ≤ c && c ≤ 'F')

def percentByte (b : UInt8) : List Char :=
  '%' :: (hexDigits 2 b.toNat).map Char.toUpper

def percentChar (c : Char) : List Char :=
  (String.utf8EncodeChar c).flatMap percentByte

def percentEncoded (isSafe : Char → Bool) : List Char → List Char
  | '%' :: a :: b :: cs =>
    if isHexDigit a && isHexDigit b then '%' :: a :: b :: percentEncoded isSafe cs
    else (if isSafe '%' then ['%'] else percentChar '%') ++ percentEncoded isSafe (a :: b :: cs)
  | c :: cs => (if isSafe c then [c] else percentChar c) ++ percentEncoded isSafe cs
  | [] => []

end Folio.Http
