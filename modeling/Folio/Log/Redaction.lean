/-!
Masking the local part of email addresses. An address is a longest run of local characters, an at
sign, and a domain that ends in a dot and two or more letters.
-/

namespace Folio.Log

def isLetter (c : Char) : Bool :=
  ('a' ≤ c && c ≤ 'z') || ('A' ≤ c && c ≤ 'Z')

def isAlphanumeric (c : Char) : Bool :=
  isLetter c || ('0' ≤ c && c ≤ '9')

def isLocal (c : Char) : Bool :=
  isAlphanumeric c || ['.', '_', '%', '+', '-'].contains c

def isDomain (c : Char) : Bool :=
  isAlphanumeric c || c == '.' || c == '-'

/-- Where the last dot with two or more letters after it ends a domain; the dot must not be the
first character. `i` characters of the domain have been passed. -/
def domainEnd? (i : Nat) : List Char → Option Nat
  | [] => none
  | c :: cs =>
    match domainEnd? (i + 1) cs with
    | some n => some n
    | none =>
      let letters := (cs.takeWhile isLetter).length
      if c = '.' ∧ 0 < i ∧ 2 ≤ letters then some (i + 1 + letters) else none

def domainLength? (cs : List Char) : Option Nat :=
  domainEnd? 0 (cs.takeWhile isDomain)

theorem length_dropWhile_le (p : Char → Bool) (cs : List Char) :
    (cs.dropWhile p).length ≤ cs.length := by
  induction cs with
  | nil => simp
  | cons c cs ih => by_cases h : p c <;> simp [h]; omega

def redact (mask : List Char) : List Char → List Char
  | [] => []
  | c :: cs =>
    if isLocal c then
      match _h : cs.dropWhile isLocal with
      | '@' :: rest =>
        match domainLength? rest with
        | some n => c :: mask ++ '@' :: rest.take n ++ redact mask (rest.drop n)
        | none => c :: cs.takeWhile isLocal ++ '@' :: redact mask rest
      | rest => c :: cs.takeWhile isLocal ++ redact mask rest
    else c :: redact mask cs
termination_by cs => cs.length
decreasing_by
  all_goals
    have hle := length_dropWhile_le isLocal cs
    simp_all
    try omega

def standardMask : String := "***"

def redactEmail (value : String) (mask : String := standardMask) : String :=
  String.ofList (redact mask.toList value.toList)

end Folio.Log
