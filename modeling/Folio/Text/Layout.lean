namespace Folio.Text

def repeated (n : Int) (c : Char) : String :=
  String.ofList (List.replicate n.toNat c)

def padRight (width : Nat) (s : String) : String :=
  s ++ repeated (width - s.length : Nat) ' '

def padLeft (width : Nat) (s : String) : String :=
  repeated (width - s.length : Nat) ' ' ++ s

/-- Pads on both sides; of an odd margin the greater half stands on the left in an odd width and
on the right in an even one. -/
def centered (width : Nat) (s : String) : String :=
  let margin := width - s.length
  let left := margin / 2 + (if margin % 2 = 1 ∧ width % 2 = 1 then 1 else 0)
  repeated left ' ' ++ s ++ repeated (margin - left : Nat) ' '

def groupDigits : List Char → List Char
  | a :: b :: c :: d :: ds => a :: b :: c :: ',' :: groupDigits (d :: ds)
  | ds => ds

def thousands (n : Nat) : String :=
  String.ofList (groupDigits (toString n).toList.reverse).reverse

def joined (separator : String) : List String → String
  | [] => ""
  | [s] => s
  | s :: ss => s ++ separator ++ joined separator ss

def listed (ss : List String) : String :=
  joined ", " ss

def lines (ss : List String) : String :=
  joined "\n" ss

end Folio.Text
