namespace Folio.Command

def nextEntries (c : Char) (left diagonal : Nat) : List Char → List Nat → List Nat
  | d :: ds, above :: row =>
    let entry := min (min (above + 1) (left + 1)) (diagonal + if c = d then 0 else 1)
    entry :: nextEntries c entry above ds row
  | _, _ => []

def nextRow (c : Char) (second : List Char) : List Nat → List Nat
  | diagonal :: row => (diagonal + 1) :: nextEntries c (diagonal + 1) diagonal second row
  | [] => []

def lastRow (first second : List Char) : List Nat :=
  first.foldl (fun row c => nextRow c second row) (List.range (second.length + 1))

def editDistance (first second : String) : Nat :=
  (lastRow first.toList second.toList).getLastD 0

end Folio.Command
