namespace Folio.Text

def splitFirst (pattern : List Char) : List Char → Option (List Char × List Char)
  | [] => if pattern.isEmpty then some ([], []) else none
  | c :: cs =>
    if pattern.isPrefixOf (c :: cs) then some ([], (c :: cs).drop pattern.length)
    else (splitFirst pattern cs).map fun (before, after) => (c :: before, after)

def startsWith (s pattern : String) : Bool :=
  pattern.toList.isPrefixOf s.toList

def contains (s pattern : String) : Bool :=
  (splitFirst pattern.toList s.toList).isSome

def replaceFirst (s pattern replacement : String) : String :=
  match splitFirst pattern.toList s.toList with
  | some (before, after) => String.ofList before ++ replacement ++ String.ofList after
  | none => s

def afterFirst (s pattern : String) : String :=
  match splitFirst pattern.toList s.toList with
  | some (_, after) => String.ofList after
  | none => s

end Folio.Text
