import Folio.Text.Case
import Folio.Text.Layout

namespace Folio.Text.Path

def splitOn (separator : Char) : List Char → List (List Char)
  | [] => [[]]
  | c :: cs =>
    if c = separator then [] :: splitOn separator cs
    else match splitOn separator cs with
      | part :: parts => (c :: part) :: parts
      | [] => [[c]]

def components (path : String) : List String :=
  ((splitOn '/' path.toList).map String.ofList).filter fun p => !p.isEmpty && p != "."

def root : List Char → String
  | '/' :: '/' :: '/' :: _ => "/"
  | '/' :: '/' :: _ => "//"
  | '/' :: _ => "/"
  | _ => ""

def normalized (path : String) : String :=
  let shown := root path.toList ++ joined "/" (components path)
  if shown.isEmpty then "." else shown

/-- The last component from its last dot on, if something stands on both sides of the dot. -/
def suffix (path : String) : String :=
  let name := ((components path).getLast?.getD "").toList
  let ending := (name.reverse.takeWhile (· != '.')).reverse
  let stem := name.length - ending.length
  if ending.isEmpty || stem ≤ 1 then "" else String.ofList ('.' :: ending)

def isYaml (path : String) : Bool :=
  [".yaml", ".yml"].contains (lower (suffix path))

end Folio.Text.Path
