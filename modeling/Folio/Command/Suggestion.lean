import Folio.Command.EditDistance
import Folio.Text.Case
import Folio.Text.Search

namespace Folio.Command

open Folio.Text

def maxSuggestions : Nat := 3

def maxDistance : Nat := 2

def sameInitial (a b : String) : Bool :=
  match a.toList, b.toList with
  | c :: _, d :: _ => c == d
  | _, _ => false

def isSimilar (command candidate : String) : Bool :=
  sameInitial command candidate || contains command candidate || contains candidate command ||
    editDistance command candidate ≤ maxDistance

/-- Gathers similar candidates until there are `limit` of them; one is gathered in any case. -/
def gather (lowered : String) (limit : Int) : List String → List String → List String
  | found, [] => found
  | found, c :: cs =>
    if isSimilar lowered c then
      let found := found ++ [c]
      if limit ≤ found.length then found else gather lowered limit found cs
    else gather lowered limit found cs

def similarTo (command : String) (candidates : List String) (limit : Int := maxSuggestions) :
    List String :=
  gather (lower command) limit [] candidates

end Folio.Command
