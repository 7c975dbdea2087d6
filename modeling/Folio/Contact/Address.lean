import Folio.Text.Blank

namespace Folio.Contact

open Folio.Text

def hasInnerDot : List Char → Bool
  | [] => false
  | _ :: cs => cs.dropLast.contains '.'

def isPlainAddress (cs : List Char) : Bool :=
  let account := cs.takeWhile (· != '@')
  match cs.dropWhile (· != '@') with
  | [] => false
  | _ :: domain =>
    !account.isEmpty && account.all (!isBlank ·) && domain.all (fun c => !isBlank c && c != '@') &&
      hasInnerDot domain

/-- One line break at the end is let pass. -/
def isAddress (s : String) : Bool :=
  let cs := s.toList
  isPlainAddress (if cs.getLast? = some '\n' then cs.dropLast else cs)

end Folio.Contact
