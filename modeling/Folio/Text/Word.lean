import Folio.Text.Quoted
import Folio.Text.WordTable

namespace Folio.Text

def isWordChar (c : Char) : Bool :=
  if c.toNat < 128 then c.isAlphanum || c == '_'
  else isPrintable c && inRanges c.toNat wordRanges

end Folio.Text
