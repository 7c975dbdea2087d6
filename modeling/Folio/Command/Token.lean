namespace Folio.Command

def isQuote (c : Char) : Bool :=
  c == '"' || c == '\''

def finished (word : List Char) : List (List Char) :=
  if word.isEmpty then [] else [word.reverse]

/-- Splits a text into words, inside the quotes `quote` and with `word` gathered already, whose
last character comes first. -/
def words (quote : Option Char) (word : List Char) : List Char → List (List Char)
  | [] => finished word
  | c :: cs =>
    match quote with
    | none =>
      if isQuote c then words (some c) word cs
      else if c = ' ' then finished word ++ words none [] cs
      else words none (c :: word) cs
    | some q =>
      if c = q then finished word ++ words none [] cs
      else words (some q) (c :: word) cs

def tokenize (line : String) : List String :=
  (words none [] line.toList).map String.ofList

end Folio.Command
