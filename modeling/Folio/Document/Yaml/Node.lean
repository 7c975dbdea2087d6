import Folio.Document.Yaml.Scalar
import Folio.Document.Yaml.Token
/-!
The tree of a YAML document, built from its tokens, and the value it stands for.

The reader takes block and flow collections, plain and quoted scalars, explicit keys, comments,
document markers and merges; merged entries come before a mapping's own. It takes no anchors,
aliases, tags, directives and block scalars, and neither a list nor a mapping as a key: a text with
one of these is malformed. Records have texts for keys, so an entry under any other scalar is
dropped, even where a reader that kept it would fail at walking through the keys.
-/

namespace Folio.Document.Yaml

inductive Node where
  | scalar (text : String) (plain : Bool)
  | sequence (items : List Node)
  | mapping (entries : List (Node × Node))
  deriving Inhabited

def Node.empty : Node := .scalar "" true

def nextIn (set : List Token) : List Token → Bool
  | [] => true
  | t :: _ => set.contains t

mutual

/-- Reads a node; in a block mapping a sequence need not be indented. `fuel` bounds the steps. -/
def node? (fuel : Nat) (unindented : Bool) (ts : List Token) : Option (Node × List Token) :=
  match fuel with
  | 0 => none
  | fuel + 1 =>
    match ts with
    | .scalar text plain :: rest => some (.scalar text plain, rest)
    | .flowSequence :: rest => flowItems? fuel true rest
    | .flowMapping :: rest => flowEntries? fuel true rest
    | .blockSequence :: rest => blockItems? fuel rest
    | .blockMapping :: rest => blockEntries? fuel rest
    | .blockEntry :: _ => if unindented then looseItems? fuel ts else none
    | _ => none

def nodeUnless? (fuel : Nat) (unindented : Bool) (set : List Token) (ts : List Token) :
    Option (Node × List Token) :=
  match fuel with
  | 0 => none
  | fuel + 1 => if nextIn set ts then some (.empty, ts) else node? fuel unindented ts

def blockItems? (fuel : Nat) (ts : List Token) : Option (Node × List Token) :=
  match fuel with
  | 0 => none
  | fuel + 1 =>
    match ts with
    | .blockEntry :: rest =>
      match nodeUnless? fuel false [.blockEntry, .blockEnd] rest with
      | some (item, rest) => (blockItems? fuel rest).map fun
        | (.sequence items, rest) => (.sequence (item :: items), rest)
        | other => other
      | none => none
    | .blockEnd :: rest => some (.sequence [], rest)
    | _ => none

def looseItems? (fuel : Nat) (ts : List Token) : Option (Node × List Token) :=
  match fuel with
  | 0 => none
  | fuel + 1 =>
    match ts with
    | .blockEntry :: rest =>
      match nodeUnless? fuel false [.blockEntry, .key, .value, .blockEnd] rest with
      | some (item, rest) => (looseItems? fuel rest).map fun
        | (.sequence items, rest) => (.sequence (item :: items), rest)
        | other => other
      | none => none
    | _ => some (.sequence [], ts)

def blockEntries? (fuel : Nat) (ts : List Token) : Option (Node × List Token) :=
  match fuel with
  | 0 => none
  | fuel + 1 =>
    match ts with
    | .key :: rest =>
      match nodeUnless? fuel true [.key, .value, .blockEnd] rest with
      | some (key, rest) =>
        match valueAfter? fuel true [.key, .value, .blockEnd] rest with
        | some (value, rest) => (blockEntries? fuel rest).map fun
          | (.mapping entries, rest) => (.mapping ((key, value) :: entries), rest)
          | other => other
        | none => none
      | none => none
    | .blockEnd :: rest => some (.mapping [], rest)
    | _ => none

def valueAfter? (fuel : Nat) (unindented : Bool) (set : List Token) (ts : List Token) :
    Option (Node × List Token) :=
  match fuel with
  | 0 => none
  | fuel + 1 =>
    match ts with
    | .value :: rest => nodeUnless? fuel unindented set rest
    | _ => some (.empty, ts)

def flowPair? (fuel : Nat) (close : Token) (ts : List Token) :
    Option ((Node × Node) × List Token) :=
  match fuel with
  | 0 => none
  | fuel + 1 =>
    match nodeUnless? fuel false [.value, .flowEntry, close] ts with
    | some (key, rest) =>
      (valueAfter? fuel false [.flowEntry, close] rest).map fun (value, rest) =>
        ((key, value), rest)
    | none => none

def flowItems? (fuel : Nat) (first : Bool) (ts : List Token) : Option (Node × List Token) :=
  match fuel with
  | 0 => none
  | fuel + 1 =>
    let more := fun (item : Node) (rest : List Token) =>
      (flowItems? fuel false rest).map fun
        | (.sequence items, rest) => (Node.sequence (item :: items), rest)
        | other => other
    let item := fun (ts : List Token) =>
      match ts with
      | .key :: rest =>
        (flowPair? fuel .flowSequenceEnd rest).bind fun (pair, rest) => more (.mapping [pair]) rest
      | .flowSequenceEnd :: rest => some (.sequence [], rest)
      | ts => (node? fuel false ts).bind fun (n, rest) => more n rest
    match ts with
    | .flowSequenceEnd :: rest => some (.sequence [], rest)
    | .flowEntry :: rest => if first then none else item rest
    | ts => if first then item ts else none

def flowEntries? (fuel : Nat) (first : Bool) (ts : List Token) : Option (Node × List Token) :=
  match fuel with
  | 0 => none
  | fuel + 1 =>
    let more := fun (pair : Node × Node) (rest : List Token) =>
      (flowEntries? fuel false rest).map fun
        | (.mapping entries, rest) => (Node.mapping (pair :: entries), rest)
        | other => other
    let entry := fun (ts : List Token) =>
      match ts with
      | .key :: rest =>
        (flowPair? fuel .flowMappingEnd rest).bind fun (pair, rest) => more pair rest
      | .flowMappingEnd :: rest => some (.mapping [], rest)
      | ts => (node? fuel false ts).bind fun (n, rest) => more (n, .empty) rest
    match ts with
    | .flowMappingEnd :: rest => some (.mapping [], rest)
    | .flowEntry :: rest => if first then none else entry rest
    | ts => if first then entry ts else none

end

def dropEnds : List Token → List Token
  | .documentEnd :: ts => dropEnds ts
  | ts => ts

def document? (ts : List Token) : Option (Option Node) :=
  let fuel := 4 * ts.length + 8
  let content := match ts with
    | .documentStart :: rest => nodeUnless? fuel false [.documentStart, .documentEnd] rest
    | ts => node? fuel false ts
  match ts with
  | [] => some none
  | _ =>
    match content with
    | some (n, rest) => if (dropEnds rest).isEmpty then some (some n) else none
    | none => none

def Node.isScalar : Node → Bool
  | scalar .. => true
  | _ => false

def Node.isMergeMark : Node → Bool
  | scalar text plain => plain && text == mergeMark
  | _ => false

def Node.asKey : Node → Node
  | scalar text plain => .scalar text (plain && text != defaultMark)
  | n => n

def Node.entries? : Node → Option (List (Node × Node))
  | mapping entries => some entries
  | _ => none

/-- The entries that a value merges into a mapping: its own, or those of its items, the last item
first. -/
def Node.merged? : Node → Option (List (Node × Node))
  | mapping entries => some entries
  | sequence items => (items.mapM Node.entries?).map fun parts => parts.reverse.flatten
  | scalar .. => none

mutual

def Node.flattened : Node → Node
  | .scalar text plain => .scalar text plain
  | .sequence items => .sequence (flattenedItems items)
  | .mapping entries =>
    let (wrong, merged, own) := flattenedEntries entries
    .mapping (wrong ++ merged ++ own)

def flattenedItems : List Node → List Node
  | [] => []
  | n :: ns => n.flattened :: flattenedItems ns

def flattenedEntries : List (Node × Node) →
    List (Node × Node) × List (Node × Node) × List (Node × Node)
  | [] => ([], [], [])
  | (key, n) :: rest =>
    let (wrong, merged, own) := flattenedEntries rest
    if key.isMergeMark then
      match n.flattened.merged? with
      | some entries => (wrong, entries ++ merged, own)
      | none => ((key, .empty) :: wrong, merged, own)
    else (wrong, merged, (key.asKey, n.flattened) :: own)

end

def firstFlaws : List (Option Flaw) → List (Option Flaw) → List (Option Flaw)
  | a :: as, b :: bs => (a <|> b) :: firstFlaws as bs
  | as, [] => as
  | [], bs => bs

def flaw? (text : String) (plain : Bool) : Option Flaw :=
  if plain then
    match plainValue text with
    | .error flaw => some flaw
    | .ok _ => none
  else none

def keyFlaw? : Node → Option Flaw
  | .scalar text plain => flaw? text plain
  | _ => some .malformed

mutual

def Node.flaws : Node → List (Option Flaw)
  | .scalar text plain => [flaw? text plain]
  | .sequence items => itemFlaws items
  | .mapping entries => entryFlaws entries

def itemFlaws : List Node → List (Option Flaw)
  | [] => []
  | n :: ns => firstFlaws (if n.isScalar then n.flaws else none :: n.flaws) (itemFlaws ns)

def entryFlaws : List (Node × Node) → List (Option Flaw)
  | [] => []
  | (key, n) :: rest =>
    firstFlaws [keyFlaw? key]
      (firstFlaws (if n.isScalar then n.flaws else none :: n.flaws) (entryFlaws rest))

end

mutual

def Node.value : Node → Value
  | .scalar text plain => if plain then (plainValue text).toOption.getD .null else .text text
  | .sequence items => .list (itemValues items)
  | .mapping entries => .record (Fields.ofList (entryValues entries))

def itemValues : List Node → List Value
  | [] => []
  | n :: ns => n.value :: itemValues ns

def entryValues : List (Node × Node) → List (String × Value)
  | [] => []
  | (key, n) :: rest =>
    match key.value with
    | .text s => (s, n.value) :: entryValues rest
    -- A number, a date or null cannot be a key of a record.
    | _ => entryValues rest

end

/-- The value of a tree, unless a part of it has none; of several flaws the one nearest to the root
counts, and the first of those. -/
def Node.read (n : Node) : Except Flaw Value :=
  match n.flattened.flaws.findSome? id with
  | some flaw => .error flaw
  | none => .ok n.flattened.value

def read (text : String) : Except Flaw Value :=
  match tokens text with
  | .error e => .error e
  | .ok ts =>
    match document? ts with
    | none => .error .malformed
    | some none => .ok .null
    | some (some n) => n.read

end Folio.Document.Yaml
