import Folio.Command.Token
import Folio.Text.Blank
import Folio.Text.Case
import Folio.Text.Search

namespace Folio.Command

open Folio.Text

inductive FlagValue where
  | text (s : String)
  | switch (on : Bool)
  deriving DecidableEq, Repr

def FlagValue.isTruthy : FlagValue → Bool
  | text s => !s.isEmpty
  | switch on => on

/-- Values of distinct flags, in the order in which the flags were first given. -/
structure Flags where
  entries : List (String × FlagValue) := []
  distinct : (entries.map Prod.fst).Nodup := by simp
  deriving DecidableEq, Repr

namespace Flags

def putIn (name : String) (value : FlagValue) :
    List (String × FlagValue) → List (String × FlagValue)
  | [] => [(name, value)]
  | (k, v) :: rest => if k = name then (k, value) :: rest else (k, v) :: putIn name value rest

theorem mem_keys_putIn {name k : String} {value : FlagValue} {entries : List (String × FlagValue)} :
    k ∈ (putIn name value entries).map Prod.fst ↔ k = name ∨ k ∈ entries.map Prod.fst := by
  induction entries with
  | nil => simp [putIn]
  | cons e rest ih =>
    obtain ⟨l, w⟩ := e
    by_cases h : l = name <;> grind [putIn]

theorem nodup_putIn {name : String} {value : FlagValue} {entries : List (String × FlagValue)}
    (h : (entries.map Prod.fst).Nodup) : ((putIn name value entries).map Prod.fst).Nodup := by
  induction entries with
  | nil => simp [putIn]
  | cons e rest ih =>
    obtain ⟨l, w⟩ := e
    by_cases hl : l = name
    · simpa [putIn, hl] using h
    · have hrest := ih (List.nodup_cons.1 h).2
      have hnot := (List.nodup_cons.1 h).1
      rw [putIn, if_neg hl, List.map_cons, List.nodup_cons]
      exact ⟨fun hm => (mem_keys_putIn.1 hm).elim hl hnot, hrest⟩

def put (name : String) (value : FlagValue) (f : Flags) : Flags :=
  ⟨putIn name value f.entries, nodup_putIn f.distinct⟩

def ofList (pairs : List (String × FlagValue)) : Flags :=
  pairs.foldl (fun f (k, v) => f.put k v) {}

def get? (f : Flags) (name : String) : Option FlagValue :=
  f.entries.lookup name

def isSet (f : Flags) (name : String) : Bool :=
  (f.get? name).any (·.isTruthy)

def sorted (f : Flags) : List (String × FlagValue) :=
  f.entries.mergeSort fun a b => a.1 ≤ b.1

def same (f g : Flags) : Bool :=
  f.entries.length == g.entries.length && f.entries.all fun (k, v) => g.get? k == some v

end Flags

structure Invocation where
  command : String
  args : List String := []
  flags : Flags := {}
  deriving DecidableEq, Repr

def isFlag (word : String) : Bool :=
  startsWith word "--"

def flagName (word : String) : String :=
  String.ofList (word.toList.drop 2)

def sortWords (args : List String) (flags : Flags) : List String → List String × Flags
  | [] => (args, flags)
  | [w] =>
    if isFlag w then (args, flags.put (flagName w) (.switch true)) else (args ++ [w], flags)
  | w :: v :: rest =>
    if isFlag w then
      if isFlag v then sortWords args (flags.put (flagName w) (.switch true)) (v :: rest)
      else sortWords args (flags.put (flagName w) (.text v)) rest
    else sortWords (args ++ [w]) flags (v :: rest)

namespace Invocation

def ofWords : List String → Invocation
  | [] => { command := "" }
  | w :: ws =>
    let (args, flags) := sortWords [] {} ws
    ⟨lower w, args, flags⟩

def parse (line : String) : Invocation :=
  ofWords (tokenize (strip line))

def isEmpty (i : Invocation) : Bool :=
  i.command.isEmpty

def same (i j : Invocation) : Bool :=
  i.command == j.command && i.args == j.args && i.flags.same j.flags

def key (i : Invocation) : String × List String × List (String × FlagValue) :=
  (i.command, i.args, i.flags.sorted)

end Invocation

end Folio.Command
