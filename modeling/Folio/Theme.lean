import Folio.Text.Blank
import Folio.Text.Case

namespace Folio

open Folio.Text

structure Rgb where
  red : Nat
  green : Nat
  blue : Nat
  deriving DecidableEq, Repr

structure Palette where
  background : Rgb
  text : Rgb
  accent : Rgb
  error : Rgb
  success : Rgb
  deriving DecidableEq, Repr

inductive Theme where
  | standard
  | cyberpunk
  | matrix
  | dracula
  deriving DecidableEq, Repr

namespace Theme

def all : List Theme := [standard, cyberpunk, matrix, dracula]

def name : Theme → String
  | standard => "default"
  | cyberpunk => "cyberpunk"
  | matrix => "matrix"
  | dracula => "dracula"

def names : List String := all.map name

def palette : Theme → Palette
  | standard => ⟨⟨0x0a, 0x0e, 0x27⟩, ⟨0xe0, 0xe0, 0xe0⟩, ⟨0x00, 0xff, 0x9f⟩, ⟨0xff, 0x6b, 0x6b⟩,
      ⟨0x51, 0xcf, 0x66⟩⟩
  | cyberpunk => ⟨⟨0x0d, 0x02, 0x21⟩, ⟨0xf7, 0x25, 0x85⟩, ⟨0x72, 0x09, 0xb7⟩, ⟨0xff, 0x00, 0x6e⟩,
      ⟨0x4c, 0xc9, 0xf0⟩⟩
  | matrix => ⟨⟨0x00, 0x00, 0x00⟩, ⟨0x00, 0xff, 0x00⟩, ⟨0x00, 0xff, 0x00⟩, ⟨0xff, 0x00, 0x00⟩,
      ⟨0x00, 0xff, 0x00⟩⟩
  | dracula => ⟨⟨0x28, 0x2a, 0x36⟩, ⟨0xf8, 0xf8, 0xf2⟩, ⟨0xbd, 0x93, 0xf9⟩, ⟨0xff, 0x55, 0x55⟩,
      ⟨0x50, 0xfa, 0x7b⟩⟩

def named? (name : String) : Option Theme :=
  let wanted := lower (strip name)
  all.find? (·.name = wanted)

def initial (name : Option String) : Except String Theme :=
  match name with
  | none => .ok standard
  | some n =>
    match named? n with
    | some t => .ok t
    | none => .error s!"Unknown theme: {n}"

end Theme

def hexPair (n : Nat) : List Char :=
  let ds := Nat.toDigits 16 n
  List.replicate (2 - ds.length) '0' ++ ds

def Rgb.hex (c : Rgb) : String :=
  String.ofList ('#' :: hexPair c.red ++ hexPair c.green ++ hexPair c.blue)

def Rgb.paint (c : Rgb) (text : String) : String :=
  s!"\x1b[38;2;{c.red};{c.green};{c.blue}m{text}\x1b[0m"

end Folio
