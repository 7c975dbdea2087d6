import Folio.Command.Invocation
import Folio.Number.Nearest
import Folio.Portfolio.Snapshot
import Folio.Text.Layout

namespace Folio.Portfolio

open Folio.Command Folio.Number Folio.Text

def barWidth : Int := 20

def proficiencyBar (proficiency : Int) : String :=
  -- A cell stands for five in a hundred.
  let filled := (proficiency + 2) / 5
  "[" ++ repeated filled '█' ++ repeated (barWidth - filled) '░' ++ "]"

/-- Why a proficiency far out of range has no bar, in the order in which it is found out. -/
inductive BarFault where
  | hugeShare
  | hugeBar
  | uncountable
  | noMemory
  deriving DecidableEq, Repr

def BarFault.message : BarFault → String
  | .hugeShare => "integer division result too large for a float"
  | .hugeBar => "cannot convert float infinity to integer"
  | .uncountable => "cannot fit 'int' into an index-sized integer"
  | .noMemory => ""

def doubleBound : Rat := mkRat (Nat.pow 2 1024 - Nat.pow 2 970) 1

def cellBound : Int := Nat.pow 2 63

def mostCells : Int := Nat.pow 2 31

def barFault? (proficiency : Int) : Option BarFault :=
  let share := nearestDouble (mkRat proficiency 100)
  let filled := share * barWidth
  let cells := filled.floor
  if doubleBound ≤ share.abs then some .hugeShare
  else if doubleBound ≤ filled.abs then some .hugeBar
  else if cells < -cellBound + barWidth ∨ cellBound ≤ cells then some .uncountable
  else if mostCells < cells.natAbs then some .noMemory
  else none

def drawBar (proficiency : Int) : Except BarFault String :=
  match barFault? proficiency with
  | some fault => .error fault
  | none => .ok (proficiencyBar proficiency)

def flagCategories : List SkillCategory := [.frontend, .backend, .tools]

def selectedCategory (flags : Flags) : Option SkillCategory :=
  flagCategories.find? fun c => flags.isSet c.name

def selectedSkills (category : Option SkillCategory) (skills : List Section) : List Section :=
  match category with
  | none => skills
  | some c => skills.filter (·.asSkill.category = c)

def addToGroup (s : Section) :
    List (SkillCategory × List Section) → List (SkillCategory × List Section)
  | [] => [(s.asSkill.category, [s])]
  | (c, members) :: groups =>
    if c = s.asSkill.category then (c, members ++ [s]) :: groups
    else (c, members) :: addToGroup s groups

def grouped (skills : List Section) : List (SkillCategory × List Section) :=
  skills.foldl (fun groups s => addToGroup s groups) []

def bestFirst (skills : List Section) : List Section :=
  skills.mergeSort fun a b => b.asSkill.proficiency ≤ a.asSkill.proficiency

def skillRow (s : Section) : String :=
  let p := s.asSkill.proficiency
  s!"  {padRight 20 s.title} {proficiencyBar p} {p}%"

def skillGroup (group : SkillCategory × List Section) : List String :=
  s!"{group.1.title}:" :: (bestFirst group.2).map skillRow ++ [""]

def skillTitle : Option SkillCategory → String
  | some c => s!"Skills - {c.title}"
  | none => "Skills - All Categories"

def skillListing (flags : Flags) (skills : List Section) : String :=
  if skills.isEmpty then "No skills data available."
  else
    let category := selectedCategory flags
    let selected := selectedSkills category skills
    let title := skillTitle category
    let tip := match category with
      | some _ => []
      | none => ["", "Tip: Use --frontend, --backend, or --tools to filter by category"]
    lines (["", title, repeated title.length '=', ""] ++ (grouped selected).flatMap skillGroup ++
      s!"Total Skills: {selected.length}" :: tip) ++ "\n"

end Folio.Portfolio
