import Folio.Portfolio.Snapshot
import Folio.Text.Layout
import Folio.Time.Duration

namespace Folio.Portfolio

open Folio.Text Folio.Time

structure Stats where
  skills : Nat := 0
  experiences : Nat := 0
  projects : Nat := 0
  certifications : Nat := 0
  featuredProjects : Nat := 0
  yearsWorked : Int := 0
  linesOfCode : Nat := 150000
  coffeeCups : Nat := 2847
  distribution : List (SkillCategory × Nat) := []
  deriving DecidableEq, Repr

def countIn (c : SkillCategory) : List (SkillCategory × Nat) → List (SkillCategory × Nat)
  | [] => [(c, 1)]
  | (d, n) :: rest => if d = c then (d, n + 1) :: rest else (d, n) :: countIn c rest

def distributionOf (skills : List Section) : List (SkillCategory × Nat) :=
  (skills.filterMap (·.skill?)).foldl (fun counts m => countIn m.category counts) []

def Stats.inCategory (s : Stats) (c : SkillCategory) : Nat :=
  (s.distribution.lookup c).getD 0

def monthsInRoles (now : Moment) (roles : List Section) : Except ZoneClash Int :=
  let spans := roles.filterMap fun s => s.startDate.map (·, s.endDate.getD now)
  (spans.mapM fun span => monthsBetween span.1 span.2).map totalMonths

def statsOf (data : Option Snapshot) (now : Moment) : Except ZoneClash Stats :=
  match data with
  | none => .ok {}
  | some p => do
    let months ← monthsInRoles now p.experiences
    return {
      skills := p.skills.length
      experiences := p.experiences.length
      projects := p.projects.length
      certifications := p.certifications.length
      featuredProjects := (p.projects.filter (·.isFeatured)).length
      yearsWorked := months / 12
      distribution := distributionOf p.skills }

def statsBanner : List String := [
  "╔═══════════════════════════════════════════════════════════╗",
  "║                  PORTFOLIO STATISTICS                     ║",
  "╚═══════════════════════════════════════════════════════════╝"]

def Stats.page (s : Stats) : String :=
  lines ([""] ++ statsBanner ++ [
    "",
    "📊 Content Overview:",
    s!"   ├─ Skills: {s.skills}",
    s!"   ├─ Work Experiences: {s.experiences}",
    s!"   ├─ Projects: {s.projects}",
    s!"   ├─ Featured Projects: {s.featuredProjects}",
    s!"   └─ Certifications: {s.certifications}",
    "",
    "💼 Professional Journey:",
    s!"   └─ Total Experience: {s.yearsWorked}+ years",
    "",
    "💻 Development Stats:",
    s!"   ├─ Lines of Code Written: ~{thousands s.linesOfCode}",
    s!"   └─ Coffee Consumed: {thousands s.coffeeCups} cups ☕",
    "",
    "🎯 Skill Distribution:",
    s!"   ├─ Frontend: {s.inCategory .frontend} skills",
    s!"   ├─ Backend: {s.inCategory .backend} skills",
    s!"   └─ Tools & DevOps: {s.inCategory .tools} skills",
    "",
    "🌟 Highlights:",
    s!"   • {s.featuredProjects} featured projects showcasing best work",
    s!"   • {s.certifications} professional certifications",
    "   • Full-stack expertise across modern tech stack",
    "   • Focus on performance, scalability, and user experience",
    "",
    "Type 'help' to explore more commands!",
    ""])

end Folio.Portfolio
