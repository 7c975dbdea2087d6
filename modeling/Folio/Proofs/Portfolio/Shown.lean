import Folio.Proofs.Portfolio.Skills
import Folio.Proofs.Portfolio.Timeline
import Folio.Proofs.Time.Phrase

namespace Folio

theorem forall₂_map {R : α → β → Prop} {f : α → β} {as : List α} (h : ∀ a ∈ as, R a (f a)) :
    List.Forall₂ R as (as.map f) :=
  List.forall₂_map_right_iff.2 (List.forall₂_same.2 h)

namespace Portfolio

open Folio.Text Folio.Time

/-- What a section says as one of a kind, which is nothing if it is of another kind. -/
def Says (kind : α → Metadata) (nothing : α) (s : Section) (m : α) : Prop :=
  s.metadata = kind m ∨ (∀ n, s.metadata ≠ kind n) ∧ m = nothing

section Said

variable (s : Section)

theorem says_asSkill : Says .skill {} s s.asSkill := by
  unfold Section.asSkill Section.skill?
  split
  next m h => exact .inl h
  next h => exact .inr ⟨h, rfl⟩

theorem says_asExperience : Says .experience {} s s.asExperience := by
  unfold Section.asExperience
  split
  next m h => exact .inl h
  next h => exact .inr ⟨h, rfl⟩

theorem says_asProject : Says .project {} s s.asProject := by
  unfold Section.asProject
  split
  next m h => exact .inl h
  next h => exact .inr ⟨h, rfl⟩

theorem says_asCertification : Says .certification {} s s.asCertification := by
  unfold Section.asCertification
  split
  next m h => exact .inl h
  next h => exact .inr ⟨h, rfl⟩

end Said

section Dates

def IsMonth (names : List String) (t : Moment) (text : String) : Prop :=
  ∃ name, names[t.date.month - 1]? = some name ∧ text = name ++ " " ++ toString t.date.year

theorem isMonth_monthYear {names : List String} (h : names.length = 12) (t : Moment) :
    IsMonth names t (t.monthYear names) := by
  have hmonth := t.date.valid
  simp only [isDate, Bool.and_eq_true, decide_eq_true_eq] at hmonth
  have hlt : t.date.month - 1 < names.length := by omega
  refine ⟨names[t.date.month - 1], List.getElem?_eq_getElem hlt, ?_⟩
  rw [Moment.monthYear, List.getD_eq_getElem _ _ hlt]
  exact String.append_assoc.symm

def IsEnd : Option Moment → String → Prop
  | some t, text => IsMonth monthAbbreviations t text
  | none, text => text = "Present"

theorem isEnd_shown (stop : Option Moment) :
    IsEnd stop ((stop.map Moment.shortMonthYear).getD "Present") := by
  cases stop with
  | some t => exact isMonth_monthYear rfl t
  | none => rfl

end Dates

section Timeline

variable (now : Moment) (s : Section)

def IsPlace (location : Option String) (place : String) : Prop :=
  (location = some place ∧ place ≠ "") ∨ (location.getD "" = "" ∧ place = "Remote")

/-- A block of lines that shows a role: its title, its company and place, the months it started and
ended in with the time between them, its description and its technologies. -/
inductive ShowsRole : List String → Prop
  | mk (said : Says .experience {} s m) (placed : IsPlace m.location place)
      (started : IsMonth monthAbbreviations (s.startDate.getD now) start)
      (ended : IsEnd s.endDate stop) (lasted : readMonths? duration = some (monthsIn now s)) :
      ShowsRole [s.title, m.company ++ " • " ++ place,
        start ++ " - " ++ stop ++ " (" ++ duration ++ ")", "", s.description, "",
        "Technologies: " ++ ", ".intercalate m.technologies]

theorem showsRole_workBlock : ShowsRole now s (workBlock now s) := by
  have hshown {place : String} (hplace : IsPlace s.asExperience.location place) :=
    ShowsRole.mk (says_asExperience s) hplace (isMonth_monthYear rfl (s.startDate.getD now))
      (isEnd_shown s.endDate) (readMonths?_monthsText (monthsIn now s))
  rw [← joined_eq_intercalate] at hshown
  cases hgiven : s.asExperience.location with
  | none =>
    simp only [workBlock, roleBlock, atStart, hgiven]
    exact hshown (.inr ⟨by rw [hgiven]; rfl, rfl⟩)
  | some place =>
    by_cases hempty : place = ""
    · -- An empty place counts as none.
      simp only [workBlock, roleBlock, atStart, hgiven, String.isEmpty_iff, if_pos hempty]
      exact hshown (.inr ⟨by rw [hgiven]; exact hempty, rfl⟩)
    · simp only [workBlock, roleBlock, atStart, hgiven, String.isEmpty_iff, if_neg hempty]
      exact hshown (.inl ⟨hgiven, hempty⟩)

def inBrackets (l : String) : String :=
  String.ofList ((l.toList.reverse.drop 1).takeWhile (· != '(')).reverse

theorem inBrackets_append {text : String} (front : String) (h : '(' ∉ text.toList) :
    inBrackets (front ++ " (" ++ text ++ ")") = text := by
  have hinside : ∀ c ∈ text.toList.reverse, (c != '(') = true := by
    intro c hc
    rw [bne_iff_ne]
    rintro rfl
    exact h (List.mem_reverse.1 hc)
  have hlist : (front ++ " (" ++ text ++ ")").toList.reverse.drop 1 =
      text.toList.reverse ++ '(' :: ' ' :: front.toList.reverse := by
    simp
  rw [inBrackets, hlist, List.takeWhile_append_of_pos hinside,
    List.takeWhile_cons_of_neg (by decide), List.append_nil, List.reverse_reverse,
    String.ofList_toList]

def monthsShown? (block : List String) : Option Int :=
  block[2]?.bind fun l => readMonths? (inBrackets l)

theorem monthsShown?_workBlock : monthsShown? (workBlock now s) = some (monthsIn now s) := by
  have hline : (workBlock now s)[2]? = some (rangeText (s.startDate.getD now) s.endDate ++ " (" ++
      monthsText (monthsIn now s) ++ ")") := rfl
  have hbrackets : '(' ∉ (monthsText (monthsIn now s)).toList :=
    notMem_monthsText (by decide) (by decide) (by decide) _
  rw [monthsShown?, hline, Option.bind_some, inBrackets_append _ hbrackets, readMonths?_monthsText]

def givenLine (label : String) (given : Option String) : List String :=
  (given.filter (· ≠ "")).toList.map (label ++ ": " ++ ·)

theorem present_eq (label : String) (given : Option String) :
    present label given = givenLine label given := by
  cases given with
  | none => rfl
  | some text =>
    by_cases h : text = ""
    · simp [present, givenLine, h]
    · simp only [present, givenLine, Option.filter, String.isEmpty_iff, h, decide_true, if_false,
        ne_eq, not_false_eq_true, if_true, Option.toList_some, List.map_singleton]
      rfl

/-- A block of lines that shows a certification: its title, its issuer, the month it was issued in,
and its number and address if they are given. -/
inductive ShowsCertification : List String → Prop
  | mk (said : Says .certification {} s m)
      (issued : IsMonth monthNames (s.startDate.getD now) date) :
      ShowsCertification ([s.title, "Issued by: " ++ m.issuer, "Date: " ++ date] ++
        givenLine "Credential ID" m.credentialId ++ givenLine "Verify" m.credentialUrl)

theorem showsCertification_certificationBlock :
    ShowsCertification now s (certificationBlock (atStart now s)) := by
  have hshown := ShowsCertification.mk (says_asCertification s)
    (isMonth_monthYear rfl (s.startDate.getD now))
  simp only [← present_eq] at hshown
  exact hshown

/-- A block of lines that shows a project: its title, marked if it is featured, and the year it
started in, with a line below them, its description, what it is built with, and its addresses if
they are given. -/
inductive ShowsProject : List String → Prop
  | mk (said : Says .project {} s m) (marked : mark = if s.isFeatured then " ⭐" else "")
      (ruled : width = s.title.length + (if s.isFeatured then 3 else 0) + 7) :
      ShowsProject ([s.title ++ mark ++ " (" ++ toString (s.startDate.getD now).date.year ++ ")",
        String.ofList (List.replicate width '-'), s.description, "",
        "Tech Stack: " ++ ", ".intercalate m.techStack] ++
        givenLine "Live" m.liveUrl ++ givenLine "GitHub" m.githubUrl)

theorem showsProject_projectBlock : ShowsProject now s (projectBlock now s) := by
  have hshown := @ShowsProject.mk now s _ _ _ (says_asProject s) rfl rfl
  simp only [← present_eq, ← joined_eq_intercalate] at hshown
  exact hshown

end Timeline

/-- A row that shows a skill of a category: its title, a bar of twenty cells, of which as many are
filled as come nearest to the proficiency, and the proficiency. -/
inductive ShowsSkill (c : SkillCategory) (s : Section) : String → Prop
  | mk (said : Says .skill {} s m) (own : m.category = c)
      (nearest : |5 * filled - m.proficiency| ≤ 2)
      (padded : name = s.title ++ String.ofList (List.replicate (20 - s.title.length) ' '))
      (bar : cells = "[" ++ String.ofList (List.replicate filled.toNat '█') ++
        String.ofList (List.replicate (20 - filled).toNat '░') ++ "]") :
      ShowsSkill c s ("  " ++ name ++ " " ++ cells ++ " " ++ toString m.proficiency ++ "%")

theorem showsSkill_skillRow (s : Section) : ShowsSkill s.asSkill.category s (skillRow s) := by
  have hnearest : |5 * ((s.asSkill.proficiency + 2) / 5) - s.asSkill.proficiency| ≤ 2 := by
    rw [abs_le]
    omega
  exact ShowsSkill.mk (says_asSkill s) rfl hnearest rfl rfl

def ShowsGroups (groups : List (SkillCategory × List Section))
    (shown : List (SkillCategory × List String)) : Prop :=
  List.Forall₂ (fun g rows => rows.1 = g.1 ∧ List.Forall₂ (ShowsSkill g.1) g.2 rows.2) groups shown

theorem Grouping.showsGroups {groups : List (SkillCategory × List Section)} {skills : List Section}
    (h : Grouping groups skills) :
    ShowsGroups groups (groups.map fun g => (g.1, g.2.map skillRow)) := by
  refine forall₂_map fun g hg => ⟨rfl, forall₂_map fun s hs => ?_⟩
  have hown : s.asSkill.category = g.1 :=
    of_decide_eq_true (List.mem_filter.1 ((h.members g hg).perm.mem_iff.1 hs)).2
  exact hown ▸ showsSkill_skillRow s

end Portfolio

end Folio
