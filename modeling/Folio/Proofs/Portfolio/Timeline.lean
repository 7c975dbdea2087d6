import Folio.Portfolio.Stats
import Folio.Portfolio.Timeline
import Folio.Proofs.Portfolio.Snapshot
import Folio.Proofs.Sorted
import Folio.Proofs.Text.Line
import Folio.Proofs.Time.Duration

namespace Folio.Time

namespace Moment

theorem latestFirst_aware {items : List (α × Moment)} (h : ∀ p ∈ items, p.2.isAware = true) :
    latestFirst items = .ok (items.mergeSort fun a b => b.2.instant ≤ a.2.instant) := by
  have hall : items.all (·.2.isAware) = true := List.all_eq_true.2 h
  rw [latestFirst, hall, Bool.true_or, if_pos rfl]

end Moment

end Folio.Time

namespace Folio.Portfolio

open Folio.Command Folio.Number Folio.Text Folio.Time

/-- A page under a title: blocks with a separator between each two, and what closes the page. -/
def page (title : String) (separator : List String) (blocks : List (List String))
    (closing : List String) : String :=
  let bar := String.ofList (List.replicate 50 '=')
  "\n".intercalate (["", title, bar, ""] ++ separator.intercalate blocks ++ ["", bar] ++ closing) ++
    "\n"

theorem page_eq_lines (title : String) (separator : List String) (blocks : List (List String))
    (closing : List String) : page title separator blocks closing =
      lines (["", title, rule '=', ""] ++ separator.intercalate blocks ++ ["", rule '='] ++
        closing) ++ "\n" := by
  rw [lines, joined_eq_intercalate]
  rfl

theorem lastLabelled?_page {label value : String} {tip : List String} (title : String)
    (separator : List String) (blocks : List (List String))
    (hvalue : ∀ s ∈ (label ++ value) :: tip, '\n' ∉ s.toList)
    (htip : ∀ s ∈ "" :: tip, label.toList.isPrefixOf s.toList = false) :
    lastLabelled? label (page title separator blocks ((label ++ value) :: tip)) = some value := by
  rw [page_eq_lines]
  exact lastLabelled?_lines (List.cons_ne_nil _ _) hvalue htip

theorem separated_eq (separator : List String) (blocks : List (List String)) :
    separated separator blocks = separator.intercalate blocks := by
  induction blocks with
  | nil => rfl
  | cons block blocks ih =>
    cases blocks with
    | nil => exact (List.append_nil block).symm
    | cons next blocks => rw [separated, ih, List.intercalate_cons_cons]; simp

def divider : List String := ["", String.ofList (List.replicate 50 '-'), ""]

theorem certificationListing_eq (now : Moment) (sections : List Section) :
    certificationListing now sections =
      if sections.isEmpty then .ok "No certifications data available."
      else (dated now sections).map fun records =>
        page "Certifications & Achievements" divider (records.map certificationBlock)
          [s!"Total Certifications: {records.length}"] := by
  unfold certificationListing
  split
  · rfl
  · cases dated now sections with
    | error clash => rfl
    | ok records =>
      simp only [separated_eq, page_eq_lines, List.append_assoc, bind, Except.bind]
      rfl

section Sections

variable (now : Moment)

def startInstant (s : Section) : Int :=
  (s.startDate.getD now).instant

def atStart (s : Section) : Section × Moment :=
  (s, s.startDate.getD now)

def latest (sections : List Section) : List Section :=
  sections.mergeSort fun a b => startInstant now b ≤ startInstant now a

theorem greatestFirst_latest (sections : List Section) :
    GreatestFirst (startInstant now) (latest now sections) sections :=
  greatestFirst_sorted (startInstant now) sections

/-- The months from the start of a role to its end, or to the present. -/
def monthsIn (s : Section) : Int :=
  wholeMonths nearestDouble ((s.endDate.getD now).instant - startInstant now s)

def workBlock (s : Section) : List String :=
  roleBlock (atStart now s) (monthsIn now s)

end Sections

section Aware

variable {now : Moment} {sections : List Section} (hnow : now.isAware = true)
  (hsound : ∀ s ∈ sections, s.Sound)

include hnow

theorem Section.Sound.isAware_start {s : Section} (h : s.Sound) :
    (s.startDate.getD now).isAware = true := by
  cases hd : s.startDate with
  | none => exact hnow
  | some t => exact h.start t hd

theorem Section.Sound.isAware_stop {s : Section} (h : s.Sound) :
    (s.endDate.getD now).isAware = true := by
  cases hd : s.endDate with
  | none => exact hnow
  | some t => exact h.stop t hd

theorem monthsWorked_atStart {s : Section} (h : s.Sound) :
    monthsWorked now (atStart now s) = .ok (monthsIn now s) :=
  monthsBetween_aware (h.isAware_start hnow) (h.isAware_stop hnow)

include hsound

theorem dated_sound : dated now sections = .ok ((latest now sections).map (atStart now)) := by
  have haware : ∀ r ∈ sections.map (atStart now), r.2.isAware = true := by
    intro r hr
    obtain ⟨s, hs, rfl⟩ := List.mem_map.1 hr
    exact (hsound s hs).isAware_start hnow
  have hsorted : (latest now sections).map (atStart now) =
      (sections.map (atStart now)).mergeSort fun a b => b.2.instant ≤ a.2.instant :=
    List.map_mergeSort fun _ _ _ _ => rfl
  rw [hsorted]
  exact Moment.latestFirst_aware haware

theorem workListing_sound : workListing now sections = .ok
    (if sections.isEmpty then "No experience data available."
    else page "Work Experience" divider ((latest now sections).map (workBlock now))
      [s!"Total Experience: {monthsText ((latest now sections).map (monthsIn now)).sum}"]) := by
  have hmonths : ((latest now sections).map (atStart now)).mapM (monthsWorked now) =
      .ok ((latest now sections).map (monthsIn now)) := by
    rw [mapM_eq_ok, List.forall₂_map_left_iff, List.forall₂_map_right_iff, List.forall₂_same]
    intro s hs
    exact monthsWorked_atStart hnow (hsound s (List.mem_mergeSort.1 hs))
  have hblocks : List.zipWith roleBlock ((latest now sections).map (atStart now))
      ((latest now sections).map (monthsIn now)) = (latest now sections).map (workBlock now) := by
    rw [List.zipWith_map, List.zipWith_self]
    rfl
  unfold workListing
  split
  · rfl
  · simp only [dated_sound hnow hsound, hmonths, hblocks, separated_eq, totalMonths_eq_sum,
      page_eq_lines, List.append_assoc, bind, Except.bind]
    rfl

theorem certificationListing_sound : certificationListing now sections = .ok
    (if sections.isEmpty then "No certifications data available."
    else page "Certifications & Achievements" divider
      ((latest now sections).map fun s => certificationBlock (atStart now s))
      [s!"Total Certifications: {(latest now sections).length}"]) := by
  rw [certificationListing_eq, dated_sound hnow hsound]
  split
  · rfl
  · simp only [Except.map, List.map_map, List.length_map]
    rfl

theorem monthsInRoles_sound : monthsInRoles now sections =
    .ok ((sections.filter (·.startDate.isSome)).map (monthsIn now)).sum := by
  have hspans : (sections.filterMap fun s => s.startDate.map (·, s.endDate.getD now)) =
      (sections.filter (·.startDate.isSome)).map
        fun s => (s.startDate.getD now, s.endDate.getD now) := by
    clear hsound
    induction sections with
    | nil => rfl
    | cons s sections ih => cases hs : s.startDate <;> simp [hs, ih]
  have hmonths : (sections.filterMap fun s => s.startDate.map (·, s.endDate.getD now)).mapM
      (fun span => monthsBetween span.1 span.2) =
        .ok ((sections.filter (·.startDate.isSome)).map (monthsIn now)) := by
    rw [hspans, mapM_eq_ok, List.forall₂_map_left_iff, List.forall₂_map_right_iff,
      List.forall₂_same]
    intro s hs
    exact monthsWorked_atStart hnow (hsound s (List.mem_filter.1 hs).1)
  rw [monthsInRoles, hmonths]
  rfl

end Aware

theorem projectListing_eq (flags : Flags) (now : Moment) (projects : List Section) :
    projectListing flags now projects =
      let featured := flags.isSet "featured"
      let shown := latestYearFirst now (selectedProjects featured projects)
      if projects.isEmpty then "No projects data available."
      else page (if featured then "Featured Projects" else "All Projects") [""]
        (shown.map (projectBlock now))
        (s!"Showing {shown.length} of {projects.length} projects" ::
          if !featured && projects.any (·.isFeatured) then
            ["", "Tip: Use --featured to show only featured projects"]
          else []) := by
  unfold projectListing
  split
  · rfl
  · simp only [separated_eq, page_eq_lines, List.append_assoc]
    rfl

theorem statsOf_sound {now : Moment} (hnow : now.isAware = true) {p : Snapshot} (h : p.Sound) :
    statsOf (some p) now = .ok {
      skills := p.skills.length
      experiences := p.experiences.length
      projects := p.projects.length
      certifications := p.certifications.length
      featuredProjects := (p.projects.filter (·.isFeatured)).length
      yearsWorked := ((p.experiences.filter (·.startDate.isSome)).map (monthsIn now)).sum / 12
      distribution := distributionOf p.skills } := by
  obtain ⟨-, hexperiences, -⟩ := Snapshot.sound_iff.1 h
  simp only [statsOf, monthsInRoles_sound hnow hexperiences, bind, Except.bind]
  rfl

end Folio.Portfolio
