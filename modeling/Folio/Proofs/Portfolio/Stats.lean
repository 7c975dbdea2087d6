import Folio.Portfolio.Skills
import Folio.Proofs.Portfolio.Timeline
import Folio.Proofs.Time.Phrase
import Mathlib.Data.List.Induction

namespace Folio.Portfolio

open Folio.Command Folio.Text Folio.Time

section Distribution

variable {c d : SkillCategory}

theorem lookup_countIn (c d : SkillCategory) (counts : List (SkillCategory × Nat)) :
    ((countIn c counts).lookup d).getD 0 =
      (counts.lookup d).getD 0 + if c = d then 1 else 0 := by
  induction counts with
  | nil =>
    by_cases hd : d = c
    · simp [countIn, hd]
    · simp [countIn, List.lookup_cons, beq_false_of_ne hd, Ne.symm hd]
  | cons count counts ih =>
    obtain ⟨e, n⟩ := count
    rw [countIn]
    split
    next hec =>
      by_cases hd : d = e
      · simp [hd, hec]
      · have hcd : c ≠ d := fun h => hd (h.symm.trans hec.symm)
        simp [List.lookup_cons, beq_false_of_ne hd, hcd]
    next hec =>
      by_cases hd : d = e
      · have hcd : c ≠ d := fun h => hec (hd.symm.trans h.symm)
        simp [hd, Ne.symm hec]
      · simp [List.lookup_cons, beq_false_of_ne hd, ih]

theorem sum_countIn (c : SkillCategory) (counts : List (SkillCategory × Nat)) :
    ((countIn c counts).map Prod.snd).sum = (counts.map Prod.snd).sum + 1 := by
  induction counts with
  | nil => rfl
  | cons count counts ih =>
    rw [countIn]
    split
    · simp only [List.map_cons, List.sum_cons]
      omega
    · simp only [List.map_cons, List.sum_cons, ih]
      omega

theorem lookup_distributionOf (skills : List Section) (c : SkillCategory) :
    ((distributionOf skills).lookup c).getD 0 =
      (skills.filterMap (·.skill?)).countP (·.category = c) := by
  rw [distributionOf]
  induction skills.filterMap (·.skill?) using List.reverseRecOn with
  | nil => rfl
  | append_singleton ms m ih =>
    rw [List.foldl_concat, lookup_countIn, ih, List.countP_append, List.countP_singleton]
    simp

theorem countP_asSkill (skills : List Section) (hc : c ≠ .other) :
    skills.countP (·.asSkill.category = c) =
      (skills.filterMap (·.skill?)).countP (·.category = c) := by
  induction skills with
  | nil => rfl
  | cons s skills ih =>
    rw [List.countP_cons, ih, List.filterMap_cons]
    cases hs : s.skill? with
    | none => simp [Section.asSkill, hs, Ne.symm hc]
    | some m => simp [Section.asSkill, hs, List.countP_cons]

theorem sum_distributionOf (skills : List Section) : ((distributionOf skills).map Prod.snd).sum =
    (skills.filter (·.skill?.isSome)).length := by
  have hcounted : (skills.filter (·.skill?.isSome)).length =
      (skills.filterMap (·.skill?)).length := by
    induction skills with
    | nil => rfl
    | cons s skills ih => cases hs : s.skill? <;> simp [hs, ih]
  rw [hcounted, distributionOf]
  clear hcounted
  induction skills.filterMap (·.skill?) using List.reverseRecOn with
  | nil => rfl
  | append_singleton ms m ih => rw [List.foldl_concat, sum_countIn, ih, List.length_append,
    List.length_singleton]

end Distribution

theorem statsOf_eq_ok {p : Snapshot} {now : Moment} {stats : Stats} :
    statsOf (some p) now = .ok stats ↔ ∃ months, monthsInRoles now p.experiences = .ok months ∧
      stats = {
        skills := p.skills.length
        experiences := p.experiences.length
        projects := p.projects.length
        certifications := p.certifications.length
        featuredProjects := (p.projects.filter (·.isFeatured)).length
        yearsWorked := months / 12
        distribution := distributionOf p.skills } := by
  simp only [statsOf, bind, Except.bind]
  cases monthsInRoles now p.experiences with
  | error clash => simp
  | ok months => simp [pure, Except.pure, eq_comm]

section Listings

theorem skillListing_total (flags : Flags) {skills : List Section} (hne : skills ≠ []) :
    lastLabelled? "Total Skills: " (skillListing flags skills) =
      some (toString (selectedSkills (selectedCategory flags) skills).length) := by
  have hempty : ¬ skills.isEmpty = true := by simpa using hne
  have htotal (n : Nat) : '\n' ∉ ("Total Skills: " ++ toString n).toList :=
    newline_notMem_append (by decide) (newline_notMem_toString n)
  rw [skillListing, if_neg hempty]
  refine lastLabelled?_lines (List.cons_ne_nil _ _) (List.forall_mem_cons.2 ⟨htotal _, ?_⟩) ?_
  · cases selectedCategory flags with
    | none => decide
    | some c => exact List.forall_mem_nil _
  · cases selectedCategory flags with
    | none => decide
    | some c => exact List.forall_mem_singleton.2 rfl

def projectCount (shown total : Nat) : String :=
  s!"{shown} of {total} projects"

theorem showing_projectCount (shown total : Nat) :
    s!"Showing {shown} of {total} projects" = "Showing " ++ projectCount shown total := by
  simp only [projectCount, String.append_assoc]
  rfl

theorem projectListing_count (flags : Flags) (now : Moment) {projects : List Section}
    (hne : projects ≠ []) :
    lastLabelled? "Showing " (projectListing flags now projects) = some (projectCount
      (selectedProjects (flags.isSet "featured") projects).length projects.length) := by
  have hempty : ¬ projects.isEmpty = true := by simpa using hne
  have hcount (n m : Nat) : '\n' ∉ ("Showing " ++ projectCount n m).toList := by
    refine newline_notMem_append (by decide) ?_
    exact newline_notMem_append (newline_notMem_append (newline_notMem_append
      (newline_notMem_toString n) (by decide)) (newline_notMem_toString m)) (by decide)
  have hlength : (latestYearFirst now (selectedProjects (flags.isSet "featured") projects)).length =
      (selectedProjects (flags.isSet "featured") projects).length := List.length_mergeSort _
  rw [projectListing_eq]
  dsimp only
  rw [if_neg hempty, showing_projectCount, ← hlength]
  refine lastLabelled?_page _ _ _ (List.forall_mem_cons.2 ⟨hcount _ _, ?_⟩) ?_
  · split
    · decide
    · decide
  · split
    · decide
    · decide

theorem length_dated {now : Moment} {sections : List Section} {records : List (Section × Moment)}
    (h : dated now sections = .ok records) : records.length = sections.length := by
  rw [dated, Moment.latestFirst] at h
  split at h
  · rw [← Except.ok.inj h, List.length_mergeSort, List.length_map]
  · cases h

theorem certificationListing_total {now : Moment} {sections : List Section} {text : String}
    (hne : sections ≠ []) (h : certificationListing now sections = .ok text) :
    lastLabelled? "Total Certifications: " text = some (toString sections.length) := by
  have hempty : ¬ sections.isEmpty = true := by simpa using hne
  have htotal (n : Nat) : '\n' ∉ ("Total Certifications: " ++ toString n).toList :=
    newline_notMem_append (by decide) (newline_notMem_toString n)
  rw [certificationListing_eq, if_neg hempty] at h
  cases hdated : dated now sections with
  | error clash =>
    rw [hdated] at h
    cases h
  | ok records =>
    rw [hdated] at h
    rw [← Except.ok.inj h, ← length_dated hdated]
    exact lastLabelled?_page _ _ _ (List.forall_mem_singleton.2 (htotal _))
      (List.forall_mem_singleton.2 rfl)

end Listings

def yearsLine (stats : Stats) : String :=
  "   └─ Total Experience: " ++ toString stats.yearsWorked ++ "+ years"

theorem yearsLine_mem_page (stats : Stats) : yearsLine stats ∈ shownLines stats.page := by
  have hline : '\n' ∉ (yearsLine stats).toList :=
    newline_notMem_append (newline_notMem_append (by decide)
      (notMem_toString (by decide) (by decide) stats.yearsWorked)) (by decide)
  refine mem_shownLines_lines (List.mem_append_right _ (List.mem_of_getElem? (i := 9) ?_)) hline
  rfl

end Folio.Portfolio
