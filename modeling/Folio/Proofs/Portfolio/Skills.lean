import Folio.Portfolio.Skills
import Folio.Proofs.Sorted
import Folio.Proofs.Text.Line
import Mathlib.Data.Int.Order.Basic
import Mathlib.Data.List.Induction
import Mathlib.Data.List.Nodup
import Mathlib.Data.List.Perm.Basic
import Mathlib.Data.List.Perm.Lattice

namespace Folio

theorem eraseDups_concat [DecidableEq α] (as : List α) (a : α) :
    (as ++ [a]).eraseDups = as.eraseDups ++ if a ∈ as then [] else [a] := by
  rw [List.eraseDups_append]
  by_cases h : a ∈ as
  · simp [List.removeAll, h]
  · simp [List.removeAll, h, List.eraseDups_cons]

theorem nodup_eraseDups [DecidableEq α] (as : List α) : as.eraseDups.Nodup := by
  induction as using List.reverseRecOn with
  | nil => exact List.nodup_nil
  | append_singleton as a ih =>
    rw [eraseDups_concat]
    split
    next => rwa [List.append_nil]
    next h =>
      refine List.nodup_append.2 ⟨ih, List.nodup_singleton a, ?_⟩
      rintro b hb c hc rfl
      exact h (List.mem_singleton.1 hc ▸ List.mem_eraseDups.1 hb)

namespace Portfolio

open Folio.Command Folio.Text

def groupsOf (skills : List Section) : List (SkillCategory × List Section) :=
  (skills.map (·.asSkill.category)).eraseDups.map fun c =>
    (c, skills.filter (·.asSkill.category = c))

section Groups

variable {s : Section} {groups : List (SkillCategory × List Section)} {skills : List Section}

theorem addToGroup_new (h : s.asSkill.category ∉ groups.map Prod.fst) :
    addToGroup s groups = groups ++ [(s.asSkill.category, [s])] := by
  induction groups with
  | nil => rfl
  | cons g groups ih =>
    simp only [List.map_cons, List.mem_cons, not_or] at h
    rw [addToGroup, if_neg (Ne.symm h.1), ih h.2, List.cons_append]

theorem addToGroup_old (hnodup : (groups.map Prod.fst).Nodup)
    (h : s.asSkill.category ∈ groups.map Prod.fst) : addToGroup s groups =
      groups.map fun g => (g.1, g.2 ++ if s.asSkill.category = g.1 then [s] else []) := by
  induction groups with
  | nil => cases h
  | cons g groups ih =>
    obtain ⟨hnew, hnodup⟩ := List.nodup_cons.1 hnodup
    rw [addToGroup, List.map_cons]
    split
    next heq =>
      -- No other group is one of this category.
      have hrest : groups.map
          (fun g => (g.1, g.2 ++ if s.asSkill.category = g.1 then [s] else [])) = groups := by
        refine (List.map_congr_left fun g' hg' => ?_).trans (List.map_id groups)
        have hne : s.asSkill.category ≠ g'.1 := fun hsame =>
          hnew (heq.trans hsame ▸ List.mem_map_of_mem hg')
        rw [if_neg hne, List.append_nil]
        rfl
      rw [hrest, if_pos heq.symm]
    next hne =>
      rw [ih hnodup ((List.mem_cons.1 h).resolve_left (Ne.symm hne)), if_neg (Ne.symm hne),
        List.append_nil]

theorem fst_groupsOf (skills : List Section) :
    (groupsOf skills).map Prod.fst = (skills.map (·.asSkill.category)).eraseDups := by
  simp [groupsOf, Function.comp_def]

theorem groupsOf_concat (skills : List Section) (s : Section) :
    groupsOf (skills ++ [s]) = addToGroup s (groupsOf skills) := by
  have hnodup : ((groupsOf skills).map Prod.fst).Nodup := fst_groupsOf skills ▸ nodup_eraseDups _
  have hfilter (c : SkillCategory) : (skills ++ [s]).filter (·.asSkill.category = c) =
      skills.filter (·.asSkill.category = c) ++ if s.asSkill.category = c then [s] else [] := by
    rw [List.filter_append, List.filter_singleton]
    simp
  rw [groupsOf, List.map_append, List.map_singleton, eraseDups_concat]
  simp only [hfilter]
  by_cases h : s.asSkill.category ∈ skills.map (·.asSkill.category)
  · have hold : s.asSkill.category ∈ (groupsOf skills).map Prod.fst := by
      rwa [fst_groupsOf, List.mem_eraseDups]
    rw [addToGroup_old hnodup hold, if_pos h, List.append_nil, groupsOf, List.map_map]
    rfl
  · have hnew : s.asSkill.category ∉ (groupsOf skills).map Prod.fst := by
      rwa [fst_groupsOf, List.mem_eraseDups]
    have hnone : skills.filter (·.asSkill.category = s.asSkill.category) = [] := by
      rw [List.filter_eq_nil_iff]
      intro t ht hsame
      exact h (of_decide_eq_true hsame ▸ List.mem_map_of_mem ht)
    rw [addToGroup_new hnew, if_neg h, List.map_append, List.map_singleton, hnone, if_pos rfl,
      groupsOf]
    refine congrArg (· ++ _) (List.map_congr_left fun c hc => ?_)
    have hne : s.asSkill.category ≠ c := fun hsame => h (hsame ▸ List.mem_eraseDups.1 hc)
    rw [if_neg hne, List.append_nil]

theorem grouped_eq (skills : List Section) : grouped skills = groupsOf skills := by
  induction skills using List.reverseRecOn with
  | nil => rfl
  | append_singleton skills s ih =>
    rw [groupsOf_concat, ← ih, grouped, List.foldl_concat, grouped]

theorem perm_addToGroup (s : Section) (groups : List (SkillCategory × List Section)) :
    ((addToGroup s groups).flatMap Prod.snd).Perm (groups.flatMap Prod.snd ++ [s]) := by
  induction groups with
  | nil => exact List.Perm.refl _
  | cons g groups ih =>
    rw [addToGroup]
    split
    · simp only [List.flatMap_cons, List.append_assoc]
      exact List.perm_append_comm.append_left g.2
    · simp only [List.flatMap_cons, List.append_assoc]
      exact ih.append_left g.2

theorem perm_grouped (skills : List Section) : ((grouped skills).flatMap Prod.snd).Perm skills := by
  induction skills using List.reverseRecOn with
  | nil => exact List.Perm.refl _
  | append_singleton skills s ih =>
    rw [grouped, List.foldl_concat]
    exact (perm_addToGroup s _).trans (ih.append_right [s])

def ranked (skills : List Section) : List (SkillCategory × List Section) :=
  (grouped skills).map fun g => (g.1, bestFirst g.2)

/-- Skills under their categories: each category that occurs stands once, where it first occurs, and
its skills are below it from the best rated to the least. -/
structure Grouping (groups : List (SkillCategory × List Section)) (skills : List Section) :
    Prop where
  categories : groups.map Prod.fst = (skills.map (·.asSkill.category)).eraseDups
  nodup : (groups.map Prod.fst).Nodup
  members : ∀ g ∈ groups, GreatestFirst (·.asSkill.proficiency) g.2
    (skills.filter (·.asSkill.category = g.1))
  perm : (groups.flatMap Prod.snd).Perm skills

theorem fst_ranked (skills : List Section) :
    (ranked skills).map Prod.fst = (skills.map (·.asSkill.category)).eraseDups := by
  rw [ranked, List.map_map, grouped_eq, ← fst_groupsOf]
  rfl

theorem grouping_ranked (skills : List Section) : Grouping (ranked skills) skills where
  categories := fst_ranked skills
  nodup := fst_ranked skills ▸ nodup_eraseDups _
  members g hg := by
    obtain ⟨g, hgroup, rfl⟩ := List.mem_map.1 hg
    rw [grouped_eq] at hgroup
    obtain ⟨c, -, rfl⟩ := List.mem_map.1 hgroup
    exact greatestFirst_sorted _ _
  perm := by
    rw [ranked, List.flatMap_map]
    exact (List.Perm.flatMap_left _ fun g _ => List.mergeSort_perm g.2 _).trans
      (perm_grouped skills)

theorem Grouping.unique {groups groups' : List (SkillCategory × List Section)}
    (h : Grouping groups skills) (h' : Grouping groups' skills) : groups = groups' := by
  have hfst : groups.map Prod.fst = groups'.map Prod.fst := h.categories.trans h'.categories.symm
  refine List.ext_getElem (by simpa using congrArg List.length hfst) fun n hn hn' => ?_
  have hcategory := List.getElem_of_eq hfst (by rwa [List.length_map])
  rw [List.getElem_map, List.getElem_map] at hcategory
  refine Prod.ext hcategory ((h.members _ (List.getElem_mem hn)).unique ?_)
  exact hcategory ▸ h'.members _ (List.getElem_mem hn')

end Groups

theorem selectedCategory_eq (flags : Flags) : selectedCategory flags =
    if flags.isSet "frontend" then some .frontend
    else if flags.isSet "backend" then some .backend
    else if flags.isSet "tools" then some .tools
    else none := by
  simp only [selectedCategory, flagCategories, List.find?_cons, List.find?_nil, SkillCategory.name]
  cases flags.isSet "frontend" <;> cases flags.isSet "backend" <;> cases flags.isSet "tools" <;> rfl

def skillHeading (c : SkillCategory) : String :=
  c.name.capitalize ++ ":"

theorem skillHeading_eq (c : SkillCategory) : skillHeading c = c.title ++ ":" := by
  cases c <;> decide

theorem skillHeading_injective : Function.Injective skillHeading := by
  have hall : ∀ c ∈ SkillCategory.all, ∀ d ∈ SkillCategory.all,
      skillHeading c = skillHeading d → c = d := by decide
  have hmem : ∀ c : SkillCategory, c ∈ SkillCategory.all := by rintro (_ | _) <;> decide
  exact fun c d h => hall c (hmem c) d (hmem d) h

/-- The page of rows under their categories, of one category or of all. -/
def skillPage (category : Option SkillCategory) (groups : List (SkillCategory × List String)) :
    String :=
  let title := "Skills - " ++ category.elim "All Categories" fun c => c.name.capitalize
  let total := (groups.flatMap Prod.snd).length
  let tip := if category.isSome then []
    else ["", "Tip: Use --frontend, --backend, or --tools to filter by category"]
  "\n".intercalate (["", title, String.ofList (List.replicate title.length '='), ""] ++
    groups.flatMap (fun g => skillHeading g.1 :: g.2 ++ [""]) ++
    ("Total Skills: " ++ toString total) :: tip) ++ "\n"

theorem skillTitle_eq (category : Option SkillCategory) : skillTitle category =
    "Skills - " ++ category.elim "All Categories" fun c => c.name.capitalize := by
  obtain _ | (_ | _) := category <;> decide

theorem skillListing_eq (flags : Flags) {skills : List Section} (h : skills ≠ []) :
    skillListing flags skills = skillPage (selectedCategory flags)
      ((ranked (selectedSkills (selectedCategory flags) skills)).map
        fun g => (g.1, g.2.map skillRow)) := by
  have hempty : ¬ skills.isEmpty = true := by simpa using h
  generalize hselected : selectedSkills (selectedCategory flags) skills = selected
  have hrows : (((ranked selected).map fun g => (g.1, g.2.map skillRow)).flatMap Prod.snd).length =
      selected.length := by
    rw [List.flatMap_map, ← List.map_flatMap, List.length_map,
      (grouping_ranked selected).perm.length_eq]
  have hgroups : (grouped selected).flatMap skillGroup =
      ((ranked selected).map fun g => (g.1, g.2.map skillRow)).flatMap
        fun g => skillHeading g.1 :: g.2 ++ [""] := by
    rw [ranked, List.map_map, List.flatMap_map]
    simp only [skillHeading_eq]
    rfl
  unfold skillListing
  rw [if_neg hempty]
  simp only [hselected, skillPage, hrows, hgroups, ← skillTitle_eq, lines, joined_eq_intercalate]
  cases selectedCategory flags <;> rfl

end Portfolio

end Folio
