import Folio.Proofs.Command.Hidden
import Folio.Proofs.Command.Suggestion

namespace Folio.Command

open Folio.Text

def sought (typed : String) : String := lower (strip typed)

def asked : List String → String
  | [] => ""
  | names => s!"\n\nDid you mean: {listed names}?"

theorem sought_eq_empty {typed : String} : sought typed = "" ↔ strip typed = "" := by
  rw [← String.isEmpty_iff, sought, isEmpty_lower, String.isEmpty_iff]

theorem sought_append {p : String} (hp : strip p ≠ "") (t : String) :
    (sought p).toList <+: (sought (p ++ t)).toList ∨
      'σ' ∈ (sought (p ++ t)).toList ∨ 'ς' ∈ (sought (p ++ t)).toList := by
  obtain ⟨rest, hrest⟩ := strip_prefix_append hp t
  simp only [sought, lower, String.toList_ofList, ← hrest]
  by_cases hsigma : 'Σ' ∈ (strip p).toList
  · exact .inr (sigma_mem_lowerAfter (List.mem_append_left rest hsigma) [])
  · exact .inl (lowerAfter_prefix_append hsigma [] rest)

theorem startsWith_iff {s pattern : String} :
    startsWith s pattern = true ↔ pattern.toList <+: s.toList :=
  List.isPrefixOf_iff_prefix

namespace Registry

structure Offers (r : Registry) (h : Handler) (name : String) : Prop where
  visible : h.isVisible = true
  canonical : h.key = name
  runs : ∀ (i : Invocation) context, i.command = name →
    r.execute i context = h.answer i (r.shown context)

section Completions

variable {r : Registry} {p q name : String}

theorem completions_eq (h : sought p ≠ "") :
    r.completions p = r.visibleNames.filter (startsWith · (sought p)) := by
  have hempty : ¬ (lower (strip p)).isEmpty = true := fun he => h (String.isEmpty_iff.1 he)
  simp only [completions, if_neg hempty]
  rfl

theorem mem_completions : name ∈ r.completions p ↔
    sought p ≠ "" ∧ name ∈ r.visibleNames ∧ (sought p).toList <+: name.toList := by
  by_cases h : sought p = ""
  · have hempty : (lower (strip p)).isEmpty = true := String.isEmpty_iff.2 h
    simp [completions, hempty, h]
  · simp [completions_eq h, h, startsWith_iff]

theorem completion?_eq_some : r.completion? p = some name ↔ r.completions p = [name] := by
  rw [completion?]
  split
  next only hone => simp [hone]
  next hnone => simpa using hnone name

theorem completions_extend (hp : sought p ≠ "") (h : (sought p).toList <+: (sought q).toList) :
    r.completions q = (r.completions p).filter (startsWith · (sought q)) := by
  have hq : sought q ≠ "" := by
    rintro hq
    rw [hq] at h
    exact hp (String.toList_inj.1 (List.prefix_nil.1 h))
  rw [completions_eq hp, completions_eq hq, List.filter_filter]
  apply List.filter_congr
  intro name _
  rw [Bool.eq_iff_iff, Bool.and_eq_true, startsWith_iff, startsWith_iff]
  exact ⟨fun hname => ⟨hname, h.trans hname⟩, And.left⟩

theorem completion?_extend (hp : r.completion? p = some name)
    (h : (sought p).toList <+: (sought q).toList) (hname : (sought q).toList <+: name.toList) :
    r.completion? q = some name := by
  have hone := completion?_eq_some.1 hp
  have hmem : name ∈ r.completions p := by simp [hone]
  rw [completion?_eq_some, completions_extend (mem_completions.1 hmem).1 h, hone]
  simp [startsWith_iff, hname]

end Completions

theorem mem_suggestions {r : Registry} {command name : String} (h : name ∈ r.suggestions command) :
    name ∈ r.visibleNames := by
  have hroom : (([] : List String).length : Int) < max 1 (maxSuggestions : Int) := by decide
  rw [suggestions, similarTo, gather_eq hroom, List.nil_append] at h
  exact List.mem_of_mem_filter (List.mem_of_mem_take h)

theorem text_notFound (r : Registry) (command : String) :
    (notFound r command).text =
      s!"Command not found: {command}{asked (r.suggestions command)}" := by
  rw [notFound]
  cases r.suggestions command <;> rfl

theorem key_ne_empty {as hs : List Handler} {h : Handler} (hh : h ∈ accepted (holding as) hs) :
    h.key ≠ "" := by
  induction hs generalizing as with
  | nil => cases hh
  | cons g hs ih =>
    rw [accepted_cons] at hh
    split at hh
    · exact ih hh
    next hg =>
      obtain rfl | hrest := List.mem_cons.1 hh
      · exact fun hempty => hg (.inl hempty)
      · exact ih hrest

theorem offers_holding {hs : List Handler} (hd : Distinct hs) (hnames : ∀ h ∈ hs, h.key ≠ "")
    {name : String} (hname : name ∈ (holding hs).visibleNames) :
    ∃ h ∈ hs, Offers (holding hs) h name := by
  rw [visibleNames_holding] at hname
  obtain ⟨h, hmem, rfl⟩ := List.mem_map.1 hname
  obtain ⟨hh, hvisible⟩ := List.mem_filter.1 hmem
  refine ⟨h, hh, hvisible, rfl, ?_⟩
  intro i context hi
  have hkey : lower h.key = h.key := lower_lower h.info.name
  have hanswers : h.answersTo i.command = true := by
    simp [Handler.answersTo, Handler.keys, hi, hkey]
  exact execute_found hd (hi ▸ hnames h hh) (get?_holding hd hh hanswers)

/-- All that a registry of some handlers offers can be run: the names that a text is completed to,
and those that are listed when a command is not found. -/
structure RunsOffered (r : Registry) (hs : List Handler) : Prop where
  completed : ∀ typed, ∀ name ∈ r.completions typed, ∃ h ∈ hs, r.Offers h name
  suggested : ∀ (i : Invocation) context, i.command ≠ "" → r.get? i.command = none →
    ∃ names output, r.execute i context = .ok ⟨output, context.theme⟩ ∧
      output.text = s!"Command not found: {lower i.command}{asked names}" ∧
      names = r.suggestions (lower i.command) ∧ ∀ name ∈ names, ∃ h ∈ hs, r.Offers h name

theorem runsOffered_attemptAll (hs : List Handler) :
    (attemptAll {} hs).RunsOffered (accepted {} hs) := by
  have hrun : attemptAll {} hs = holding (accepted {} hs) := attemptAll_holding [] hs
  have hd : Distinct (accepted {} hs) := distinct_accepted distinct_nil hs
  have hnames : ∀ h ∈ accepted {} hs, h.key ≠ "" := fun h => @key_ne_empty [] hs h
  rw [hrun]
  constructor
  · intro typed name hname
    exact offers_holding hd hnames (mem_completions.1 hname).2.1
  · intro i context hcommand hnone
    refine ⟨_, _, execute_notFound hd hcommand hnone, text_notFound _ _, rfl, ?_⟩
    intro name hname
    exact offers_holding hd hnames (mem_suggestions hname)

/-- Typing on narrows what a text is completed to: a completion is its own and that of all that is
typed on the way to it, and whatever is added only drops names. -/
structure Narrows (r : Registry) : Prop where
  self : ∀ p name, r.completion? p = some name → r.completion? name = some name
  between : ∀ p q name, r.completion? p = some name → (sought p).toList <+: (sought q).toList →
    (sought q).toList <+: name.toList → r.completion? q = some name
  fewer : ∀ p t, strip p ≠ "" → (r.completions (p ++ t)).Sublist (r.completions p)

section Narrows

variable {r : Registry}

theorem completion?_self (hnames : ∀ name ∈ r.visibleNames, sought name = name) {p name : String}
    (hp : r.completion? p = some name) : r.completion? name = some name := by
  have hmem : name ∈ r.completions p := by simp [completion?_eq_some.1 hp]
  obtain ⟨-, hvisible, hstarts⟩ := mem_completions.1 hmem
  have hname := hnames name hvisible
  exact completion?_extend hp (by rwa [hname]) (by rw [hname])

theorem completions_append (hnames : ∀ name ∈ r.visibleNames, 'σ' ∉ name.toList ∧ 'ς' ∉ name.toList)
    {p : String} (hp : strip p ≠ "") (t : String) :
    (r.completions (p ++ t)).Sublist (r.completions p) := by
  obtain hstarts | hsigma := sought_append hp t
  · rw [completions_extend (mt sought_eq_empty.1 hp) hstarts]
    exact List.filter_sublist
  · have hnone : r.completions (p ++ t) = [] := by
      rw [List.eq_nil_iff_forall_not_mem]
      intro name hname
      obtain ⟨-, hvisible, hstarts⟩ := mem_completions.1 hname
      obtain ⟨hsmall, hfinal⟩ := hnames name hvisible
      obtain hmem | hmem := hsigma
      · exact hsmall (hstarts.subset hmem)
      · exact hfinal (hstarts.subset hmem)
    rw [hnone]
    exact List.nil_sublist _

theorem narrows_of_names (hnames : ∀ name ∈ r.visibleNames,
    sought name = name ∧ 'σ' ∉ name.toList ∧ 'ς' ∉ name.toList) : r.Narrows where
  self _ _ hp := completion?_self (fun name hname => (hnames name hname).1) hp
  between _ _ _ hp := completion?_extend hp
  fewer _ t hp := completions_append (fun name hname => (hnames name hname).2) hp t

end Narrows

end Registry

end Folio.Command
