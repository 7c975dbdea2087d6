import Folio.Proofs.Command.Registry
import Folio.Proofs.Document.Decode
import Folio.Terminal.Builtin

namespace Folio.Command

open Folio.Contact Folio.Terminal Folio.Text

def Handler.isVisible (h : Handler) : Bool := !h.info.hidden

theorem Distinct.filter {hs : List Handler} (hd : Distinct hs) (p : Handler → Bool) :
    Distinct (hs.filter p) := by
  obtain ⟨heach, hpair⟩ := List.nodup_flatMap.1 hd
  exact List.nodup_flatMap.2 ⟨fun h hh => heach h (List.mem_of_mem_filter hh), hpair.filter p⟩

namespace Registry

theorem registerAll_eq_ok {as hs : List Handler} {r : Registry} (hd : Distinct as)
    (h : hs.foldlM register (holding as) = .ok r) :
    r = holding (as ++ hs) ∧ Distinct (as ++ hs) ∧ ∀ g ∈ hs, g.key ≠ "" := by
  induction hs generalizing as with
  | nil =>
    cases h
    simpa using hd
  | cons g hs ih =>
    rw [List.foldlM_cons, bind_eq_ok] at h
    obtain ⟨next, hnext, hrest⟩ := h
    have hg : ¬ Refused as g := by
      intro hr
      obtain ⟨e, he⟩ := register_refused hr
      rw [he] at hnext
      cases hnext
    rw [register_ok hg] at hnext
    cases hnext
    obtain ⟨hr, hall, hnames⟩ := ih (distinct_append hd hg) hrest
    rw [List.append_assoc, List.singleton_append] at hr hall
    refine ⟨hr, hall, ?_⟩
    rintro f hf
    obtain rfl | hf := List.mem_cons.1 hf
    · exact fun hempty => hg (.inl hempty)
    · exact hnames f hf

theorem visible_holding (hs : List Handler) :
    (holding hs).visible = hs.filter Handler.isVisible := by
  simp only [visible, holding, List.filter_map, List.map_map]
  exact List.map_id _

theorem visibleNames_holding (hs : List Handler) :
    (holding hs).visibleNames = (hs.filter Handler.isVisible).map Handler.key := by
  simp only [visibleNames, holding, List.filter_map, List.map_map]
  rfl

section Visible

variable {hs : List Handler}

theorem visibleNames_visible (hs : List Handler) :
    (holding (hs.filter Handler.isVisible)).visibleNames = (holding hs).visibleNames := by
  simp [visibleNames_holding]

theorem shown_visible (hs : List Handler) (context : Context) :
    (holding (hs.filter Handler.isVisible)).shown context = (holding hs).shown context := by
  simp [shown, visible_holding]

theorem notFound_visible (hs : List Handler) (command : String) :
    notFound (holding (hs.filter Handler.isVisible)) command = notFound (holding hs) command := by
  simp [notFound, suggestions, visibleNames_visible]

theorem get?_visible (hd : Distinct hs) (x : String) :
    (holding (hs.filter Handler.isVisible)).get? x =
      ((holding hs).get? x).filter Handler.isVisible := by
  rw [← Option.head?_toList (o := (holding (hs.filter Handler.isVisible)).get? x),
    ← filter_answersTo (hd.filter Handler.isVisible), List.filter_comm, filter_answersTo hd,
    ← Option.toList_filter, Option.head?_toList]

theorem execute_visible (hd : Distinct hs) {i : Invocation} (context : Context)
    (h : ∀ g ∈ (holding hs).get? i.command, g.isVisible = true) :
    (holding (hs.filter Handler.isVisible)).execute i context = (holding hs).execute i context := by
  have hget : (holding (hs.filter Handler.isVisible)).get? i.command =
      (holding hs).get? i.command := by
    rw [get?_visible hd]
    cases hfull : (holding hs).get? i.command with
    | none => rfl
    | some g => exact Option.filter_some_pos (h g hfull)
  have hshown := shown_visible hs context
  simp only [shown] at hshown
  simp only [execute, get?_resolve hd, get?_resolve (hd.filter _), get?_lower, hget, hshown,
    notFound_visible]

end Visible

/-- When all registrations succeed, so do those of the visible handlers alone. Both registries
complete alike, show the help command the same, and give an invocation the same result unless it
names a hidden handler. What names no handler is not found in either, with the same suggestions. -/
theorem registerAll_visible {hs : List Handler} {full : Registry}
    (h : hs.foldlM register {} = .ok full) :
    ∃ part, (hs.filter Handler.isVisible).foldlM register {} = .ok part ∧
      (∀ typed, part.completions typed = full.completions typed ∧
        part.completion? typed = full.completion? typed ∧
        part.suggestions typed = full.suggestions typed) ∧
      (∀ s channel i context, Builtin.help.run s channel i (part.shown context) =
        Builtin.help.run s channel i (full.shown context)) ∧
      (∀ i context, (∀ g ∈ full.get? i.command, g.isVisible = true) →
        part.execute i context = full.execute i context) ∧
      ∀ i context, i.command ≠ "" → full.get? i.command = none →
        full.execute i context = .ok ⟨notFound full (lower i.command), context.theme⟩ ∧
        part.execute i context = .ok ⟨notFound full (lower i.command), context.theme⟩ := by
  obtain ⟨rfl, hd, hnames⟩ := @registerAll_eq_ok [] hs full distinct_nil h
  rw [List.nil_append] at hd ⊢
  have hvisible : ∀ g ∈ hs.filter Handler.isVisible, g.key ≠ "" :=
    fun g hg => hnames g (List.mem_of_mem_filter hg)
  refine ⟨_, @registerAll_ok [] _ hvisible (hd.filter _), ?_, ?_, ?_, ?_⟩
  · intro typed
    simp [completion?, completions, suggestions, visibleNames_visible]
  · intro s channel i context
    rw [List.nil_append, shown_visible]
  · intro i context hi
    exact execute_visible hd context hi
  · intro i context hname hnone
    have hsame := execute_visible hd context (i := i) (by simp [hnone])
    have hfull : (holding hs).execute i context = _ := execute_notFound hd hname hnone
    exact ⟨hfull, hsame.trans hfull⟩

def shadowed : List Handler := [
  Builtin.help.handler {} none,
  ⟨{ name := "show", aliases := ["s"] }, fun _ context => .ok ⟨.plain "show", context.theme⟩⟩,
  ⟨{ name := "Shown", aliases := ["sh"], hidden := true },
    fun _ context => .ok ⟨.plain "shown", context.theme⟩⟩]

theorem registerAll_visible_shadowed :
    ∃ full part, shadowed.foldlM register {} = .ok full ∧
      (shadowed.filter Handler.isVisible).foldlM register {} = .ok part ∧
      full.names = ["help", "show", "shown"] ∧ part.completions "sh" = ["show"] ∧
      part.suggestions "shwon" = ["show"] ∧ ∀ context,
        part.execute { command := "shwon" } context =
          .ok ⟨notFound full "shwon", context.theme⟩ := by
  have hnames : ∀ h ∈ shadowed, h.key ≠ "" := by decide +kernel
  have hd : Distinct shadowed := by
    unfold Distinct
    decide +kernel
  have h : shadowed.foldlM register {} = .ok (holding shadowed) :=
    @registerAll_ok [] shadowed hnames hd
  obtain ⟨part, hpart, hshown, -, -, hunknown⟩ := registerAll_visible h
  have hnone : (holding shadowed).get? "shwon" = none := by
    apply get?_holding_eq_none
    decide +kernel
  have hlower : lower "shwon" = "shwon" := by decide +kernel
  refine ⟨_, part, h, hpart, by decide +kernel, ?_, ?_, ?_⟩
  · rw [(hshown "sh").1]
    decide +kernel
  · rw [(hshown "shwon").2.2]
    decide +kernel
  · intro context
    have hsame := (hunknown { command := "shwon" } context (by decide) hnone).2
    rwa [hlower] at hsame

end Registry

end Folio.Command
