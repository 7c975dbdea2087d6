import Folio.Proofs.Settings.Overlay

namespace Folio

open Folio.Document

def IsAddress (key : String) : Option String → Prop
  | none => key = "owner_name"
  | some name => name ≠ "owner_name"

instance (key : String) (group? : Option String) : Decidable (IsAddress key group?) :=
  match group? with
  | none => inferInstanceAs (Decidable (key = "owner_name"))
  | some name => inferInstanceAs (Decidable (name ≠ "owner_name"))

namespace Environment

variable {o : Fields} {v : Value} {group? group'? : Option String} {key key' : String}

theorem at?_place (h : IsAddress key group?) (h' : IsAddress key' group'?) (v : Value)
    (o : Fields) : (place group'? key' v o).at? group? key =
      if group? = group'? ∧ key = key' then some v else o.at? group? key := by
  cases group'? with
  | none =>
    cases group? with
    | none => simp [place, Fields.at?, Fields.get?_put, h.trans h'.symm]
    | some name =>
      have hne : name ≠ key' := fun heq => h (heq.trans h')
      simp [place, Fields.at?, Fields.get?_put, hne]
  | some name' =>
    cases group? with
    | none =>
      have hne : key ≠ name' := fun heq => h' (heq.symm.trans h)
      simp [place, Fields.at?, Fields.get?_put, hne]
    | some name =>
      by_cases hname : name = name'
      · subst hname
        by_cases hkey : key = key'
        · simp [place, Fields.at?, within?, Fields.get?_put, hkey]
        · simp only [place, Fields.at?, Fields.get?_put, within?, hkey, if_true, if_false,
            and_false]
          cases o.get? name with
          | none => rfl
          | some w => cases w <;> rfl
      · simp [place, Fields.at?, Fields.get?_put, hname]

structure Sectioned (o : Fields) : Prop where
  keyed : o.Keyed
  uncovered : ∀ name, name ≠ "owner_name" → covers (o.get? name) = false

theorem sectioned_nil : Sectioned [] := ⟨Fields.keyed_nil, fun _ _ => rfl⟩

theorem sectioned_place (h : Sectioned o) (haddr : IsAddress key group?) (hv : v.IsLeaf) :
    Sectioned (place group? key v o) := by
  cases group? with
  | none =>
    refine ⟨h.keyed.put fun inner hrec => absurd hrec (hv inner), fun name hname => ?_⟩
    have hne : name ≠ key := fun heq => hname (heq.trans haddr)
    simpa [place, Fields.get?_put, hne] using h.uncovered name hname
  | some name' =>
    constructor
    · refine h.keyed.put fun inner hrec => ?_
      cases hrec
      refine Fields.distinct_put ?_
      split
      next fields hget => exact h.keyed.inner name' fields hget
      next => exact List.nodup_nil
    · intro name hname
      by_cases heq : name = name'
      · simp [place, Fields.get?_put, heq, covers]
      · simpa [place, Fields.get?_put, heq] using h.uncovered name hname

theorem at?_placeText (env : Environment) (o : Fields) {t : TextVariable}
    (h : IsAddress key group?) (ht : IsAddress t.key t.group?) :
    (placeText env o t).at? group? key =
      if group? = t.group? ∧ key = t.key then ((text? env t.name).map .text).or (o.at? group? key)
      else o.at? group? key := by
  rw [placeText]
  cases text? env t.name with
  | none => simp
  | some s => exact at?_place h ht (.text s) o

theorem sectioned_placeText (env : Environment) {t : TextVariable} (h : Sectioned o)
    (ht : IsAddress t.key t.group?) : Sectioned (placeText env o t) := by
  rw [placeText]
  cases text? env t.name with
  | none => exact h
  | some s => exact sectioned_place h ht nofun

theorem sectioned_foldl (env : Environment) {ts : List TextVariable} (h : Sectioned o)
    (hts : ∀ t ∈ ts, IsAddress t.key t.group?) : Sectioned (ts.foldl (placeText env) o) := by
  induction ts generalizing o with
  | nil => exact h
  | cons t ts ih =>
    obtain ⟨ht, hrest⟩ := List.forall_mem_cons.1 hts
    exact ih (sectioned_placeText env h ht) hrest

def variableAt? (group? : Option String) (key : String) (ts : List TextVariable) :
    Option TextVariable :=
  ts.find? fun t => group? = t.group? ∧ key = t.key

theorem at?_foldl (env : Environment) (ts : List TextVariable) (o : Fields)
    (h : IsAddress key group?) (hts : ∀ t ∈ ts, IsAddress t.key t.group?)
    (hnodup : (ts.map fun t => (t.group?, t.key)).Nodup) :
    (ts.foldl (placeText env) o).at? group? key =
      ((variableAt? group? key ts).bind fun t => (text? env t.name).map .text).or
        (o.at? group? key) := by
  induction ts generalizing o with
  | nil => rfl
  | cons t ts ih =>
    obtain ⟨ht, hrest⟩ := List.forall_mem_cons.1 hts
    obtain ⟨hnew, hnodup⟩ := List.nodup_cons.1 hnodup
    rw [List.foldl_cons, ih (placeText env o t) hrest hnodup, at?_placeText env o h ht]
    by_cases hhere : group? = t.group? ∧ key = t.key
    · have hnone : variableAt? group? key ts = none := by
        rw [variableAt?, List.find?_eq_none]
        intro t' ht' hsame
        obtain ⟨hgroup, hkey⟩ := of_decide_eq_true hsame
        refine hnew (List.mem_map.2 ⟨t', ht', ?_⟩)
        rw [← hgroup, ← hkey, hhere.1, hhere.2]
      have hsome : variableAt? group? key (t :: ts) = some t := by
        rw [variableAt?, List.find?_cons_of_pos (by simpa using hhere)]
      rw [if_pos hhere, hnone, hsome]
      rfl
    · have hskip : variableAt? group? key (t :: ts) = variableAt? group? key ts := by
        rw [variableAt?, List.find?_cons_of_neg (by simpa using hhere), variableAt?]
      rw [if_neg hhere, hskip]

theorem at?_overrides (env : Environment) (h : IsAddress key group?) :
    env.overrides.at? group? key =
      if group? = some "contact" ∧ key = "timeout" then env.timeout?.map .float
      else (variableAt? group? key textVariables).bind fun t => (text? env t.name).map .text := by
  have hempty : Fields.at? [] group? key = none := by cases group? <;> rfl
  have htexts := at?_foldl env textVariables [] h (by decide) (by decide)
  rw [hempty, Option.or_none] at htexts
  rw [overrides]
  by_cases htimeout : group? = some "contact" ∧ key = "timeout"
  · obtain ⟨rfl, rfl⟩ := htimeout
    cases env.timeout? with
    | none => exact htexts
    | some x => exact at?_place h (by decide) (.float x) _
  · rw [if_neg htimeout, ← htexts]
    cases env.timeout? with
    | none => rfl
    | some x => exact (at?_place h (by decide) (.float x) _).trans (if_neg htimeout)

theorem isLeaf_of_at?_overrides {env : Environment} (h : IsAddress key group?)
    (hv : env.overrides.at? group? key = some v) : v.IsLeaf := by
  rw [at?_overrides env h] at hv
  split at hv
  · obtain ⟨x, -, rfl⟩ := Option.map_eq_some_iff.1 hv
    nofun
  · obtain ⟨t, -, htext⟩ := Option.bind_eq_some_iff.1 hv
    obtain ⟨s, -, rfl⟩ := Option.map_eq_some_iff.1 htext
    nofun

theorem sectioned_overrides (env : Environment) : Sectioned env.overrides := by
  have htexts : Sectioned (textVariables.foldl (placeText env) []) :=
    sectioned_foldl env sectioned_nil (by decide)
  rw [overrides]
  cases env.timeout? with
  | none => exact htexts
  | some x => exact sectioned_place htexts (by decide) nofun

end Environment

end Folio
