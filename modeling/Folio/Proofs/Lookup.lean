import Mathlib.Data.List.Basic
import Mathlib.Data.List.Nodup

namespace Folio

section Lookup

variable {κ β : Type} [BEq κ] [LawfulBEq κ] {table table' : List (κ × β)} {k : κ} {v : β}

theorem lookup_cons [DecidableEq κ] (e : κ × β) (table : List (κ × β)) (k : κ) :
    (e :: table).lookup k = if k = e.1 then some e.2 else table.lookup k := by
  obtain ⟨l, v⟩ := e
  by_cases hk : k = l
  · simp [hk]
  · rw [List.lookup_cons, beq_false_of_ne hk, if_neg hk]

theorem mem_of_lookup (h : table.lookup k = some v) : (k, v) ∈ table := by
  obtain ⟨front, back, hsplit, -⟩ := List.lookup_eq_some_iff.1 h
  exact hsplit ▸ List.mem_append_right front List.mem_cons_self

theorem lookup_eq_none_iff_notMem : table.lookup k = none ↔ k ∉ table.map Prod.fst := by
  rw [List.lookup_eq_none_iff, List.mem_map]
  constructor
  · rintro h ⟨e, he, rfl⟩
    simpa using h e he
  · intro h e he
    rw [bne_iff_ne]
    rintro rfl
    exact h ⟨e, he, rfl⟩

theorem lookup_of_unique (hmem : (k, v) ∈ table) (h : ∀ w, (k, w) ∈ table → w = v) :
    table.lookup k = some v := by
  cases hl : table.lookup k with
  | none => exact absurd (List.mem_map_of_mem hmem) (lookup_eq_none_iff_notMem.1 hl)
  | some w => rw [h w (mem_of_lookup hl)]

theorem lookup_eq_some_iff_mem (hnodup : (table.map Prod.fst).Nodup) :
    table.lookup k = some v ↔ (k, v) ∈ table := by
  refine ⟨mem_of_lookup, fun hmem => lookup_of_unique hmem fun w hw => ?_⟩
  exact (Prod.mk.inj (List.inj_on_of_nodup_map hnodup hw hmem rfl)).2

theorem lookup_perm (hnodup : (table.map Prod.fst).Nodup) (h : table.Perm table') (k : κ) :
    table.lookup k = table'.lookup k := by
  have hnodup' : (table'.map Prod.fst).Nodup := (h.map Prod.fst).nodup_iff.1 hnodup
  apply Option.ext
  intro v
  rw [lookup_eq_some_iff_mem hnodup, lookup_eq_some_iff_mem hnodup', h.mem_iff]

theorem lookup_filter (p : κ → Bool) (table : List (κ × β)) {k : κ} (hk : p k = true) :
    (table.filter fun e => p e.1).lookup k = table.lookup k := by
  induction table with
  | nil => rfl
  | cons e table ih =>
    obtain ⟨l, v⟩ := e
    by_cases he : k = l
    · subst he
      simp [hk]
    · have hne := beq_false_of_ne he
      by_cases hp : p l <;> simp [List.lookup_cons, hp, hne, ih]

end Lookup

end Folio
