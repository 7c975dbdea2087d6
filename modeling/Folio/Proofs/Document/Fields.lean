import Folio.Document.Yaml.Node
import Folio.Proofs.Document.Decode
import Folio.Proofs.Lookup

namespace Folio.Document

namespace Fields

def Distinct (o : Fields) : Prop := (o.map Prod.fst).Nodup

instance (o : Fields) : Decidable o.Distinct := inferInstanceAs (Decidable (o.map Prod.fst).Nodup)

@[simp] theorem get?_nil (k : String) : get? [] k = none := rfl

theorem get?_cons (e : String × Value) (o : Fields) (k : String) :
    get? (e :: o) k = if k = e.1 then some e.2 else get? o k :=
  lookup_cons e o k

theorem get?_put (key k : String) (value : Value) (o : Fields) :
    get? (put key value o) k = if k = key then some value else get? o k := by
  induction o with
  | nil => simp [put, get?_cons]
  | cons e o ih =>
    by_cases he : e.1 = key
    · by_cases hk : k = key <;> simp [put, get?_cons, he, hk]
    · by_cases hk : k = key
      · rw [hk, if_pos rfl] at ih
        simp [put, get?_cons, he, hk, ih, Ne.symm he]
      · simp [put, get?_cons, he, hk, ih]

theorem mem_of_get? {o : Fields} {k : String} {v : Value} (h : get? o k = some v) : (k, v) ∈ o :=
  mem_of_lookup h

theorem get?_eq_none_iff {o : Fields} {k : String} : get? o k = none ↔ k ∉ o.map Prod.fst :=
  lookup_eq_none_iff_notMem

theorem mem_put {key : String} {value : Value} {o : Fields} {e : String × Value}
    (h : e ∈ put key value o) : e = (key, value) ∨ e ∈ o := by
  induction o with
  | nil => exact .inl (List.mem_singleton.1 h)
  | cons f o ih =>
    by_cases hf : f.1 = key
    · simp only [put, hf, if_true, List.mem_cons] at h
      exact h.imp_right (List.mem_cons_of_mem f)
    · simp only [put, hf, if_false, List.mem_cons] at h
      obtain rfl | h := h
      · exact .inr List.mem_cons_self
      · exact (ih h).imp_right (List.mem_cons_of_mem f)

theorem distinct_put {key : String} {value : Value} {o : Fields} (h : Distinct o) :
    Distinct (put key value o) := by
  induction o with
  | nil => exact List.nodup_singleton key
  | cons f o ih =>
    by_cases hf : f.1 = key
    · simpa [Distinct, put, hf] using h
    · have hrest := ih (List.nodup_cons.1 h).2
      have hnot : f.1 ∉ (put key value o).map Prod.fst := by
        rw [← get?_eq_none_iff, get?_put, if_neg hf, get?_eq_none_iff]
        exact (List.nodup_cons.1 h).1
      simpa [Distinct, put, hf] using And.intro hnot hrest

theorem foldl_put_spec (pairs : List (String × Value)) (o : Fields) (h : Distinct o) :
    Distinct (pairs.foldl (fun o (k, v) => put k v o) o) ∧
      ∀ e ∈ pairs.foldl (fun o (k, v) => put k v o) o, e ∈ o ∨ e ∈ pairs := by
  induction pairs generalizing o with
  | nil => exact ⟨h, fun _ he => .inl he⟩
  | cons p pairs ih =>
    obtain ⟨hdistinct, hmem⟩ := ih (put p.1 p.2 o) (distinct_put h)
    refine ⟨hdistinct, fun e he => ?_⟩
    obtain hput | hrest := hmem e he
    · obtain rfl | ho := mem_put hput
      · exact .inr List.mem_cons_self
      · exact .inl ho
    · exact .inr (List.mem_cons_of_mem p hrest)

theorem distinct_ofList (pairs : List (String × Value)) : Distinct (ofList pairs) :=
  (foldl_put_spec pairs [] List.nodup_nil).1

theorem mem_of_mem_ofList {pairs : List (String × Value)} {e : String × Value}
    (h : e ∈ ofList pairs) : e ∈ pairs :=
  ((foldl_put_spec pairs [] List.nodup_nil).2 e h).resolve_left nofun

structure Keyed (o : Fields) : Prop where
  distinct : Distinct o
  inner : ∀ k inner, get? o k = some (.record inner) → Distinct inner

theorem keyed_nil : Keyed [] := ⟨List.nodup_nil, nofun⟩

theorem Keyed.put {o : Fields} {key : String} {value : Value} (h : o.Keyed)
    (hvalue : ∀ inner, value = .record inner → Distinct inner) : (put key value o).Keyed := by
  refine ⟨distinct_put h.distinct, fun k inner hget => ?_⟩
  rw [get?_put] at hget
  split at hget
  · exact hvalue inner (Option.some.inj hget)
  · exact h.inner k inner hget

end Fields

namespace Yaml

theorem value_stamp_ne_record {stamp : Stamp} {o : Fields} : stamp.value ≠ .ok (.record o) := by
  intro h
  unfold Stamp.value at h
  dsimp only at h
  split at h
  on_goal 1 => split_ifs at h
  -- The offset out of range is the one case that stops before the date.
  on_goal 1 =>
    obtain ⟨_, hflaw, -⟩ := bind_eq_ok.1 h
    cases hflaw
  all_goals
    obtain ⟨date, -, hdate⟩ := bind_eq_ok.1 h
    split at hdate
    · cases hdate
    · split at hdate
      · cases hdate
      · split_ifs at hdate

theorem plainValue_ne_record {s : String} {o : Fields} : plainValue s ≠ .ok (.record o) := by
  intro h
  unfold plainValue at h
  dsimp only at h
  split_ifs at h
  · cases h
  · cases h
  · cases h
  · split at h
    · cases h
    · cases h
    · split at h
      · cases h
      · split at h
        · exact value_stamp_ne_record h
        · cases h

theorem exists_entries {n : Node} {o : Fields} (h : n.value = .record o) :
    ∃ entries, o = Fields.ofList (entryValues entries) := by
  cases n with
  | scalar text plain =>
    rw [Node.value] at h
    split at h
    · cases hv : plainValue text with
      | ok v =>
        rw [hv] at h
        exact absurd (hv.trans (congrArg Except.ok h)) plainValue_ne_record
      | error flaw =>
        rw [hv] at h
        cases h
    · cases h
  | sequence items => cases h
  | mapping entries => exact ⟨entries, (Value.record.inj h).symm⟩

theorem mem_entryValues {entries : List (Node × Node)} {k : String} {v : Value}
    (h : (k, v) ∈ entryValues entries) : ∃ n : Node, n.value = v := by
  induction entries with
  | nil => cases h
  | cons e entries ih =>
    rw [entryValues] at h
    split at h
    · obtain heq | h := List.mem_cons.1 h
      · exact ⟨e.2, (Prod.mk.inj heq).2.symm⟩
      · exact ih h
    · exact ih h

theorem keyed_of_value {n : Node} {o : Fields} (h : n.value = .record o) : o.Keyed := by
  obtain ⟨entries, rfl⟩ := exists_entries h
  refine ⟨Fields.distinct_ofList _, ?_⟩
  intro k inner hget
  obtain ⟨m, hm⟩ := mem_entryValues (Fields.mem_of_mem_ofList (Fields.mem_of_get? hget))
  obtain ⟨entries', rfl⟩ := exists_entries hm
  exact Fields.distinct_ofList _

theorem keyed_of_read {text : String} {o : Fields} (h : read text = .ok (.record o)) : o.Keyed := by
  unfold read at h
  split at h
  · cases h
  · split at h
    · cases h
    · cases h
    next n _ =>
      unfold Node.read at h
      split at h
      · cases h
      · exact keyed_of_value (Except.ok.inj h)

end Yaml

end Folio.Document
