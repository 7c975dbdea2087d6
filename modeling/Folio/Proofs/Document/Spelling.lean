import Folio.Proofs.Document.Fields
/-!
Respelled documents: records that differ in which spelling some of their keys have, and decoders
that make no difference between them.
-/

namespace Folio.Document

open Decoded

namespace Spelling

def Names (s : Spelling) (key : String) : Prop :=
  key = s.camel ∨ key = s.snake

instance (s : Spelling) (key : String) : Decidable (s.Names key) :=
  inferInstanceAs (Decidable (key = s.camel ∨ key = s.snake))

def Apart (s t : Spelling) : Prop :=
  ¬ t.Names s.camel ∧ ¬ t.Names s.snake

instance (s t : Spelling) : Decidable (Apart s t) :=
  inferInstanceAs (Decidable (¬ t.Names s.camel ∧ ¬ t.Names s.snake))

theorem Apart.not_names {s t : Spelling} (h : Apart s t) {key : String} (hs : s.Names key) :
    ¬ t.Names key := by
  rcases hs with rfl | rfl
  · exact h.1
  · exact h.2

instance : Std.Symm Apart where
  symm _ _ h := ⟨fun hc => h.not_names hc (.inl rfl), fun hs => h.not_names hs (.inr rfl)⟩

end Spelling

/-- The fields of a record, each with its spelling and with when one value of it is a respelling of
another. No two of them share a key. -/
structure Shape where
  fields : List (Spelling × (Value → Value → Prop))
  apart : (fields.map Prod.fst).Pairwise Spelling.Apart
  refl : ∀ f ∈ fields, ∀ v, f.2 v v

namespace Shape

theorem map_fst_flat (ss : List Spelling) :
    (ss.map fun s => (s, (Eq : Value → Value → Prop))).map Prod.fst = ss := by
  simp [Function.comp_def]

def flat (ss : List Spelling) (h : ss.Pairwise Spelling.Apart) : Shape where
  fields := ss.map fun s => (s, Eq)
  apart := (map_fst_flat ss).symm ▸ h
  refl := List.forall_mem_map.2 fun _ _ _ => rfl

def Entry (shape : Shape) (e e' : String × Value) : Prop :=
  e = e' ∨ ∃ f ∈ shape.fields, f.1.Names e.1 ∧ f.1.Names e'.1 ∧ f.2 e.2 e'.2

/-- Some keys of a record become the other spelling of their field. No field is given twice, be it
under one spelling or under both. -/
structure Respelled (shape : Shape) (o o' : Fields) : Prop where
  entries : List.Forall₂ shape.Entry o o'
  once : ∀ f ∈ shape.fields, o.countP (fun e => f.1.Names e.1) ≤ 1

variable {shape : Shape} {o o' : Fields} {e e' : String × Value} {s : Spelling}
  {R : Value → Value → Prop}

theorem eq_of_names {f g : Spelling × (Value → Value → Prop)} (hf : f ∈ shape.fields)
    (hg : g ∈ shape.fields) {key : String} (hkf : f.1.Names key) (hkg : g.1.Names key) :
    f = g := by
  by_contra hne
  have happart := List.pairwise_map.1 shape.apart
  have : Std.Symm fun f g : Spelling × (Value → Value → Prop) => f.1.Apart g.1 :=
    ⟨fun _ _ h => Std.Symm.symm _ _ h⟩
  exact (happart.forall hf hg hne).not_names hkf hkg

theorem Entry.names_iff (h : shape.Entry e e') (hs : (s, R) ∈ shape.fields) :
    s.Names e.1 ↔ s.Names e'.1 := by
  obtain rfl | ⟨f, hf, hk, hk', -⟩ := h
  · rfl
  · constructor
    · intro hn
      cases eq_of_names hf hs hk hn
      exact hk'
    · intro hn
      cases eq_of_names hf hs hk' hn
      exact hk

theorem Entry.value (h : shape.Entry e e') (hs : (s, R) ∈ shape.fields) (hn : s.Names e.1) :
    R e.2 e'.2 := by
  obtain rfl | ⟨f, hf, hk, -, hvalue⟩ := h
  · exact shape.refl _ hs _
  · cases eq_of_names hf hs hk hn
    exact hvalue

end Shape

theorem value?_of_once {o : Fields} {s : Spelling} (h : o.countP (fun e => s.Names e.1) ≤ 1) :
    o.value? s = (List.find? (fun e => s.Names e.1) o).map Prod.snd := by
  induction o with
  | nil => rfl
  | cons e o ih =>
    by_cases hn : s.Names e.1
    · -- no later entry is of the field, so a look-up of either key ends here
      have hnone : ∀ f ∈ o, ¬ s.Names f.1 := by
        simpa [List.countP_cons, hn] using h
      have hrest : ∀ key, s.Names key → Fields.get? o key = none := by
        intro key hkey
        refine Fields.get?_eq_none_iff.2 fun hmem => ?_
        obtain ⟨f, hf, rfl⟩ := List.mem_map.1 hmem
        exact hnone f hf hkey
      rw [value?_eq, Fields.get?_cons, Fields.get?_cons, hrest _ (.inl rfl), hrest _ (.inr rfl),
        List.find?_cons_of_pos (by simpa using hn)]
      obtain hk | hk := hn
      · rw [if_pos hk.symm]
        rfl
      · rw [if_pos hk.symm]
        split <;> rfl
    · have hcamel : s.camel ≠ e.1 := fun hk => hn (.inl hk.symm)
      have hsnake : s.snake ≠ e.1 := fun hk => hn (.inr hk.symm)
      rw [List.countP_cons_of_neg (by simpa using hn)] at h
      rw [List.find?_cons_of_neg (by simpa using hn), ← ih h, value?_eq, value?_eq,
        Fields.get?_cons, Fields.get?_cons, if_neg hcamel, if_neg hsnake]

namespace Shape.Respelled

variable {shape : Shape} {o o' : Fields} {s : Spelling} {R : Value → Value → Prop}

theorem countP_eq (h : List.Forall₂ shape.Entry o o') (hs : (s, R) ∈ shape.fields) :
    o.countP (fun e => s.Names e.1) = o'.countP (fun e => s.Names e.1) := by
  induction h with
  | nil => rfl
  | cons he _ ih => simp only [List.countP_cons, ih, he.names_iff hs]

theorem find?_rel (h : List.Forall₂ shape.Entry o o') (hs : (s, R) ∈ shape.fields) :
    Option.Rel R ((List.find? (fun e => s.Names e.1) o).map Prod.snd)
      ((List.find? (fun e => s.Names e.1) o').map Prod.snd) := by
  induction h with
  | nil => exact .none
  | @cons e e' _ _ he _ ih =>
    by_cases hn : s.Names e.1
    · have hn' := (he.names_iff hs).1 hn
      rw [List.find?_cons_of_pos (by simpa using hn), List.find?_cons_of_pos (by simpa using hn')]
      exact .some (he.value hs hn)
    · have hn' := mt (he.names_iff hs).2 hn
      rw [List.find?_cons_of_neg (by simpa using hn), List.find?_cons_of_neg (by simpa using hn')]
      exact ih

theorem value?_rel (h : shape.Respelled o o') (hs : (s, R) ∈ shape.fields) :
    Option.Rel R (o.value? s) (o'.value? s) := by
  have honce := h.once _ hs
  rw [value?_of_once honce, value?_of_once (countP_eq h.entries hs ▸ honce)]
  exact find?_rel h.entries hs

theorem value?_eq (h : shape.Respelled o o') (hs : (s, R) ∈ shape.fields)
    (hR : ∀ v v', R v v' → v = v') : o.value? s = o'.value? s := by
  have hrel := h.value?_rel hs
  generalize o.value? s = x, o'.value? s = x' at hrel
  cases hrel with
  | none => rfl
  | some hv => rw [hR _ _ hv]

theorem get?_eq (h : shape.Respelled o o') {key : String}
    (hkey : ∀ f ∈ shape.fields, ¬ f.1.Names key) : o.get? key = o'.get? key := by
  obtain ⟨hentries, -⟩ := h
  induction hentries with
  | nil => rfl
  | cons he _ ih =>
    rw [Fields.get?_cons, Fields.get?_cons, ih]
    obtain rfl | ⟨f, hf, hk, hk', -⟩ := he
    · rfl
    · rw [if_neg, if_neg]
      · rintro rfl
        exact hkey f hf hk'
      · rintro rfl
        exact hkey f hf hk

theorem eq_of_plain (h : shape.Respelled o o')
    (hplain : ∀ f ∈ shape.fields, f.1.camel = f.1.snake ∧ ∀ v v', f.2 v v' → v = v') :
    o = o' := by
  have hkept : List.Forall₂ (· = ·) o o' := by
    refine h.entries.imp fun e e' he => ?_
    obtain rfl | ⟨f, hf, hk, hk', hvalue⟩ := he
    · rfl
    · obtain ⟨hsame, hkept⟩ := hplain f hf
      simp only [Spelling.Names, hsame, or_self] at hk hk'
      exact Prod.ext (hk.trans hk'.symm) (hkept _ _ hvalue)
  rwa [List.forall₂_eq_eq_eq] at hkept

end Shape.Respelled

inductive RecordRespelled (P : Fields → Fields → Prop) : Value → Value → Prop
  | same (v : Value) : RecordRespelled P v v
  | record {o o' : Fields} : P o o' → RecordRespelled P (.record o) (.record o')

inductive ListRespelled (R : Value → Value → Prop) : Value → Value → Prop
  | same (v : Value) : ListRespelled R v v
  | list {vs vs' : List Value} : List.Forall₂ R vs vs' → ListRespelled R (.list vs) (.list vs')

theorem RecordRespelled.eq {P : Fields → Fields → Prop} (hP : ∀ o o', P o o' → o = o')
    {v v' : Value} (h : RecordRespelled P v v') : v = v' := by
  cases h with
  | same => rfl
  | record ho => rw [hP _ _ ho]

theorem ListRespelled.eq {R : Value → Value → Prop} (hR : ∀ v v', R v v' → v = v')
    {v v' : Value} (h : ListRespelled R v v') : v = v' := by
  cases h with
  | same => rfl
  | list hvs =>
    have hkept := hvs.imp fun v v' => hR v v'
    rw [List.forall₂_eq_eq_eq] at hkept
    rw [hkept]

/-- A decoder that accepts a value as it accepts any respelling of it. -/
def Respects (R : Value → Value → Prop) (decode : Decoder α) : Prop :=
  ∀ v v', R v v' → ∀ a, decode v = ok a ↔ decode v' = ok a

section Respects

variable {R : Value → Value → Prop} {decode : Decoder α}

theorem items_respects (h : Respects R decode) {vs vs' : List Value} (i : Nat)
    (hvs : List.Forall₂ R vs vs') (as : List α) :
    items decode i vs = ok as ↔ items decode i vs' = ok as := by
  induction hvs generalizing i as with
  | nil => rfl
  | cons hv _ ih => simp only [items, seq_eq_ok, map_eq_ok, under_eq_ok, h _ _ hv, ih]

theorem list_respects (h : Respects R decode) : Respects (ListRespelled R) (list decode) := by
  intro v v' hv as
  cases hv with
  | same => rfl
  | list hvs => exact items_respects h 0 hvs as

theorem record_respects {P : Fields → Fields → Prop} {f : Fields → Decoded α}
    (h : ∀ o o', P o o' → ∀ a, f o = ok a ↔ f o' = ok a) :
    Respects (RecordRespelled P) (record f) := by
  intro v v' hv a
  cases hv with
  | same => rfl
  | record ho => exact h _ _ ho a

theorem optional_congr (h : Respects R decode) {o o' : Fields} {s : Spelling}
    (ho : Option.Rel R (o.value? s) (o'.value? s)) (default a : α) :
    Document.optional o s default decode = ok a ↔ Document.optional o' s default decode = ok a := by
  rw [optional_eq_found, optional_eq_found]
  generalize o.value? s = x, o'.value? s = x' at ho
  cases ho with
  | none => rfl
  | some hv => exact h _ _ hv a

end Respects

end Folio.Document
