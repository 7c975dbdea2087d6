import Folio.Proofs.Document.Fields
import Folio.Settings.Layers

namespace Folio

open Folio.Document

namespace Document

def within? (key : String) : Option Value → Option Value
  | some (.record inner) => Fields.get? inner key
  | _ => none

def covers : Option Value → Bool
  | none => false
  | some (.record _) => false
  | some _ => true

def Fields.at? (o : Fields) (group? : Option String) (key : String) : Option Value :=
  match group? with
  | none => o.get? key
  | some name => within? key (o.get? name)

def Fields.select (p : String → Bool) (f : String → Value → Value) (o : Fields) : Fields :=
  (o.filter fun e => p e.1).map fun e => (e.1, f e.1 e.2)

def Value.select (p : String → Bool) : Value → Value
  | .record o => .record (Fields.select p (fun _ v => v) o)
  | v => v

def Value.IsLeaf (v : Value) : Prop := ∀ o, v ≠ .record o

end Document

@[simp] theorem overlay_none (v : Value) : overlay none v = v := by
  cases v <;> rfl

theorem overlay_leaf {v : Value} (h : v.IsLeaf) (old : Option Value) : overlay old v = v := by
  cases v with
  | record o => exact absurd rfl (h o)
  | _ => rfl

theorem overlay_over_leaf {old : Value} (h : old.IsLeaf) (v : Value) :
    overlay (some old) v = v := by
  cases v with
  | record new =>
    cases old with
    | record o => exact absurd rfl (h o)
    | _ => rfl
  | _ => rfl

theorem get?_overlayFields {new : Fields} (h : new.Distinct) (base : Fields) (k : String) :
    (overlayFields base new).get? k = match new.get? k with
      | some v => some (overlay (base.get? k) v)
      | none => base.get? k := by
  induction new generalizing base with
  | nil => rfl
  | cons e rest ih =>
    obtain ⟨hnew, hrest⟩ := List.nodup_cons.1 h
    rw [overlayFields, ih hrest, Fields.get?_cons, Fields.get?_put]
    by_cases hk : k = e.1
    · rw [← hk, ← Fields.get?_eq_none_iff] at hnew
      rw [hnew, if_pos hk, if_pos hk, hk]
    · rw [if_neg hk, if_neg hk]

theorem within?_overlay {new : Value} (h : ∀ inner, new = .record inner → Fields.Distinct inner)
    (old : Option Value) (key : String) :
    within? key (some (overlay old new)) = match within? key (some new) with
      | some v => some (overlay (within? key old) v)
      | none => if covers (some new) then none else within? key old := by
  cases new with
  | record inner =>
    have hplain : Fields.get? inner key = match Fields.get? inner key with
        | some v => some (overlay none v)
        | none => none := by
      cases Fields.get? inner key <;> simp
    cases old with
    | none => exact hplain
    | some w =>
      cases w with
      | record base => exact get?_overlayFields (h inner rfl) base key
      | _ => exact hplain
  | _ => rfl

theorem at?_overlayFields {new : Fields} (h : new.Keyed) (base : Fields) (group? : Option String)
    (key : String) : (overlayFields base new).at? group? key = match new.at? group? key with
      | some v => some (overlay (base.at? group? key) v)
      | none => if covers (group?.bind new.get?) then none else base.at? group? key := by
  cases group? with
  | none => exact get?_overlayFields h.distinct base key
  | some name =>
    have hsection := get?_overlayFields h.distinct base name
    cases hnew : new.get? name with
    | none =>
      rw [hnew] at hsection
      simp only [Fields.at?, Option.bind_some, hsection, hnew]
      rfl
    | some w =>
      rw [hnew] at hsection
      simp only [Fields.at?, Option.bind_some, hsection, hnew]
      exact within?_overlay (fun inner hw => h.inner name inner (hw ▸ hnew)) _ key

theorem at?_overlayFields_leaf {new : Fields} {group? : Option String} {key : String}
    (h : new.Keyed) (base : Fields) (hopen : covers (group?.bind new.get?) = false)
    (hleaf : ∀ v, new.at? group? key = some v → v.IsLeaf) :
    (overlayFields base new).at? group? key = (new.at? group? key).or (base.at? group? key) := by
  rw [at?_overlayFields h]
  cases hnew : new.at? group? key with
  | none => rw [hopen]; rfl
  | some v => simp only [overlay_leaf (hleaf v hnew), Option.some_or]

theorem select_cons (p : String → Bool) (f : String → Value → Value) (e : String × Value)
    (o : Fields) : Fields.select p f (e :: o) =
      if p e.1 then (e.1, f e.1 e.2) :: o.select p f else o.select p f := by
  by_cases hp : p e.1 <;> simp [Fields.select, hp]

theorem get?_select (p : String → Bool) (f : String → Value → Value) (o : Fields) (k : String) :
    (o.select p f).get? k = if p k then (o.get? k).map (f k) else none := by
  induction o with
  | nil => simp [Fields.select]
  | cons e o ih =>
    rw [select_cons, Fields.get?_cons]
    by_cases hk : k = e.1
    · subst hk
      by_cases hp : p e.1 <;> simp [Fields.get?_cons, hp, ih]
    · by_cases hp : p e.1 <;> simp [Fields.get?_cons, hp, hk, ih]

theorem select_select {p : String → Bool} {f : String → Value → Value}
    (hf : ∀ k v, f k (f k v) = f k v) (o : Fields) : (o.select p f).select p f = o.select p f := by
  induction o with
  | nil => rfl
  | cons e o ih => by_cases hp : p e.1 <;> simp [select_cons, hp, hf, ih]

theorem select_put (p : String → Bool) (f : String → Value → Value) (k : String) (v : Value)
    (o : Fields) : (o.put k v).select p f =
      if p k then (o.select p f).put k (f k v) else o.select p f := by
  induction o with
  | nil => rw [Fields.put, select_cons]; rfl
  | cons e o ih =>
    by_cases hk : e.1 = k
    · subst hk
      by_cases hp : p e.1 <;> simp [Fields.put, select_cons, hp]
    · by_cases hp : p e.1 <;> by_cases hpk : p k <;>
        simp [Fields.put, select_cons, hk, hp, hpk, ih]

theorem select_overlayFields {p : String → Bool} {f : String → Value → Value}
    (hf : ∀ k old new, f k (overlay old new) = overlay (old.map (f k)) (f k new))
    (base new : Fields) :
    (overlayFields base new).select p f = overlayFields (base.select p f) (new.select p f) := by
  induction new generalizing base with
  | nil => rfl
  | cons e rest ih =>
    rw [overlayFields, ih, select_put, select_cons]
    by_cases hp : p e.1
    · rw [if_pos hp, if_pos hp, overlayFields, get?_select, if_pos hp, hf]
    · rw [if_neg hp, if_neg hp]

theorem select_overlay (p : String → Bool) (old : Option Value) (new : Value) :
    (overlay old new).select p = overlay (old.map (·.select p)) (new.select p) := by
  cases new with
  | record inner =>
    cases old with
    | none => rfl
    | some w =>
      cases w with
      | record base =>
        have hinner := select_overlayFields (p := p) (f := fun _ v => v) (by simp) base inner
        exact congrArg Value.record hinner
      | _ => rfl
  | _ => rfl

theorem select_select_value (p : String → Bool) (v : Value) :
    (v.select p).select p = v.select p := by
  cases v with
  | record o => exact congrArg Value.record (select_select (fun _ _ => rfl) o)
  | _ => rfl

end Folio
