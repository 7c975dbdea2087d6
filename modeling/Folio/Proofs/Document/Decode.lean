import Folio.Document.Decode
import Folio.Proofs.Time.Iso

namespace Folio

section Except

variable {ε α β : Type}

theorem bind_eq_ok {x : Except ε α} {f : α → Except ε β} {b : β} :
    (x >>= f) = .ok b ↔ ∃ a, x = .ok a ∧ f a = .ok b := by
  cases x with
  | ok a => simp [bind, Except.bind]
  | error e => simp [bind, Except.bind]

theorem bind_eq_error {x : Except ε α} {f : α → Except ε β} {e : ε} :
    (x >>= f) = .error e ↔ x = .error e ∨ ∃ a, x = .ok a ∧ f a = .error e := by
  cases x with
  | ok a => simp [bind, Except.bind]
  | error e => simp [bind, Except.bind]

theorem mem_of_mapM {f : α → Except ε β} {as : List α} {bs : List β}
    (h : as.mapM f = .ok bs) : ∀ b ∈ bs, ∃ a ∈ as, f a = .ok b := by
  induction as generalizing bs with
  | nil =>
    cases h
    simp
  | cons a as ih =>
    simp only [List.mapM_cons, bind_eq_ok] at h
    obtain ⟨c, hc, cs, hcs, hbs⟩ := h
    cases hbs
    intro b hb
    obtain rfl | hmem := List.mem_cons.1 hb
    · exact ⟨a, List.mem_cons_self, hc⟩
    · obtain ⟨d, hd, hfd⟩ := ih hcs b hmem
      exact ⟨d, List.mem_cons_of_mem a hd, hfd⟩

theorem mapM_total {f : α → Except ε β} {as : List α}
    (h : ∀ a ∈ as, ∃ b, f a = .ok b) : ∃ bs, as.mapM f = .ok bs := by
  induction as with
  | nil => exact ⟨[], rfl⟩
  | cons a as ih =>
    obtain ⟨b, hb⟩ := h a List.mem_cons_self
    obtain ⟨bs, hbs⟩ := ih fun c hc => h c (List.mem_cons_of_mem a hc)
    refine ⟨b :: bs, ?_⟩
    rw [List.mapM_cons, hb, hbs]
    rfl

theorem mem_of_mapM_error {f : α → Except ε β} {as : List α} {e : ε}
    (h : as.mapM f = .error e) : ∃ a ∈ as, f a = .error e := by
  induction as with
  | nil => cases h
  | cons a as ih =>
    rw [List.mapM_cons, bind_eq_error] at h
    obtain hhead | ⟨b, -, hrest⟩ := h
    · exact ⟨a, List.mem_cons_self, hhead⟩
    · obtain htail | ⟨bs, -, hpure⟩ := bind_eq_error.1 hrest
      · obtain ⟨c, hc, hfc⟩ := ih htail
        exact ⟨c, List.mem_cons_of_mem a hc, hfc⟩
      · cases hpure

theorem exists_mapM_iff {f : α → Except ε β} {as : List α} :
    (∃ bs, as.mapM f = .ok bs) ↔ ∀ a ∈ as, ∃ b, f a = .ok b := by
  refine ⟨?_, mapM_total⟩
  rintro ⟨bs, h⟩
  induction as generalizing bs with
  | nil => simp
  | cons a as ih =>
    simp only [List.mapM_cons, bind_eq_ok] at h
    obtain ⟨b, hb, cs, hcs, -⟩ := h
    exact List.forall_mem_cons.2 ⟨⟨b, hb⟩, ih cs hcs⟩

theorem mapM_eq_ok {f : α → Except ε β} {as : List α} {bs : List β} :
    as.mapM f = .ok bs ↔ List.Forall₂ (fun a b => f a = .ok b) as bs := by
  induction as generalizing bs with
  | nil =>
    rw [List.forall₂_nil_left_iff]
    exact ⟨fun h => (Except.ok.inj h).symm, fun h => h ▸ rfl⟩
  | cons a as ih =>
    simp only [List.mapM_cons, bind_eq_ok, List.forall₂_cons_left_iff, ih]
    constructor
    · rintro ⟨b, hb, cs, hcs, h⟩
      exact ⟨b, cs, hb, hcs, (Except.ok.inj h).symm⟩
    · rintro ⟨b, cs, hb, hcs, rfl⟩
      exact ⟨b, hb, cs, hcs, rfl⟩

theorem mapM_congr {f : α → Except ε β} {R : α → α → Prop} {as as' : List α} {bs : List β}
    (h : List.Forall₂ R as as') (hf : ∀ a a', R a a' → ∀ b, f a = .ok b ↔ f a' = .ok b) :
    as.mapM f = .ok bs ↔ as'.mapM f = .ok bs := by
  induction h generalizing bs with
  | nil => rfl
  | cons hhead _ ih => simp only [List.mapM_cons, bind_eq_ok, hf _ _ hhead, ih]

theorem exists_of_toOption {x : Except ε α} {f : α → β} {b : β}
    (h : x.toOption.map f = some b) : ∃ a, x = .ok a ∧ f a = b := by
  cases x with
  | ok a => exact ⟨a, rfl, Option.some.inj h⟩
  | error e => cases h

end Except

namespace Document

open Folio.Time

namespace Decoded

@[simp] theorem map_ok (f : α → β) (a : α) : f <$> (ok a : Decoded α) = ok (f a) := rfl

@[simp] theorem seq_ok (f : α → β) (a : α) : (ok f : Decoded (α → β)) <*> ok a = ok (f a) := rfl

@[simp] theorem under_ok (step : Step) (a : α) : (ok a : Decoded α).under step = ok a := rfl

theorem map_eq_ok {f : α → β} {x : Decoded α} {b : β} :
    f <$> x = ok b ↔ ∃ a, x = ok a ∧ f a = b := by
  cases x with
  | ok a => simp
  | failed is =>
    constructor
    · rintro ⟨⟩
    · rintro ⟨a, ⟨⟩, -⟩

theorem seq_eq_ok {f : Decoded (α → β)} {x : Decoded α} {b : β} :
    f <*> x = ok b ↔ ∃ g a, f = ok g ∧ x = ok a ∧ g a = b := by
  constructor
  · intro h
    cases f with
    | ok g =>
      cases x with
      | ok a => exact ⟨g, a, rfl, rfl, ok.inj h⟩
      | failed js => cases h
    | failed is =>
      cases x with
      | ok a => cases h
      | failed js => cases h
  · rintro ⟨g, a, rfl, rfl, rfl⟩
    rfl

theorem under_eq_ok {step : Step} {x : Decoded α} {a : α} : x.under step = ok a ↔ x = ok a := by
  cases x with
  | ok b => rfl
  | failed is => simp [under]

theorem andThen_eq_ok {x : Decoded α} {f : α → Decoded β} {b : β} :
    x.andThen f = ok b ↔ ∃ a, x = ok a ∧ f a = ok b := by
  cases x with
  | ok a => simp [andThen]
  | failed is => simp [andThen]

end Decoded

open Decoded

def Fields.value? (o : Fields) (s : Spelling) : Option Value :=
  (o.find? s).map Prod.snd

/-- A value decoded from what is found, or the default where nothing is. -/
def Found (decode : Decoder α) (default a : α) : Option Value → Prop
  | some v => decode v = ok a
  | none => a = default

section Fields

variable {o : Fields} {s : Spelling} {decode : Decoder α} {a default : α}

theorem value?_eq (o : Fields) (s : Spelling) :
    o.value? s = (o.get? s.camel).or (o.get? s.snake) := by
  unfold Fields.value? Fields.find?
  cases o.get? s.camel with
  | some v => rfl
  | none => cases o.get? s.snake <;> rfl

theorem value?_plain (o : Fields) (key : String) : o.value? (.plain key) = o.get? key :=
  (value?_eq o _).trans Option.or_self

theorem required_eq_ok :
    required o s decode = ok a ↔ ∃ v, o.value? s = some v ∧ decode v = ok a := by
  unfold required Fields.value?
  cases o.find? s with
  | none => exact ⟨nofun, nofun⟩
  | some e => simp [under_eq_ok]

theorem optional_eq_found :
    Document.optional o s default decode = ok a ↔ Found decode default a (o.value? s) := by
  unfold Document.optional Fields.value?
  cases o.find? s with
  | none => exact ⟨fun h => (ok.inj h).symm, fun h => congrArg ok h.symm⟩
  | some e => exact under_eq_ok

theorem optional_induction {P : α → Prop} (hdefault : P default)
    (hdecode : ∀ v a, decode v = ok a → P a) (h : optional o s default decode = ok a) : P a := by
  have hfound := optional_eq_found.1 h
  cases hv : o.value? s with
  | none =>
    rw [hv] at hfound
    exact hfound ▸ hdefault
  | some v =>
    rw [hv] at hfound
    exact hdecode v a hfound

theorem optional_plain (o : Fields) (key : String) (default : α) (decode : Decoder α) :
    Document.optional o (.plain key) default decode = match o.get? key with
      | some v => (decode v).under (.key key)
      | none => ok default := by
  simp only [Document.optional, Fields.find?, Spelling.plain]
  cases o.get? key <;> rfl

theorem optional_eq_ok {key : String} :
    Document.optional o (.plain key) default decode = ok a ↔
      Found decode default a (o.get? key) := by
  rw [optional_eq_found, value?_plain]

end Fields

@[simp] theorem text_text (s : String) : text (.text s) = ok s := rfl

@[simp] theorem integer_int (n : Int) : integer (.int n) = ok n := rfl

@[simp] theorem boolean_bool (b : Bool) : boolean (.bool b) = ok b := rfl

@[simp] theorem list_list (decode : Decoder α) (vs : List Value) :
    list decode (.list vs) = items decode 0 vs := rfl

theorem record_eq_ok {f : Fields → Decoded α} {v : Value} {a : α} :
    record f v = ok a ↔ ∃ o, v = .record o ∧ f o = ok a := by
  cases v with
  | record o => simp [record]
  | _ => simp [record, complain]

theorem nullable_ofOption {decode : Decoder α} {write : α → Value} {a : Option α}
    (h : ∀ b ∈ a, write b ≠ .null ∧ decode (write b) = ok b) :
    nullable decode (.ofOption write a) = ok a := by
  cases a with
  | none => rfl
  | some b =>
    obtain ⟨hnull, hb⟩ := h b rfl
    unfold nullable
    split
    next hv => exact absurd hv hnull
    next => rw [Value.ofOption, hb]; rfl

@[simp] theorem nullable_text (s : Option String) : nullable text (.ofOption .text s) = ok s :=
  nullable_ofOption fun _ _ => ⟨nofun, rfl⟩

theorem items_map {decode : Decoder α} {write : α → Value} {as : List α} (i : Nat)
    (h : ∀ a ∈ as, decode (write a) = ok a) : items decode i (as.map write) = ok as := by
  induction as generalizing i with
  | nil => rfl
  | cons a as ih =>
    rw [List.map_cons, items, h a List.mem_cons_self,
      ih (i + 1) fun b hb => h b (List.mem_cons_of_mem a hb)]
    rfl

theorem entries_map {decode : Decoder α} {write : α → Value} {entries' : List (String × α)}
    (h : ∀ a, decode (write a) = ok a) :
    entries decode (entries'.map fun (k, a) => (k, write a)) = ok entries' := by
  induction entries' with
  | nil => rfl
  | cons e es ih =>
    rw [List.map_cons, entries, h, ih]
    rfl

theorem mem_of_items {decode : Decoder α} {i : Nat} {vs : List Value} {as : List α}
    (h : items decode i vs = ok as) : ∀ a ∈ as, ∃ v ∈ vs, decode v = ok a := by
  induction vs generalizing i as with
  | nil =>
    cases h
    simp
  | cons v vs ih =>
    simp only [items, seq_eq_ok, map_eq_ok, under_eq_ok] at h
    obtain ⟨_, rest, ⟨b, hb, rfl⟩, hrest, rfl⟩ := h
    intro a ha
    obtain rfl | hmem := List.mem_cons.1 ha
    · exact ⟨v, List.mem_cons_self, hb⟩
    · obtain ⟨w, hw, hdec⟩ := ih hrest a hmem
      exact ⟨w, List.mem_cons_of_mem v hw, hdec⟩

theorem mem_of_list {decode : Decoder α} {v : Value} {as : List α} (h : list decode v = ok as) :
    ∃ vs, v = .list vs ∧ ∀ a ∈ as, ∃ w ∈ vs, decode w = ok a := by
  unfold list at h
  split at h
  next vs => exact ⟨vs, rfl, mem_of_items h⟩
  next => cases h

theorem integerBetween_eq_ok {lo hi n : Int} {v : Value} (h : integerBetween lo hi v = ok n) :
    lo ≤ n ∧ n ≤ hi := by
  obtain ⟨m, -, hm⟩ := andThen_eq_ok.1 h
  split at hm
  · cases hm
  · split at hm
    · cases hm
    · cases hm
      omega

theorem integerBetween_int {lo hi n : Int} (hlo : lo ≤ n) (hhi : n ≤ hi) :
    integerBetween lo hi (.int n) = ok n := by
  rw [integerBetween, integer_int, andThen, if_neg (by omega), if_neg (by omega)]

theorem moment_toIso (t : Moment) : moment (.text t.toIso) = ok t := by
  rw [moment, Moment.ofText?_toIso]
  rfl

inductive Value.IsJson : Value → Prop
  | null : IsJson .null
  | bool (b : Bool) : IsJson (.bool b)
  | int (n : Int) : IsJson (.int n)
  | text (s : String) : IsJson (.text s)
  | list {items : List Value} : (∀ v ∈ items, IsJson v) → IsJson (.list items)
  | record {fields : Fields} : (∀ f ∈ fields, IsJson f.2) → IsJson (.record fields)

theorem isJson_ofOption {write : α → Value} (h : ∀ a, (write a).IsJson) (a : Option α) :
    (Value.ofOption write a).IsJson := by
  cases a with
  | none => exact .null
  | some a => exact h a

theorem isJson_map {write : α → Value} (h : ∀ a, (write a).IsJson) (as : List α) :
    (Value.list (as.map write)).IsJson := by
  refine .list fun v hv => ?_
  obtain ⟨a, -, rfl⟩ := List.mem_map.1 hv
  exact h a

theorem isJson_two {v w : Value} (hv : v.IsJson) (hw : w.IsJson) (k l : String) :
    (Value.record [(k, v), (l, w)]).IsJson := by
  refine .record ?_
  simp only [List.forall_mem_cons]
  exact ⟨hv, hw, by simp⟩

end Document

end Folio
