import Folio.Log.Record
import Folio.Proofs.Log.Masked

namespace Folio.Log

open Folio.Document Folio.Number

mutual

def texts : Value → List String
  | .text s => [s]
  | .list vs => itemTexts vs
  | .record fields => fieldTexts fields
  | _ => []

def itemTexts : List Value → List String
  | [] => []
  | v :: vs => texts v ++ itemTexts vs

def fieldTexts : List (String × Value) → List String
  | [] => []
  | (_, v) :: rest => texts v ++ fieldTexts rest

end

def Arguments.texts : Arguments → List String
  | positional vs => itemTexts vs
  | named fields => fieldTexts fields
  | _ => []

section Values

variable (mask : String)

theorem redactEmail_eq_self {s : String} (h : ¬ HoldsAddress s.toList) :
    redactEmail s mask = s := by
  rw [redactEmail, redact_eq_self h, String.ofList_toList]

mutual

theorem redactValue_eq_self {v : Value} (h : ∀ s ∈ texts v, ¬ HoldsAddress s.toList) :
    redactValue mask v = v := by
  cases v with
  | text s => rw [redactValue, redactEmail_eq_self mask (h s (by simp [texts]))]
  | list vs => rw [redactValue, redactValues_eq_self (by simpa [texts] using h)]
  | record fields => rw [redactValue, redactFields_eq_self (by simpa [texts] using h)]
  | _ => rfl

theorem redactValues_eq_self {vs : List Value} (h : ∀ s ∈ itemTexts vs, ¬ HoldsAddress s.toList) :
    redactValues mask vs = vs := by
  cases vs with
  | nil => rfl
  | cons v vs =>
    have hv : redactValue mask v = v :=
      redactValue_eq_self fun s hs => h s (by simp [itemTexts, hs])
    have hvs : redactValues mask vs = vs :=
      redactValues_eq_self fun s hs => h s (by simp [itemTexts, hs])
    rw [redactValues, hv, hvs]

theorem redactFields_eq_self {fields : List (String × Value)}
    (h : ∀ s ∈ fieldTexts fields, ¬ HoldsAddress s.toList) : redactFields mask fields = fields := by
  cases fields with
  | nil => rfl
  | cons field fields =>
    obtain ⟨k, v⟩ := field
    have hv : redactValue mask v = v :=
      redactValue_eq_self fun s hs => h s (by simp [fieldTexts, hs])
    have hfields : redactFields mask fields = fields :=
      redactFields_eq_self fun s hs => h s (by simp [fieldTexts, hs])
    rw [redactFields, hv, hfields]

end

theorem Arguments.redacted_eq_self {a : Arguments} (h : ∀ s ∈ a.texts, ¬ HoldsAddress s.toList) :
    a.redacted mask = a := by
  cases a with
  | positional vs => rw [redacted, redactValues_eq_self mask h]
  | named fields => rw [redacted, redactFields_eq_self mask h]
  | none => rfl
  | single v => rfl

theorem redactValues_eq_map (vs : List Value) :
    redactValues mask vs = vs.map (redactValue mask) := by
  induction vs with
  | nil => rfl
  | cons v vs ih => rw [redactValues, ih, List.map_cons]

theorem redactFields_eq_map (fields : List (String × Value)) :
    redactFields mask fields = fields.map fun (k, v) => (k, redactValue mask v) := by
  induction fields with
  | nil => rfl
  | cons field fields ih => rw [redactFields, ih, List.map_cons]

end Values

def Operand.redacted (mask : String) : Operand → Operand
  | .value v => .value (redactValue mask v)
  | .group vs => .group (redactValues mask vs)

def Supply.redacted (mask : String) (s : Supply) : Supply where
  queue := s.queue.map (·.redacted mask)
  names := s.names.map fun fields => fields.map fun (name, v) => (name, v.redacted mask)

section Supply

variable {mask : String}

theorem supply_positional (vs : List Value) :
    Supply.ofArguments (.positional (redactValues mask vs)) =
      (Supply.ofArguments (.positional vs)).redacted mask := by
  simp [Supply.ofArguments, Supply.redacted, redactValues_eq_map, Operand.redacted]

theorem supply_named (fields : List (String × Value)) :
    Supply.ofArguments (.named (redactFields mask fields)) =
      (Supply.ofArguments (.named fields)).redacted mask := by
  simp [Supply.ofArguments, Supply.ofNames, Supply.redacted, redactFields_eq_map,
    Operand.redacted, redactValue]

theorem lookup_redacted (name : String) (fields : List (String × Operand)) :
    (fields.map fun (name, v) => (name, v.redacted mask)).lookup name =
      (fields.lookup name).map (·.redacted mask) := by
  induction fields with
  | nil => rfl
  | cons field fields ih =>
    obtain ⟨k, v⟩ := field
    cases hk : name == k <;> simp [List.lookup_cons, hk, ih]

theorem named?_redacted (name : Option (List Char)) (s : Supply) :
    (s.redacted mask).named? name = (s.named? name).map (·.redacted mask) := by
  cases name with
  | none => rfl
  | some name =>
    cases hnames : s.names with
    | none => simp [Supply.named?, Supply.redacted, hnames]
    | some fields =>
      cases hv : fields.lookup (String.ofList name) <;>
        simp [Supply.named?, Supply.redacted, hnames, lookup_redacted, hv]

theorem count?_redacted (n : Count) (counted : List Char) (s : Supply) :
    (s.redacted mask).count? n counted = (s.count? n counted).map (·.redacted mask) := by
  by_cases hstar : counted.head? = some '*'
  · obtain ⟨rest, rfl⟩ := List.head?_eq_some_iff.1 hstar
    obtain ⟨queue, names⟩ := s
    cases queue with
    | nil => rfl
    | cons v vs =>
      have hcounts : (v.redacted mask).counts n = v.counts n := by
        cases v with
        | group vs => rfl
        | value v => cases v <;> rfl
      cases hv : v.counts n <;> simp [count?_star, Supply.redacted, hcounts, hv]
  · simp only [count?_digits hstar]
    split <;> rfl

theorem isOk_wholeNumber (c : Char) (v : Operand) :
    (wholeNumber c (v.redacted mask)).isOk = (wholeNumber c v).isOk := by
  cases v with
  | group vs => rfl
  | value v => cases v <;> rfl

theorem isOk_exactInteger (c : Char) (v : Operand) :
    (exactInteger c (v.redacted mask)).isOk = (exactInteger c v).isOk := by
  cases v with
  | group vs => rfl
  | value v => cases v <;> rfl

theorem isOk_realNumber (v : Operand) :
    (realNumber (v.redacted mask)).isOk = (realNumber v).isOk := by
  cases v with
  | group vs => rfl
  | value v => cases v <;> rfl

theorem length_redactEmail_eq_one (s : String) :
    (redactEmail s mask).length = 1 ↔ s.length = 1 := by
  rw [redactEmail, String.length_ofList, ← String.length_toList]
  exact length_redact_eq_one

theorem isOk_character (v : Operand) : (character (v.redacted mask)).isOk = (character v).isOk := by
  cases v with
  | group vs => rfl
  | value v =>
    cases v with
    | text s =>
      by_cases h : s.length = 1 <;>
        simp [Operand.redacted, redactValue, character, length_redactEmail_eq_one, h, Except.isOk,
          Except.toBool]
    | _ => rfl

theorem isOk_convert_redacted (c : Char) (v : Operand) :
    (convert {} c 0 (v.redacted mask)).isOk = (convert {} c 0 v).isOk := by
  unfold convert
  split
  iterate 3 simp only [Except.isOk, Except.toBool]
  · rw [isOk_map, isOk_map, isOk_character]
  iterate 3 rw [isOk_map, isOk_map, isOk_wholeNumber]
  iterate 3 rw [isOk_map, isOk_map, isOk_exactInteger]
  iterate 6 rw [isOk_map, isOk_map, isOk_realNumber]
  · rfl

theorem letter?_redacted (c : Char) (s : Supply) :
    (s.redacted mask).letter? c = (s.letter? c).map (·.redacted mask) := by
  obtain ⟨queue, names⟩ := s
  cases queue with
  | nil => rfl
  | cons v vs =>
    cases hok : (convert {} c 0 v).isOk <;>
      simp [Supply.letter?, Supply.redacted, Supply.next, isOk_convert_redacted, hok]

theorem serve?_redacted (p : Place) (s : Supply) :
    p.serve? (s.redacted mask) = (p.serve? s).map (·.redacted mask) := by
  simp only [Place.serve?, Option.bind_eq_bind, named?_redacted]
  cases s.named? p.head.name with
  | none => rfl
  | some s =>
    simp only [Option.map_some, Option.bind_some, count?_redacted]
    cases s.count? .width p.head.width with
    | none => rfl
    | some s =>
      cases p.head.precision with
      | none => exact letter?_redacted p.letter s
      | some counted =>
        simp only [Option.map_some, Option.bind_some, Option.elim_some, count?_redacted]
        cases s.count? .precision counted with
        | none => rfl
        | some s => exact letter?_redacted p.letter s

theorem serveAll?_redacted (ps : List Place) (s : Supply) :
    serveAll? ps (s.redacted mask) = (serveAll? ps s).map (·.redacted mask) := by
  induction ps generalizing s with
  | nil => rfl
  | cons p ps ih =>
    rw [serveAll?_cons, serveAll?_cons, serve?_redacted]
    cases p.serve? s with
    | none => rfl
    | some s => exact ih s

theorem isSpent_redacted (s : Supply) : (s.redacted mask).isSpent = s.isSpent := by
  simp [Supply.isSpent, Supply.redacted]

theorem isOk_fill_redacted (template : String) (a : Arguments) :
    (fill template (a.redacted mask)).isOk = (fill template a).isOk := by
  have hserved (s : Supply) (hs : .ofArguments (a.redacted mask) = s.redacted mask)
      (ha : .ofArguments a = s) :
      (fill template (a.redacted mask)).isOk = (fill template a).isOk := by
    rw [Bool.eq_iff_iff, isOk_fill, isOk_fill, hs, ha]
    simp [serveAll?_redacted, isSpent_redacted]
  cases a with
  | none => rfl
  | positional vs => exact hserved _ (supply_positional vs) rfl
  | named fields => exact hserved _ (supply_named fields) rfl
  | single v => rfl

theorem isPresent_redacted (a : Arguments) : (a.redacted mask).isPresent = a.isPresent := by
  cases a with
  | none => rfl
  | positional vs => simp [Arguments.redacted, Arguments.isPresent, redactValues_eq_map]
  | named fields => simp [Arguments.redacted, Arguments.isPresent, redactFields_eq_map]
  | single v => rfl

theorem isOk_text_iff {r : Record} : (r.redacted mask).text.isOk = true ↔
    (r.arguments.isPresent = true →
      (fill (shown (r.redacted mask).message) r.arguments).isOk = true) := by
  have harguments : (r.redacted mask).arguments = r.arguments.redacted mask := rfl
  rw [Record.text, harguments, isPresent_redacted]
  cases r.arguments.isPresent with
  | true =>
    rw [if_pos rfl, isOk_fill_redacted]
    exact ⟨fun h _ => h, fun h => h rfl⟩
  | false => simp [Except.isOk, Except.toBool]

end Supply

theorem masked_shown (mask : String) (r : Record) :
    Masked mask.toList (shown r.message).toList (shown (r.redacted mask).message).toList := by
  cases hmessage : r.message with
  | text s =>
    have hshown : shown (r.redacted mask).message = redactEmail s mask := by
      simp [Record.redacted, hmessage, shown]
    rw [hshown, redactEmail, String.toList_ofList]
    exact .redact mask.toList s.toList
  | _ =>
    simp only [Record.redacted, hmessage]
    exact .refl _

section Kept

variable {r : Record}

theorem isOk_text_of_places {mask : String} (h : r.text.isOk = true)
    (hplaces : places? (shown (r.redacted mask).message) = places? (shown r.message)) :
    (r.redacted mask).text.isOk = true := by
  rw [isOk_text_iff]
  intro hpresent
  rw [Record.text, if_pos hpresent, isOk_fill] at h
  rw [isOk_fill, hplaces]
  exact h

theorem places?_of_isOk_text {vs : List Value} (h : r.text.isOk = true)
    (harguments : r.arguments = .positional vs) (hvs : vs ≠ [])
    (hmasked : (r.redacted standardMask).text.isOk = true) :
    places? (shown (r.redacted standardMask).message) = places? (shown r.message) := by
  have hpresent : r.arguments.isPresent = true := by simp [harguments, Arguments.isPresent, hvs]
  have hfill := isOk_text_iff.1 hmasked hpresent
  rw [Record.text, if_pos hpresent] at h
  rw [harguments] at h hfill
  obtain ⟨ps, s, hps, hs, hspent⟩ := isOk_fill.1 h
  obtain ⟨ps', s', hps', hs', hspent'⟩ := isOk_fill.1 hfill
  obtain ⟨hunnamed, hdemand⟩ := demand_of_spent rfl hs hspent
  obtain ⟨-, hdemand'⟩ := demand_of_spent rfl hs' hspent'
  have hsub := (masked_shown standardMask r).sublist hps hps' hunnamed
  rw [hps, hps', eq_of_demand hsub (by omega)]

/-- A record that formats still does once it is masked, when its template keeps its places. At any
rate the places that the masked template has must be filled from the arguments as they were, which
takes all the places of the template when the arguments are positional. Arguments without an
address stay as they are. -/
theorem isOk_text_redacted (mask : String) (r : Record) (h : r.text.isOk = true) :
    (r.arguments.isPresent = false ∨
        places? (shown (r.redacted mask).message) = places? (shown r.message) →
      (r.redacted mask).text.isOk = true) ∧
    (r.arguments.isPresent = true → ((r.redacted mask).text.isOk = true ↔
      ∃ ps s, places? (shown (r.redacted mask).message) = some ps ∧
        serveAll? ps (.ofArguments r.arguments) = some s ∧ s.isSpent = true)) ∧
    (∀ vs, mask = standardMask → r.arguments = .positional vs → vs ≠ [] →
      ((r.redacted mask).text.isOk = true ↔
        places? (shown (r.redacted mask).message) = places? (shown r.message))) ∧
    ((∀ s ∈ r.arguments.texts, ¬ HoldsAddress s.toList) →
      (r.redacted mask).arguments = r.arguments) := by
  refine ⟨?_, fun hpresent => ?_, fun vs hmask harguments hvs => ?_,
    fun htexts => Arguments.redacted_eq_self mask htexts⟩
  · rintro (habsent | hplaces)
    · rw [isOk_text_iff, habsent]
      exact fun hpresent => by cases hpresent
    · exact isOk_text_of_places h hplaces
  · rw [isOk_text_iff, ← isOk_fill]
    exact forall_prop_of_true hpresent
  · subst hmask
    exact ⟨places?_of_isOk_text h harguments hvs, isOk_text_of_places h⟩

theorem isOk_text_masked_mail :
    let r : Record := { level := .info, logger := "app", message := .text "to a@b.co: %s (%d%%)",
                        arguments := .positional [.text "c@d.org", .int 7] }
    r.text.isOk = true ∧ (r.redacted standardMask).text.isOk = true := by
  intro r
  have h : r.text.isOk = true := by decide +kernel
  have hplaces : places? (shown (r.redacted standardMask).message) = places? (shown r.message) := by
    cbv
  exact ⟨h, (isOk_text_redacted standardMask r h).1 (.inr hplaces)⟩

theorem text_masked_place :
    let r : Record := { level := .info, logger := "app", message := .text "%s@example.com",
                        arguments := .positional [.text "ann"] }
    r.text = .ok "ann@example.com" ∧
      (r.redacted standardMask).text = .error .starNeedsInteger := by
  constructor <;> cbv

end Kept

end Folio.Log
