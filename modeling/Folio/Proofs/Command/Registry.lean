import Folio.Command.Service
import Folio.Proofs.Lookup
import Folio.Proofs.Text.Lower

namespace Folio.Command

open Folio.Text

namespace Handler

def key (h : Handler) : String := lower h.info.name

def otherKeys (h : Handler) : List String := h.info.aliases.map lower

def keys (h : Handler) : List String := h.key :: h.otherKeys

def answersTo (h : Handler) (x : String) : Bool := h.keys.contains (lower x)

def answer (h : Handler) (i : Invocation) (context : Context) : Except Fault Result :=
  match h.run i context with
  | .ok result => .ok result
  | .error .interrupted => .error .interrupted
  | .error fault => .ok ⟨failed fault, context.theme⟩

end Handler

def Refused (hs : List Handler) (h : Handler) : Prop :=
  h.key = "" ∨ (∃ g ∈ hs, h.key ∈ g.keys) ∨
    ∃ a ∈ h.otherKeys, a = h.key ∨ (∃ g ∈ hs, a ∈ g.keys) ∨ 1 < h.otherKeys.count a

instance (hs : List Handler) (h : Handler) : Decidable (Refused hs h) :=
  inferInstanceAs (Decidable (h.key = "" ∨ (∃ g ∈ hs, h.key ∈ g.keys) ∨
    ∃ a ∈ h.otherKeys, a = h.key ∨ (∃ g ∈ hs, a ∈ g.keys) ∨ 1 < h.otherKeys.count a))

def Distinct (hs : List Handler) : Prop := (hs.flatMap Handler.keys).Nodup

namespace Registry

def holding (hs : List Handler) : Registry where
  commands := hs.map fun h => (h.key, h)
  aliases := hs.flatMap fun h => h.otherKeys.map (·, h.key)

def attempt (r : Registry) (h : Handler) : Registry :=
  match r.register h with
  | .ok r' => r'
  | .error _ => r

def attemptAll (r : Registry) (hs : List Handler) : Registry :=
  hs.foldl attempt r

/-- The handlers whose registration is not refused when all are registered in turn. -/
def accepted (r : Registry) : List Handler → List Handler
  | [] => []
  | h :: hs =>
    match r.register h with
    | .ok r' => h :: accepted r' hs
    | .error _ => accepted r hs

theorem isTaken_holding {hs : List Handler} {k : String} :
    (holding hs).isTaken k = true ↔ ∃ g ∈ hs, k ∈ g.keys := by
  simp only [isTaken, hasName, hasAlias, holding, Handler.keys, Bool.or_eq_true, List.any_map,
    List.any_flatMap, List.any_eq_true, Function.comp_apply, decide_eq_true_eq, List.mem_cons]
  constructor
  · rintro (⟨g, hg, rfl⟩ | ⟨g, hg, a, ha, rfl⟩)
    · exact ⟨g, hg, .inl rfl⟩
    · exact ⟨g, hg, .inr ha⟩
  · rintro ⟨g, hg, rfl | ha⟩
    · exact .inl ⟨g, hg, rfl⟩
    · exact .inr ⟨g, hg, k, ha, rfl⟩

theorem badAlias?_holding {hs : List Handler} {h : Handler} :
    (holding hs).badAlias? h.key h.otherKeys = none ↔
      ¬ ∃ a ∈ h.otherKeys, a = h.key ∨ (∃ g ∈ hs, a ∈ g.keys) ∨ 1 < h.otherKeys.count a := by
  simp only [badAlias?, List.find?_eq_none, Bool.or_eq_true, decide_eq_true_eq, isTaken_holding,
    or_assoc, not_exists, not_and]

theorem holding_append (hs : List Handler) (h : Handler) :
    holding (hs ++ [h]) = ⟨(holding hs).commands ++ [(h.key, h)],
      (holding hs).aliases ++ h.otherKeys.map (·, h.key)⟩ := by
  simp [holding]

theorem register_ok {hs : List Handler} {h : Handler} (hr : ¬ Refused hs h) :
    (holding hs).register h = .ok (holding (hs ++ [h])) := by
  obtain ⟨hname, hrest⟩ := not_or.1 hr
  obtain ⟨htaken, halias⟩ := not_or.1 hrest
  have hempty : ¬ (lower h.info.name).isEmpty = true := fun he => hname (String.isEmpty_iff.1 he)
  have hfree : ¬ (holding hs).isTaken (lower h.info.name) = true :=
    fun ht => htaken (isTaken_holding.1 ht)
  have hbad := badAlias?_holding.2 halias
  simp only [Handler.key, Handler.otherKeys] at hbad
  simp only [register, if_neg hempty, if_neg hfree, hbad, holding_append, Handler.key,
    Handler.otherKeys]

theorem register_refused {hs : List Handler} {h : Handler} (hr : Refused hs h) :
    ∃ e, (holding hs).register h = .error e := by
  simp only [register]
  by_cases hempty : (lower h.info.name).isEmpty = true
  · exact ⟨.noName, if_pos hempty⟩
  rw [if_neg hempty]
  by_cases htaken : (holding hs).isTaken (lower h.info.name) = true
  · exact ⟨_, if_pos htaken⟩
  rw [if_neg htaken]
  obtain hname | ⟨g, hg, hk⟩ | halias := hr
  · exact absurd (String.isEmpty_iff.2 hname) hempty
  · exact absurd (isTaken_holding.2 ⟨g, hg, hk⟩) htaken
  · cases hbad : (holding hs).badAlias? (lower h.info.name) (h.info.aliases.map lower) with
    | none => exact absurd halias (badAlias?_holding.1 hbad)
    | some a => exact ⟨_, rfl⟩

/-- A registration fails exactly on a handler that is refused. -/
theorem register_error_iff {hs : List Handler} {h : Handler} :
    (∃ e, (holding hs).register h = .error e) ↔ Refused hs h := by
  refine ⟨?_, register_refused⟩
  rintro ⟨e, he⟩
  by_contra hr
  rw [register_ok hr] at he
  cases he

theorem attempt_holding (hs : List Handler) (h : Handler) :
    (holding hs).attempt h = if Refused hs h then holding hs else holding (hs ++ [h]) := by
  by_cases hr : Refused hs h
  · obtain ⟨e, he⟩ := register_refused hr
    rw [attempt, he, if_pos hr]
  · rw [attempt, register_ok hr, if_neg hr]

theorem accepted_cons (as hs : List Handler) (h : Handler) :
    accepted (holding as) (h :: hs) = if Refused as h then accepted (holding as) hs
      else h :: accepted (holding (as ++ [h])) hs := by
  by_cases hr : Refused as h
  · obtain ⟨e, he⟩ := register_refused hr
    rw [accepted, he, if_pos hr]
  · rw [accepted, register_ok hr, if_neg hr]

theorem nodup_keys {as : List Handler} {h : Handler} (hr : ¬ Refused as h) : h.keys.Nodup := by
  obtain ⟨-, hrest⟩ := not_or.1 hr
  obtain ⟨-, halias⟩ := not_or.1 hrest
  rw [Handler.keys, List.nodup_cons]
  refine ⟨fun hk => halias ⟨_, hk, .inl rfl⟩, ?_⟩
  rw [List.nodup_iff_count_le_one]
  intro a
  by_cases ha : a ∈ h.otherKeys
  · exact Nat.le_of_not_lt fun hc => halias ⟨a, ha, .inr (.inr hc)⟩
  · simp [List.count_eq_zero_of_not_mem ha]

theorem distinct_append {as : List Handler} {h : Handler} (hd : Distinct as)
    (hr : ¬ Refused as h) : Distinct (as ++ [h]) := by
  rw [Distinct, List.flatMap_append, List.nodup_append]
  refine ⟨hd, by simpa using nodup_keys hr, ?_⟩
  obtain ⟨-, hrest⟩ := not_or.1 hr
  obtain ⟨hname, halias⟩ := not_or.1 hrest
  rintro a ha _ hb rfl
  obtain ⟨g, hg, hag⟩ := List.mem_flatMap.1 ha
  have hkeys : a ∈ h.keys := by simpa using hb
  obtain rfl | hother := List.mem_cons.1 hkeys
  · exact hname ⟨g, hg, hag⟩
  · exact halias ⟨a, hother, .inr (.inl ⟨g, hg, hag⟩)⟩

theorem attemptAll_holding (as hs : List Handler) :
    (holding as).attemptAll hs = holding (as ++ accepted (holding as) hs) := by
  induction hs generalizing as with
  | nil => simp [attemptAll, accepted]
  | cons h hs ih =>
    rw [attemptAll, List.foldl_cons, ← attemptAll, attempt_holding, accepted_cons]
    split
    · exact ih as
    · rw [ih (as ++ [h]), List.append_assoc]
      rfl

theorem distinct_accepted {as : List Handler} (hd : Distinct as) (hs : List Handler) :
    Distinct (as ++ accepted (holding as) hs) := by
  induction hs generalizing as with
  | nil => simpa [accepted] using hd
  | cons h hs ih =>
    rw [accepted_cons]
    split
    · exact ih hd
    next hr =>
      have happ := ih (distinct_append hd hr)
      rwa [List.append_assoc] at happ

theorem attemptAll_append (r : Registry) (hs : List Handler) (h : Handler) :
    r.attemptAll (hs ++ [h]) = (r.attemptAll hs).attempt h := by
  rw [attemptAll, List.foldl_append, ← attemptAll]
  rfl

theorem accepted_append (r : Registry) (hs more : List Handler) :
    accepted r (hs ++ more) = accepted r hs ++ accepted (r.attemptAll hs) more := by
  induction hs generalizing r with
  | nil => rfl
  | cons h hs ih =>
    rw [attemptAll, List.foldl_cons, ← attemptAll, List.cons_append, accepted, accepted, attempt]
    cases r.register h with
    | ok r' => exact congrArg (h :: ·) (ih r')
    | error e => exact ih r

section Lookup

variable {hs : List Handler} {g h : Handler} {k : String}

theorem eq_of_mem_keys (hd : Distinct hs) (hg : g ∈ hs) (hh : h ∈ hs) (hkg : k ∈ g.keys)
    (hkh : k ∈ h.keys) : g = h := by
  by_contra hne
  have hsymm : Std.Symm (Function.onFun List.Disjoint Handler.keys) :=
    ⟨fun _ _ hdis _ ha hb => hdis hb ha⟩
  exact (List.nodup_flatMap.1 hd).2.forall hg hh hne hkg hkh

theorem key_notMem_otherKeys (hd : Distinct hs) (hg : g ∈ hs) (hh : h ∈ hs) :
    g.key ∉ h.otherKeys := by
  intro hk
  obtain rfl := eq_of_mem_keys hd hg hh List.mem_cons_self (List.mem_cons_of_mem _ hk)
  exact (List.nodup_cons.1 ((List.nodup_flatMap.1 hd).1 g hg)).1 hk

theorem lookup_aliases (hd : Distinct hs) (hg : g ∈ hs) (hk : k ∈ g.otherKeys) :
    (holding hs).aliases.lookup k = some g.key := by
  refine lookup_of_unique (List.mem_flatMap_of_mem hg (List.mem_map_of_mem hk)) fun n hn => ?_
  obtain ⟨f, hf, hkn⟩ := List.mem_flatMap.1 hn
  obtain ⟨a, ha, hak⟩ := List.mem_map.1 hkn
  obtain ⟨rfl, rfl⟩ := Prod.mk.inj hak
  rw [eq_of_mem_keys hd hg hf (List.mem_cons_of_mem _ hk) (List.mem_cons_of_mem _ ha)]

theorem lookup_aliases_eq_none (hk : ∀ g ∈ hs, k ∉ g.otherKeys) :
    (holding hs).aliases.lookup k = none := by
  rw [lookup_eq_none_iff_notMem, List.mem_map]
  rintro ⟨p, hp, rfl⟩
  obtain ⟨g, hg, hpg⟩ := List.mem_flatMap.1 hp
  obtain ⟨a, ha, rfl⟩ := List.mem_map.1 hpg
  exact hk g hg ha

theorem lookup_commands (hd : Distinct hs) (hg : g ∈ hs) :
    (holding hs).commands.lookup g.key = some g := by
  refine lookup_of_unique (List.mem_map_of_mem hg) fun f hf => ?_
  obtain ⟨e, he, hek⟩ := List.mem_map.1 hf
  obtain ⟨hkey, rfl⟩ := Prod.mk.inj hek
  exact eq_of_mem_keys hd he hg (hkey ▸ List.mem_cons_self) List.mem_cons_self

theorem resolve_alias (hd : Distinct hs) (hg : g ∈ hs) {x : String} (hx : lower x ∈ g.otherKeys) :
    (holding hs).resolve x = g.key := by
  rw [resolve, lookup_aliases hd hg hx, Option.getD_some]

theorem resolve_other {x : String} (hx : ∀ g ∈ hs, lower x ∉ g.otherKeys) :
    (holding hs).resolve x = lower x := by
  rw [resolve, lookup_aliases_eq_none hx, Option.getD_none]

theorem resolve_resolve (hd : Distinct hs) (x : String) :
    (holding hs).resolve ((holding hs).resolve x) = (holding hs).resolve x := by
  by_cases hx : ∃ g ∈ hs, lower x ∈ g.otherKeys
  · obtain ⟨g, hg, hk⟩ := hx
    have hkey : lower g.key = g.key := lower_lower g.info.name
    rw [resolve_alias hd hg hk, resolve_other, hkey]
    intro h hh
    rw [hkey]
    exact key_notMem_otherKeys hd hg hh
  · have hnone : ∀ g ∈ hs, lower x ∉ g.otherKeys := fun g hg hk => hx ⟨g, hg, hk⟩
    rw [resolve_other hnone, resolve_other, lower_lower]
    simpa using hnone

theorem get?_holding (hd : Distinct hs) (hg : g ∈ hs) {x : String} (hx : g.answersTo x) :
    (holding hs).get? x = some g := by
  have hmem : lower x ∈ g.keys := by simpa [Handler.answersTo] using hx
  obtain hkey | hother := List.mem_cons.1 hmem
  · have hnone : ∀ h ∈ hs, lower x ∉ h.otherKeys := by
      intro h hh
      rw [hkey]
      exact key_notMem_otherKeys hd hg hh
    rw [get?, resolve_other hnone, hkey, lookup_commands hd hg]
  · rw [get?, resolve_alias hd hg hother, lookup_commands hd hg]

theorem get?_holding_eq_none {x : String} (hx : ∀ g ∈ hs, g.answersTo x = false) :
    (holding hs).get? x = none := by
  have hnone : ∀ g ∈ hs, lower x ∉ g.keys := by simpa [Handler.answersTo] using hx
  rw [get?, resolve_other fun g hg hk => hnone g hg (List.mem_cons_of_mem _ hk),
    lookup_eq_none_iff_notMem, List.mem_map]
  rintro ⟨p, hp, hkey⟩
  obtain ⟨g, hg, rfl⟩ := List.mem_map.1 hp
  exact hnone g hg (hkey ▸ List.mem_cons_self)

theorem get?_eq_some {x : String} (h : (holding hs).get? x = some g) :
    g ∈ hs ∧ (holding hs).resolve x = g.key := by
  obtain ⟨f, hf, hkey⟩ := List.mem_map.1 (mem_of_lookup h)
  obtain ⟨hresolve, rfl⟩ := Prod.mk.inj hkey
  exact ⟨hf, hresolve.symm⟩

theorem filter_answersTo (hd : Distinct hs) (x : String) :
    hs.filter (·.answersTo x) = ((holding hs).get? x).toList := by
  have hpair := (List.nodup_flatMap.1 hd).2.filter (·.answersTo x)
  have hmem : ∀ g ∈ hs.filter (·.answersTo x), g ∈ hs ∧ g.answersTo x := fun g => List.mem_filter.1
  cases hf : hs.filter (·.answersTo x) with
  | nil =>
    rw [get?_holding_eq_none]
    · rfl
    · simpa using List.filter_eq_nil_iff.1 hf
  | cons g rest =>
    rw [hf] at hpair hmem
    obtain ⟨hg, hgx⟩ := hmem g List.mem_cons_self
    rw [get?_holding hd hg hgx]
    cases rest with
    | nil => rfl
    | cons h rest =>
      -- a second handler would share the key
      obtain ⟨-, hhx⟩ := hmem h (List.mem_cons_of_mem g List.mem_cons_self)
      have hdis := List.rel_of_pairwise_cons hpair List.mem_cons_self
      simp only [Handler.answersTo, List.contains_iff_mem] at hgx hhx
      exact absurd hhx (hdis hgx)

theorem hasCommand_holding (hd : Distinct hs) (x : String) :
    (holding hs).hasCommand x = true ↔ (holding hs).get? x ≠ none := by
  rw [hasCommand, isTaken_holding]
  constructor
  · rintro ⟨g, hg, hk⟩
    rw [get?_holding hd hg (by simpa [Handler.answersTo] using hk)]
    exact Option.some_ne_none g
  · intro hget
    by_contra htaken
    apply hget
    apply get?_holding_eq_none
    intro g hg
    simpa [Handler.answersTo] using fun hk => htaken ⟨g, hg, hk⟩

theorem get?_resolve (hd : Distinct hs) (x : String) :
    (holding hs).get? ((holding hs).resolve x) = (holding hs).get? x := by
  rw [get?, resolve_resolve hd, get?]

theorem get?_lower (r : Registry) (x : String) : r.get? (lower x) = r.get? x := by
  simp only [get?, resolve, lower_lower]

section Execute

variable {i : Invocation} {context : Context}

theorem execute_empty (r : Registry) (h : i.command = "") :
    r.execute i context = .ok ⟨noCommand, context.theme⟩ := by
  have hempty : (lower i.command).isEmpty = true := by rw [isEmpty_lower, h]; rfl
  simp only [execute, if_pos hempty]

theorem not_isEmpty_lower {x : String} (h : x ≠ "") : ¬ (lower x).isEmpty = true := by
  rwa [isEmpty_lower, String.isEmpty_iff]

theorem execute_notFound (hd : Distinct hs) (hname : i.command ≠ "")
    (h : (holding hs).get? i.command = none) : (holding hs).execute i context =
      .ok ⟨notFound (holding hs) (lower i.command), context.theme⟩ := by
  have hempty := not_isEmpty_lower hname
  simp only [execute, if_neg hempty, get?_resolve hd, get?_lower, h]

def shown (r : Registry) (context : Context) : Context :=
  { context with visible := r.visible.map (·.info) }

@[simp] theorem shown_theme (r : Registry) (context : Context) :
    (r.shown context).theme = context.theme := rfl

@[simp] theorem shown_data (r : Registry) (context : Context) :
    (r.shown context).data = context.data := rfl

@[simp] theorem shown_now (r : Registry) (context : Context) :
    (r.shown context).now = context.now := rfl

theorem execute_found (hd : Distinct hs) (hname : i.command ≠ "")
    (h : (holding hs).get? i.command = some g) :
    (holding hs).execute i context = g.answer i ((holding hs).shown context) := by
  have hempty := not_isEmpty_lower hname
  simp only [execute, if_neg hempty, get?_resolve hd, get?_lower, h]
  rfl

theorem execute_ok (hd : Distinct hs) (hname : i.command ≠ "")
    (h : (holding hs).get? i.command = some g) {result : Result}
    (hrun : g.run i ((holding hs).shown context) = .ok result) :
    (holding hs).execute i context = .ok result := by
  rw [execute_found hd hname h, Handler.answer, hrun]

theorem execute_failed (hd : Distinct hs) (hname : i.command ≠ "")
    (h : (holding hs).get? i.command = some g) {fault : Fault}
    (hrun : g.run i ((holding hs).shown context) = .error fault) (hpass : fault ≠ .interrupted) :
    (holding hs).execute i context = .ok ⟨failed fault, context.theme⟩ := by
  simp only [execute_found hd hname h, Handler.answer, hrun, shown_theme]

end Execute

theorem names_holding (hs : List Handler) : (holding hs).names = hs.map Handler.key := by
  simp [names, holding]

end Lookup

theorem distinct_nil : Distinct [] := List.nodup_nil

theorem not_refused {as : List Handler} {h : Handler} (hname : h.key ≠ "")
    (hd : Distinct (as ++ [h])) : ¬ Refused as h := by
  rw [Distinct, List.flatMap_append, List.nodup_append] at hd
  obtain ⟨-, hkeys, hdis⟩ := hd
  simp only [List.flatMap_cons, List.flatMap_nil, List.append_nil] at hkeys hdis
  have hfree : ∀ k ∈ h.keys, ¬ ∃ g ∈ as, k ∈ g.keys := fun k hk ⟨g, hg, hkg⟩ =>
    hdis k (List.mem_flatMap_of_mem hg hkg) k hk rfl
  rintro (hempty | htaken | ⟨a, ha, rfl | htaken | hcount⟩)
  · exact hname hempty
  · exact hfree h.key List.mem_cons_self htaken
  · exact (List.nodup_cons.1 hkeys).1 ha
  · exact hfree a (List.mem_cons_of_mem h.key ha) htaken
  · exact absurd (List.nodup_iff_count_le_one.1 (List.nodup_cons.1 hkeys).2 a) (by omega)

theorem registerAll_ok {as hs : List Handler} (hnames : ∀ h ∈ hs, h.key ≠ "")
    (hd : Distinct (as ++ hs)) : hs.foldlM register (holding as) = .ok (holding (as ++ hs)) := by
  induction hs generalizing as with
  | nil => rw [List.append_nil]; rfl
  | cons h hs ih =>
    have happ : as ++ h :: hs = (as ++ [h]) ++ hs := by simp
    rw [happ] at hd
    have hfirst : Distinct (as ++ [h]) := by
      rw [Distinct, List.flatMap_append] at hd
      exact (List.nodup_append.1 hd).1
    have hreg := register_ok (not_refused (hnames h List.mem_cons_self) hfirst)
    rw [List.foldlM_cons, hreg, happ]
    exact ih (fun g hg => hnames g (List.mem_cons_of_mem h hg)) hd

/-- Whatever is registered, with refusals caught: a call fails exactly on a handler that the ones
accepted before refuse, and then changes nothing; and the registry finds an accepted handler under
its name and aliases, and nothing under other texts. -/
theorem attemptAll_finds_accepted (hs : List Handler) :
    (∀ h, (∃ e, (attemptAll {} hs).register h = .error e) ↔ Refused (accepted {} hs) h) ∧
    (∀ h, Refused (accepted {} hs) h →
      attemptAll {} (hs ++ [h]) = attemptAll {} hs ∧ accepted {} (hs ++ [h]) = accepted {} hs) ∧
    (∀ h, ¬ Refused (accepted {} hs) h → accepted {} (hs ++ [h]) = accepted {} hs ++ [h]) ∧
    (∀ x, (accepted {} hs).filter (·.answersTo x) = ((attemptAll {} hs).get? x).toList) ∧
    (∀ x, (attemptAll {} hs).hasCommand x = true ↔ (attemptAll {} hs).get? x ≠ none) ∧
    (∀ x, (attemptAll {} hs).resolve ((attemptAll {} hs).resolve x) = (attemptAll {} hs).resolve x ∧
      (attemptAll {} hs).get? ((attemptAll {} hs).resolve x) = (attemptAll {} hs).get? x) ∧
    (attemptAll {} hs).names = (accepted {} hs).map Handler.key := by
  have hrun : attemptAll {} hs = holding (accepted {} hs) := attemptAll_holding [] hs
  have hd : Distinct (accepted {} hs) := distinct_accepted distinct_nil hs
  have hnext : ∀ h, accepted {} (hs ++ [h]) =
      if Refused (accepted {} hs) h then accepted {} hs else accepted {} hs ++ [h] := by
    intro h
    rw [accepted_append, hrun, accepted_cons]
    split <;> simp [accepted]
  refine ⟨?_, ?_, ?_, ?_, ?_, ?_, ?_⟩
  · intro h
    rw [hrun]
    exact register_error_iff
  · intro h hr
    refine ⟨?_, by rw [hnext, if_pos hr]⟩
    rw [attemptAll_append, hrun, attempt_holding, if_pos hr]
  · intro h hr
    rw [hnext, if_neg hr]
  · intro x
    rw [hrun]
    exact filter_answersTo hd x
  · intro x
    rw [hrun]
    exact hasCommand_holding hd x
  · intro x
    rw [hrun]
    exact ⟨resolve_resolve hd x, get?_resolve hd x⟩
  · rw [hrun]
    exact names_holding _

end Registry

end Folio.Command
