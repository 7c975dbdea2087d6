import Folio.Proofs.Log.Address
import Folio.Proofs.Text.Blank

namespace Folio.Log

/-- A search of a text from left to right, with what follows each address it finds. It goes on
after the longest domain. -/
inductive Search : List Char → List (List Char) → Prop
  | nil : Search [] []
  | skip {c : Char} {cs : List Char} {found : List (List Char)} :
      ¬ StartsAddress (c :: cs) → Search cs found → Search (c :: cs) found
  | address {first : Char} {rest d after : List Char} {found : List (List Char)} :
      (∀ c ∈ first :: rest, isLocal c = true) → LongestDomain d (d ++ after) → Search after found →
      Search (first :: rest ++ '@' :: (d ++ after)) (after :: found)

theorem exists_search (cs : List Char) : ∃ found, Search cs found := by
  induction hn : cs.length using Nat.strong_induction_on generalizing cs with
  | h n ih =>
    cases cs with
    | nil => exact ⟨[], .nil⟩
    | cons c cs =>
      by_cases h : StartsAddress (c :: cs)
      · obtain ⟨first, rest, tail, hcs, hlocal, hd⟩ := startsAddress_iff.1 h
        obtain ⟨d, hlongest⟩ := exists_longest hd
        obtain ⟨after, rfl⟩ := hlongest.starts
        rw [hcs] at hn ⊢
        obtain ⟨found, hfound⟩ := ih after.length (by rw [← hn]; simp; omega) after rfl
        exact ⟨after :: found, .address hlocal hlongest hfound⟩
      · obtain ⟨found, hfound⟩ := ih cs.length (by rw [← hn]; simp) cs rfl
        exact ⟨found, .skip h hfound⟩

section Redact

variable {mask : List Char} {c first : Char} {cs rest tail after d : List Char}

theorem not_isLocal_at : isLocal '@' = false := by decide

theorem not_isLocal_star : isLocal '*' = false := by decide

theorem redact_other (h : isLocal c = false) : redact mask (c :: cs) = c :: redact mask cs := by
  rw [redact]
  simp [h]

theorem redact_run (hlocal : ∀ c ∈ first :: rest, isLocal c = true)
    (htail : ∀ c ∈ tail.head?, isLocal c = false ∧ c ≠ '@') :
    redact mask (first :: (rest ++ tail)) = first :: rest ++ redact mask tail := by
  have hrest : ∀ c ∈ rest, isLocal c = true := (List.forall_mem_cons.1 hlocal).2
  obtain ⟨htake, hdrop⟩ := Text.span_append hrest fun c hc => (htail c hc).1
  rw [redact]
  simp only [hlocal first List.mem_cons_self, if_true]
  split
  next after hafter =>
    rw [hdrop] at hafter
    exact absurd rfl (htail '@' (by rw [hafter]; rfl)).2
  next => rw [htake, hdrop]

theorem redact_at (hlocal : ∀ c ∈ first :: rest, isLocal c = true) :
    redact mask (first :: (rest ++ '@' :: after)) = match domainLength? after with
      | some n => first :: mask ++ '@' :: after.take n ++ redact mask (after.drop n)
      | none => first :: rest ++ '@' :: redact mask after := by
  have hrest : ∀ c ∈ rest, isLocal c = true := (List.forall_mem_cons.1 hlocal).2
  have hat : ∀ c ∈ ('@' :: after).head?, isLocal c = false := by simp [not_isLocal_at]
  obtain ⟨htake, hdrop⟩ := Text.span_append hrest hat
  rw [redact]
  simp only [hlocal first List.mem_cons_self, if_true]
  split
  next after' hafter =>
    rw [hdrop] at hafter
    cases hafter
    cases domainLength? after with
    | none => exact congrArg (first :: · ++ '@' :: redact mask after) htake
    | some n => rfl
  next hne =>
    exact absurd hdrop (hne after)

theorem redact_address (hlocal : ∀ c ∈ first :: rest, isLocal c = true)
    (hd : LongestDomain d (d ++ after)) : redact mask (first :: rest ++ '@' :: (d ++ after)) =
      first :: (mask ++ '@' :: (d ++ redact mask after)) := by
  rw [List.cons_append, redact_at hlocal, hd.domainLength?]
  simp

theorem redact_missed (hlocal : ∀ c ∈ first :: rest, isLocal c = true)
    (hd : ¬ StartsDomain after) :
    redact mask (first :: (rest ++ '@' :: after)) =
      first :: rest ++ redact mask ('@' :: after) := by
  rw [redact_at hlocal, domainLength?_eq_none hd, redact_other not_isLocal_at]

theorem redact_unmasked {l : List Char} (hlocal : ∀ c ∈ l, isLocal c = true)
    (htail : ∀ c ∈ tail.head?, isLocal c = false) (h : ¬ StartsAddress (l ++ tail)) :
    redact mask (l ++ tail) = l ++ redact mask tail := by
  cases l with
  | nil => rfl
  | cons first rest =>
    by_cases hat : ∃ after, tail = '@' :: after
    · obtain ⟨after, rfl⟩ := hat
      have hd : ¬ StartsDomain after := fun hd =>
        h (startsAddress_iff.2 ⟨first, rest, after, rfl, hlocal, hd⟩)
      exact redact_missed hlocal hd
    · refine redact_run hlocal fun c hc => ⟨htail c hc, ?_⟩
      rintro rfl
      cases tail with
      | nil => cases hc
      | cons c tail =>
        cases hc
        exact hat ⟨tail, rfl⟩

theorem redact_skip (h : ¬ StartsAddress (c :: cs)) :
    redact mask (c :: cs) = c :: redact mask cs := by
  cases hc : isLocal c with
  | false => exact redact_other hc
  | true =>
    have hlocal : ∀ x ∈ cs.takeWhile isLocal, isLocal x = true :=
      fun x hx => List.all_eq_true.1 List.all_takeWhile x hx
    have htail := Text.head_dropWhile (p := isLocal) cs
    have hcs : ¬ StartsAddress cs := fun hcs => h (hcs.cons hc)
    rw [← List.takeWhile_append_dropWhile (p := isLocal) (l := cs)] at h hcs ⊢
    rw [redact_unmasked hlocal htail hcs]
    exact redact_unmasked (l := c :: cs.takeWhile isLocal) (List.forall_mem_cons.2 ⟨hc, hlocal⟩)
      htail h

theorem redact_nil : redact mask [] = [] := by
  rw [redact]

theorem length_redact_eq_one : (redact mask cs).length = 1 ↔ cs.length = 1 := by
  obtain ⟨found, h⟩ := exists_search cs
  cases h with
  | nil => rw [redact_nil]
  | @skip c cs found hno h =>
    rw [redact_skip hno]
    cases h with
    | nil => rw [redact_nil]
    | @skip c' cs found hno' h =>
      rw [redact_skip hno']
      simp
    | address hlocal hd _ =>
      rw [redact_address hlocal hd]
      simp
  | address hlocal hd _ =>
    rw [redact_address hlocal hd]
    simp

end Redact

def Bridges (cs : List Char) : Prop :=
  ∃ rest, cs = '@' :: rest ∧ StartsDomain rest ∧ ¬ StartsAddress rest

def Overlaps (cs : List Char) : Prop :=
  ∃ found, Search cs found ∧ ∃ after ∈ found, Bridges after

section Standard

variable {c : Char} {cs after : List Char} {found : List (List Char)}

theorem redact_eq_at {mask : List Char} (h : redact mask cs = '@' :: after) :
    ∃ rest, cs = '@' :: rest ∧ after = redact mask rest := by
  obtain ⟨found, hsearch⟩ := exists_search cs
  cases hsearch with
  | nil => simp [redact_nil] at h
  | skip hno _ =>
    rw [redact_skip hno] at h
    cases h
    exact ⟨_, rfl, rfl⟩
  | address hlocal hd _ =>
    rw [redact_address hlocal hd] at h
    cases h
    exact absurd (hlocal '@' List.mem_cons_self) (by simp [not_isLocal_at])

theorem toList_standardMask : standardMask.toList = ['*', '*', '*'] := by decide

theorem takeWhile_redact {mask : List Char} (h : ¬ StartsAddress cs) :
    (redact mask cs).takeWhile isLocal = cs.takeWhile isLocal := by
  have hlocal : ∀ x ∈ cs.takeWhile isLocal, isLocal x = true :=
    fun x hx => List.all_eq_true.1 List.all_takeWhile x hx
  have htail := Text.head_dropWhile (p := isLocal) cs
  have hcs := List.takeWhile_append_dropWhile (p := isLocal) (l := cs)
  have hredact : redact mask cs = cs.takeWhile isLocal ++ redact mask (cs.dropWhile isLocal) := by
    rw [← redact_unmasked hlocal htail (by rwa [hcs]), hcs]
  rw [hredact]
  refine (Text.span_append hlocal fun x hx => ?_).1
  cases hdrop : cs.dropWhile isLocal with
  | nil => simp [hdrop, redact_nil] at hx
  | cons d ds =>
    have hd : isLocal d = false := htail d (by rw [hdrop]; rfl)
    rw [hdrop, redact_other hd] at hx
    cases hx
    exact hd

theorem startsDomain_redact (cs : List Char) :
    StartsDomain (redact standardMask.toList cs) ↔ StartsDomain cs ∧ ¬ StartsAddress cs := by
  by_cases h : StartsAddress cs
  · refine iff_of_false ?_ fun hcs => hcs.2 h
    obtain ⟨found, hsearch⟩ := exists_search cs
    cases hsearch with
    | nil => exact absurd h not_startsAddress_nil
    | skip hno _ => exact absurd h hno
    | address hlocal hd _ =>
      rw [redact_address hlocal hd, toList_standardMask]
      apply not_startsDomain_short
      simp [hlocal _ List.mem_cons_self, not_isLocal_star]
  · rw [startsDomain_run, takeWhile_redact h, ← startsDomain_run]
    exact (and_iff_left h).symm

theorem holdsAddress_masked : HoldsAddress (c :: (standardMask.toList ++ '@' :: cs)) ↔
    HoldsAddress cs := by
  simp [toList_standardMask, holdsAddress_cons, not_isLocal_at, not_isLocal_star]

theorem bridges_iff : Bridges cs ↔
    ∃ after, redact standardMask.toList cs = '@' :: after ∧ StartsDomain after := by
  constructor
  · rintro ⟨rest, rfl, h⟩
    exact ⟨_, redact_other not_isLocal_at, (startsDomain_redact rest).2 h⟩
  · rintro ⟨after, hafter, h⟩
    obtain ⟨rest, rfl, rfl⟩ := redact_eq_at hafter
    exact ⟨rest, rfl, (startsDomain_redact rest).1 h⟩

/-- The masked text holds an address exactly where the search leaves one. -/
theorem holdsAddress_redact (h : Search cs found) :
    HoldsAddress (redact standardMask.toList cs) ↔ ∃ after ∈ found, Bridges after := by
  induction h with
  | nil => simp [redact_nil, not_holdsAddress_nil]
  | @skip c cs found hno _ ih =>
    rw [redact_skip hno, holdsAddress_cons, ih]
    refine or_iff_right ?_
    rintro ⟨hc, after, hafter, hd⟩
    obtain ⟨rest, rfl, rfl⟩ := redact_eq_at hafter
    exact hno (startsAddress_iff.2
      ⟨c, [], rest, rfl, by simpa using hc, ((startsDomain_redact rest).1 hd).1⟩)
  | @address first rest d after found hlocal hd _ ih =>
    rw [redact_address hlocal hd, holdsAddress_masked, holdsAddress_domain hd.domain, ← bridges_iff,
      ih]
    simp

theorem overlaps_iff : Overlaps cs ↔ HoldsAddress (redact standardMask.toList cs) := by
  constructor
  · rintro ⟨found, hsearch, hfound⟩
    exact (holdsAddress_redact hsearch).2 hfound
  · intro h
    obtain ⟨found, hsearch⟩ := exists_search cs
    exact ⟨found, hsearch, (holdsAddress_redact hsearch).1 h⟩

theorem redact_eq_self {mask : List Char} (h : ¬ HoldsAddress cs) : redact mask cs = cs := by
  induction cs with
  | nil => exact redact_nil
  | cons c cs ih =>
    rw [holdsAddress_cons_iff, not_or] at h
    rw [redact_skip h.1, ih h.2]

theorem redact_eq_self_iff : redact standardMask.toList cs = cs ↔ ¬ HoldsAddress cs := by
  refine ⟨fun h hholds => ?_, redact_eq_self⟩
  obtain ⟨found, hsearch⟩ := exists_search cs
  induction hsearch with
  | nil => exact not_holdsAddress_nil hholds
  | @skip c cs found hno _ ih =>
    rw [redact_skip hno, List.cons_inj_right] at h
    exact ih h ((holdsAddress_cons_iff.1 hholds).resolve_left hno)
  | @address first rest d after found hlocal hd _ _ =>
    rw [redact_address hlocal hd, toList_standardMask] at h
    cases rest with
    | nil => simp at h
    | cons c rest =>
      have hc : isLocal '*' = true := by
        simp only [List.cons_append, List.cons.injEq] at h
        rw [h.2.1]
        exact hlocal c (by simp)
      simp [not_isLocal_star] at hc

theorem toList_redactEmail (value : String) :
    (redactEmail value).toList = redact standardMask.toList value.toList :=
  String.toList_ofList

/-- A masked text holds an address, and masking it again changes it, exactly when the domain of an
address that the search finds is followed by an at sign and a domain of no further address. -/
theorem redactEmail_holds_iff (value : String) :
    (HoldsAddress (redactEmail value).toList ↔ Overlaps value.toList) ∧
    (redactEmail (redactEmail value) = redactEmail value ↔ ¬ Overlaps value.toList) := by
  rw [overlaps_iff, ← toList_redactEmail]
  refine ⟨Iff.rfl, ?_⟩
  rw [← redact_eq_self_iff, ← String.toList_inj, toList_redactEmail (redactEmail value)]

theorem redactEmail_shared :
    HoldsAddress (redactEmail "a@b.com@c.org").toList ∧
    redactEmail "a@b.com@c.org" = "a***@b.com@c.org" ∧
    redactEmail (redactEmail "a@b.com@c.org") = "a***@b***@c.org" := by
  have honce : redactEmail "a@b.com@c.org" = "a***@b.com@c.org" := by cbv
  have htwice : redactEmail "a***@b.com@c.org" = "a***@b***@c.org" := by cbv
  have hheld : ¬ ¬ HoldsAddress (redactEmail "a@b.com@c.org").toList := by
    rw [← redact_eq_self_iff, ← toList_redactEmail, String.toList_inj, honce, htwice]
    decide
  exact ⟨not_not.1 hheld, honce, by rw [honce, htwice]⟩

end Standard

end Folio.Log
