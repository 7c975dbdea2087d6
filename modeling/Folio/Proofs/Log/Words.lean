import Folio.Proofs.Log.Redaction

namespace Folio.Log

/-- A character that stands neither in a local part nor in a domain, nor between them. -/
structure Separator (s : Char) : Prop where
  notAt : s ≠ '@'
  notLocal : isLocal s = false
  notDomain : isDomain s = false

variable {s : Char} {a d cs ds mask : List Char}

theorem Address.mem (h : Address a) {c : Char} (hc : c ∈ a) : c = '@' ∨ isLocal c = true := by
  cases h with
  | mk first rest domain hlocal hdomain =>
    rcases List.mem_append.1 hc with hc | hc
    · exact .inr (hlocal c hc)
    · rcases List.mem_cons.1 hc with rfl | hc
      · exact .inl rfl
      · exact .inr (hdomain.isLocal c hc)

theorem Separator.notMem_address (hs : Separator s) (h : Address a) : s ∉ a := by
  intro hmem
  rcases h.mem hmem with rfl | hlocal
  · exact hs.notAt rfl
  · rw [hs.notLocal] at hlocal
    cases hlocal

theorem Separator.notMem_domain (hs : Separator s) (h : Domain d) : s ∉ d := by
  intro hmem
  have hdomain := h.isDomain s hmem
  rw [hs.notDomain] at hdomain
  cases hdomain

theorem prefix_before (hs : s ∉ a) (h : a <+: cs ++ s :: ds) : a <+: cs := by
  rcases List.prefix_or_prefix_of_prefix h (List.prefix_append cs (s :: ds)) with hcs | ⟨t, rfl⟩
  · exact hcs
  · rw [List.prefix_append_right_inj] at h
    cases t with
    | nil => simp
    | cons c t =>
      obtain ⟨rfl, -⟩ := List.cons_prefix_cons.1 h
      exact absurd (by simp) hs

theorem Separator.startsAddress (hs : Separator s) :
    StartsAddress (cs ++ s :: ds) ↔ StartsAddress cs := by
  constructor
  · rintro ⟨a, ha, hcs⟩
    exact ⟨a, ha, prefix_before (hs.notMem_address ha) hcs⟩
  · rintro ⟨a, ha, hcs⟩
    exact ⟨a, ha, hcs.trans (List.prefix_append cs (s :: ds))⟩

theorem Separator.longestDomain (hs : Separator s) (h : LongestDomain d cs) :
    LongestDomain d (cs ++ s :: ds) where
  domain := h.domain
  starts := h.starts.trans (List.prefix_append cs (s :: ds))
  longest d' hd' hcs := h.longest d' hd' (prefix_before (hs.notMem_domain hd') hcs)

theorem Separator.redact (hs : Separator s) (cs ds : List Char) :
    redact mask (cs ++ s :: ds) = redact mask cs ++ s :: redact mask ds := by
  obtain ⟨found, h⟩ := exists_search cs
  induction h with
  | nil => rw [redact_nil, List.nil_append, List.nil_append, redact_other hs.notLocal]
  | @skip c cs found hno _ ih =>
    have hno' : ¬ StartsAddress (c :: (cs ++ s :: ds)) := fun h => hno (hs.startsAddress.1 h)
    rw [List.cons_append, redact_skip hno', redact_skip hno, ih, List.cons_append]
  | @address first rest d after found hlocal hd _ ih =>
    have hd' : LongestDomain d (d ++ (after ++ s :: ds)) := by
      rw [← List.append_assoc]
      exact hs.longestDomain hd
    calc Log.redact mask (first :: rest ++ '@' :: (d ++ after) ++ s :: ds)
      _ = Log.redact mask (first :: rest ++ '@' :: (d ++ (after ++ s :: ds))) := by simp
      _ = first :: (mask ++ '@' :: (d ++ Log.redact mask (after ++ s :: ds))) :=
        redact_address hlocal hd'
      _ = first :: (mask ++ '@' :: (d ++ Log.redact mask after)) ++ s :: Log.redact mask ds := by
        simp [ih]
      _ = _ := by rw [redact_address hlocal hd]

theorem not_holdsAddress (h : '@' ∉ cs) : ¬ HoldsAddress cs := by
  rw [holdsAddress_iff]
  rintro ⟨before, c, after, rfl, -⟩
  simp at h

theorem LongestDomain.self (hd : Domain d) : LongestDomain d (d ++ []) where
  domain := hd
  starts := List.prefix_append d []
  longest _ _ hd' := by simpa using hd'.length_le

/-- Masking goes word by word, leaves texts without an at sign, and turns an address into its first
character, the mask and its domain. -/
theorem redactEmail_words (mask : String) :
    (∀ (u v : String) (s : Char), Separator s →
      redactEmail (u ++ String.singleton s ++ v) mask =
        redactEmail u mask ++ String.singleton s ++ redactEmail v mask) ∧
    (∀ t : String, '@' ∉ t.toList → redactEmail t mask = t) ∧
    ∀ l d : String, l ≠ "" → (∀ c ∈ l.toList, isLocal c = true) → Domain d.toList →
      redactEmail (l ++ "@" ++ d) mask = String.ofList (l.toList.take 1) ++ mask ++ "@" ++ d := by
  refine ⟨fun u v s hs => ?_, fun t ht => ?_, fun l d hne hlocal hd => ?_⟩
  · simp only [redactEmail, ← String.toList_inj, String.toList_append, String.toList_ofList,
      String.toList_singleton, List.append_assoc, List.singleton_append]
    exact hs.redact u.toList v.toList
  · rw [redactEmail, redact_eq_self (not_holdsAddress ht), String.ofList_toList]
  · obtain ⟨first, rest, hl⟩ := List.exists_cons_of_ne_nil (String.toList_eq_nil_iff.not.2 hne)
    have hat : "@".toList = ['@'] := by decide
    rw [hl] at hlocal
    have h : redact mask.toList (first :: rest ++ '@' :: (d.toList ++ [])) = _ :=
      redact_address hlocal (.self hd)
    simpa [redactEmail, ← String.toList_inj, hl, hat, redact_nil] using h

theorem redactEmail_words_mail :
    Separator ' ' ∧ '@' ∉ "write".toList ∧ (∀ c ∈ "jane.doe".toList, isLocal c = true) ∧
      Domain "mail.a-b.co".toList ∧
      redactEmail ("write" ++ String.singleton ' ' ++ ("jane.doe" ++ "@" ++ "mail.a-b.co")) "#" =
        "write j#@mail.a-b.co" := by
  have hs : Separator ' ' := ⟨by decide, by decide, by decide⟩
  have hwrite : '@' ∉ "write".toList := by decide
  have hlocal : ∀ c ∈ "jane.doe".toList, isLocal c = true :=
    List.all_eq_true.1 (by decide)
  have hd : Domain "mail.a-b.co".toList :=
    .mk "mail.a-b".toList "co".toList (by decide) (List.all_eq_true.1 (by decide))
      (List.all_eq_true.1 (by decide)) (by decide)
  obtain ⟨hwords, hkept, haddress⟩ := redactEmail_words "#"
  refine ⟨hs, hwrite, hlocal, hd, ?_⟩
  rw [hwords "write" _ ' ' hs, hkept "write" hwrite,
    haddress "jane.doe" "mail.a-b.co" (by decide) hlocal hd]
  decide

end Folio.Log
