import Folio.Proofs.Log.Redaction
import Folio.Proofs.Log.Filling
/-!
Masking a template: the pattern of addresses takes percent signs for local characters, so masking
can reach into places. It never leaves a place broken and the others whole: those that remain are
places of the template.
-/

namespace Folio.Log

/-- A text and the same with the local parts of some addresses masked. -/
inductive Masked (mask : List Char) : List Char → List Char → Prop
  | nil : Masked mask [] []
  | keep (c : Char) {cs cs' : List Char} : Masked mask cs cs' → Masked mask (c :: cs) (c :: cs')
  | masked (first : Char) {rest cs cs' : List Char} : (∀ c ∈ rest, isLocal c = true) →
      Masked mask cs cs' →
      Masked mask (first :: (rest ++ '@' :: cs)) (first :: (mask ++ '@' :: cs'))

namespace Masked

variable {mask cs cs' : List Char}

theorem append (d : List Char) (h : Masked mask cs cs') : Masked mask (d ++ cs) (d ++ cs') := by
  induction d with
  | nil => exact h
  | cons c d ih => exact .keep c ih

theorem refl (cs : List Char) : Masked mask cs cs := by
  simpa using nil.append cs

theorem of_search {found : List (List Char)} (h : Search cs found) :
    Masked mask cs (redact mask cs) := by
  induction h with
  | nil => rw [redact_nil]; exact .nil
  | @skip c cs found hno _ ih => rw [redact_skip hno]; exact .keep c ih
  | @address first rest d after found hlocal hd _ ih =>
    rw [redact_address hlocal hd, List.cons_append]
    exact .masked first (List.forall_mem_cons.1 hlocal).2 (ih.append d)

theorem redact (mask cs : List Char) : Masked mask cs (Log.redact mask cs) :=
  let ⟨_, h⟩ := exists_search cs
  of_search h

end Masked

namespace Reading

variable {r : Reading} {σ : Stage} {h : Head} {c : Char} {cs rest : List Char} {ps : List Place}

theorem places?_cons : places? r (c :: cs) =
    (r.step? c).bind fun (p?, r) => (places? r cs).map (p?.toList ++ ·) := by
  rw [places?]
  cases r.step? c <;> rfl

theorem exists_step {ps : List Place} (hps : places? r (c :: cs) = some ps) :
    ∃ p? r' qs, r.step? c = some (p?, r') ∧ places? r' cs = some qs ∧ ps = p?.toList ++ qs := by
  rw [places?_cons] at hps
  obtain ⟨⟨p?, r'⟩, hstep, hrest⟩ := Option.bind_eq_some_iff.1 hps
  obtain ⟨qs, hqs, rfl⟩ := Option.map_eq_some_iff.1 hrest
  exact ⟨p?, r', qs, hstep, hqs, rfl⟩

def Unnamed (r : Reading) : Prop :=
  ∀ d read, r ≠ .name d read

theorem exists_named {d : Nat} {read : List Char} (hps : places? (.name d read) cs = some ps) :
    ∃ p ∈ ps, p.head.name ≠ none := by
  rw [places?_name] at hps
  obtain ⟨⟨p, rest⟩, hplace, hrest⟩ := Option.bind_eq_some_iff.1 hps
  obtain ⟨⟨name, after⟩, -, hplace⟩ := Option.bind_eq_some_iff.1 hplace
  obtain ⟨qs, -, rfl⟩ := Option.map_eq_some_iff.1 hrest
  refine ⟨p, List.mem_cons_self, ?_⟩
  simp only [flagsAt?_eq] at hplace
  rw [(of_letterAt? hplace).1]
  simp

theorem step?_at : (Reading.place σ h).step? '@' = none := by
  cases σ with
  | flags => rfl
  | digits n => cases n <;> rfl
  | star n => cases n <;> rfl
  | point => rfl
  | size => rfl

theorem step?_star (σ : Stage) (h : Head) : (Reading.place σ h).step? '*' = none ∨
    ∃ n h', (Reading.place σ h).step? '*' = some (none, .place (.star n) h') := by
  cases σ with
  | flags => exact .inr ⟨_, _, rfl⟩
  | digits n => cases n <;> exact .inl rfl
  | star n => cases n <;> exact .inl rfl
  | point => exact .inr ⟨_, _, rfl⟩
  | size => exact .inl rfl

theorem star_step?_star {n : Count} : (Reading.place (.star n) h).step? '*' = none := by
  cases n <;> rfl

theorem places?_stars : places? (.place σ h) ('*' :: '*' :: cs) = none := by
  obtain hstep | ⟨n, h', hstep⟩ := step?_star σ h
  · simp [places?_cons, hstep]
  · simp [places?_cons, hstep, star_step?_star]

theorem inPlace?_unnamed {p? : Option Place} {r' : Reading}
    (hstep : inPlace? σ h c = some (p?, r')) : r'.Unnamed := by
  rw [inPlace?] at hstep
  split at hstep
  · cases hstep
    exact fun d read hr => by cases hr
  · obtain ⟨q, -, hq⟩ := Option.map_eq_some_iff.1 hstep
    cases hq
    exact fun d read hr => by cases hr

theorem step?_local (hr : r.Unnamed) (hc : isLocal c = true) {p? : Option Place} {r' : Reading}
    (hstep : r.step? c = some (p?, r')) : r'.Unnamed := by
  have hopen : c ≠ '(' := by
    rintro rfl
    exact absurd hc (by decide)
  cases r with
  | text =>
    cases hstep
    split <;> exact fun d read hr => by cases hr
  | percent =>
    simp only [step?, hopen, if_false] at hstep
    split at hstep
    · cases hstep
      exact fun d read hr => by cases hr
    · exact inPlace?_unnamed hstep
  | name d read => exact absurd rfl (hr d read)
  | place σ h => exact inPlace?_unnamed hstep

theorem places?_local (hr : r.Unnamed) (hlocal : ∀ c ∈ rest, isLocal c = true)
    (hps : places? r (rest ++ '@' :: cs) = some ps) :
    ∃ back, places? .text cs = some back ∧ back.Sublist ps := by
  induction rest generalizing r ps with
  | nil =>
    rw [List.nil_append, places?_cons] at hps
    cases r with
    | text => exact ⟨ps, by simpa [step?] using hps, List.Sublist.refl ps⟩
    | percent =>
      have hbroken : percent.step? '@' = none := rfl
      simp [hbroken] at hps
    | name d read => exact absurd rfl (hr d read)
    | place σ h => simp [step?_at] at hps
  | cons c rest ih =>
    obtain ⟨p?, r', qs, hstep, hqs, rfl⟩ := exists_step hps
    obtain ⟨hc, hrest⟩ := List.forall_mem_cons.1 hlocal
    obtain ⟨back, hback, hsub⟩ := ih (step?_local hr hc hstep) hrest hqs
    exact ⟨back, hback, hsub.trans (List.sublist_append_right _ _)⟩

theorem places?_masked (hr : r.Unnamed)
    (hps : places? r (standardMask.toList ++ '@' :: cs) = some ps) :
    r = .text ∧ places? .text cs = some ps := by
  rw [toList_standardMask] at hps
  cases r with
  | text => exact ⟨rfl, by simpa [places?_cons, step?] using hps⟩
  | percent =>
    have hstep : places? .percent (['*', '*', '*'] ++ '@' :: cs) =
        places? (.place .flags {}) (['*', '*', '*'] ++ '@' :: cs) := rfl
    rw [hstep] at hps
    simp [places?_stars] at hps
  | name d read => exact absurd rfl (hr d read)
  | place σ h => simp [places?_stars] at hps

end Reading

/-- Without names, the places that masking leaves are places of the template. -/
theorem Masked.sublist {r : Reading} {cs cs' : List Char} {ps ps' : List Place}
    (h : Masked standardMask.toList cs cs') (hps : Reading.places? r cs = some ps)
    (hps' : Reading.places? r cs' = some ps') (hnames : ∀ p ∈ ps, p.head.name = none) :
    ps'.Sublist ps := by
  induction h generalizing r ps ps' with
  | nil =>
    rw [hps] at hps'
    cases hps'
    exact List.Sublist.refl ps
  | keep c _ ih =>
    obtain ⟨p?, r', qs, hstep, hqs, rfl⟩ := Reading.exists_step hps
    obtain ⟨p?', r'', qs', hstep', hqs', rfl⟩ := Reading.exists_step hps'
    cases hstep.symm.trans hstep'
    have hsub := ih hqs hqs' fun p hp => hnames p (List.mem_append_right _ hp)
    exact hsub.append_left p?.toList
  | @masked first rest cs cs' hlocal _ ih =>
    obtain ⟨p?, r', qs, hstep, hqs, rfl⟩ := Reading.exists_step hps
    obtain ⟨p?', r'', qs', hstep', hqs', rfl⟩ := Reading.exists_step hps'
    cases hstep.symm.trans hstep'
    -- Behind the first character a name would be that of some place.
    have hunnamed : r'.Unnamed := by
      rintro d read rfl
      obtain ⟨p, hp, hname⟩ := Reading.exists_named hqs
      exact hname (hnames p (List.mem_append_right _ hp))
    obtain ⟨back, hback, hsub⟩ := Reading.places?_local hunnamed hlocal hqs
    obtain ⟨-, hback'⟩ := Reading.places?_masked hunnamed hqs'
    have hrest := ih hback hback' fun p hp =>
      hnames p (List.mem_append_right _ (hsub.subset hp))
    exact (hrest.trans hsub).append_left p?.toList

end Folio.Log
