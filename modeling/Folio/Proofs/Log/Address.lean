import Mathlib
import Folio.Log.Redaction

namespace Folio.Log

inductive Domain : List Char → Prop
  | mk (part letters : List Char) (nonempty : part ≠ []) (body : ∀ c ∈ part, isDomain c = true)
      (ending : ∀ c ∈ letters, isLetter c = true) (two : 2 ≤ letters.length) :
      Domain (part ++ '.' :: letters)

inductive Address : List Char → Prop
  | mk (first : Char) (rest domain : List Char)
      (isLocal : ∀ c ∈ first :: rest, isLocal c = true) (isDomain : Domain domain) :
      Address (first :: rest ++ '@' :: domain)

def StartsDomain (cs : List Char) : Prop :=
  ∃ d, Domain d ∧ d <+: cs

def StartsAddress (cs : List Char) : Prop :=
  ∃ a, Address a ∧ a <+: cs

def HoldsAddress (cs : List Char) : Prop :=
  ∃ a, Address a ∧ a <:+: cs

structure LongestDomain (d cs : List Char) : Prop where
  domain : Domain d
  starts : d <+: cs
  longest : ∀ d', Domain d' → d' <+: cs → d'.length ≤ d.length

theorem isDomain_of_isLetter {c : Char} (h : isLetter c = true) : isDomain c = true := by
  simp [isDomain, isAlphanumeric, h]

theorem isLocal_of_isDomain {c : Char} (h : isDomain c = true) : isLocal c = true := by
  simp only [isDomain, Bool.or_eq_true, beq_iff_eq] at h
  obtain (h | rfl) | rfl := h
  · simp [isLocal, h]
  · rfl
  · rfl

theorem not_isLetter_dot : ¬ isLetter '.' = true := by decide

namespace Domain

variable {d : List Char}

theorem isDomain (h : Domain d) : ∀ c ∈ d, isDomain c = true := by
  cases h with
  | mk part letters _ body ending _ =>
    intro c hc
    rcases List.mem_append.1 hc with hc | hc
    · exact body c hc
    · rcases List.mem_cons.1 hc with rfl | hc
      · rfl
      · exact isDomain_of_isLetter (ending c hc)

theorem isLocal (h : Domain d) : ∀ c ∈ d, isLocal c = true :=
  fun c hc => isLocal_of_isDomain (h.isDomain c hc)

theorem ne_nil (h : Domain d) : d ≠ [] := by
  cases h
  simp

theorem length (h : Domain d) : 4 ≤ d.length := by
  cases h with
  | mk part letters nonempty _ _ two =>
    have := List.length_pos_of_ne_nil nonempty
    simp
    omega

end Domain

/-- After `n` characters of a text there is the end of a domain: letters after a dot, which is not
the first of all characters. `i` characters stood before the text. -/
inductive EndsAt : Nat → List Char → Nat → Prop
  | dot {i : Nat} {letters cs : List Char} (inside : 0 < i)
      (ending : ∀ c ∈ letters, isLetter c = true) (two : 2 ≤ letters.length)
      (here : letters <+: cs) :
      EndsAt i ('.' :: cs) (i + 1 + letters.length)
  | later {i n : Nat} {cs : List Char} (c : Char) : EndsAt (i + 1) cs n → EndsAt i (c :: cs) n

namespace EndsAt

variable {i n : Nat} {cs part letters rest : List Char}

theorem lt (h : EndsAt i cs n) : i < n := by
  induction h with
  | dot inside ending two here => omega
  | later c _ ih => omega

theorem letters_lt (h : EndsAt i cs n) (hletters : ∀ c ∈ letters, isLetter c = true)
    (hcs : letters <+: cs) : i + letters.length < n := by
  induction letters generalizing i cs with
  | nil => exact h.lt
  | cons l letters ih =>
    obtain ⟨rest, rfl⟩ := hcs
    cases h with
    | dot => exact absurd (hletters '.' List.mem_cons_self) not_isLetter_dot
    | later _ h =>
      have := ih h (fun c hc => hletters c (List.mem_cons_of_mem l hc)) (List.prefix_append _ rest)
      simp
      omega

theorem of_append (inside : 0 < i + part.length) (ending : ∀ c ∈ letters, isLetter c = true)
    (two : 2 ≤ letters.length) : EndsAt i (part ++ '.' :: (letters ++ rest))
      (i + (part ++ '.' :: letters).length) := by
  induction part generalizing i with
  | nil =>
    have h := EndsAt.dot inside ending two (List.prefix_append letters rest)
    rwa [Nat.add_assoc, Nat.add_comm 1] at h
  | cons c part ih =>
    have h := ih (i := i + 1) (by omega)
    rw [Nat.add_assoc, Nat.add_comm 1] at h
    exact .later c h

theorem exists_append (h : EndsAt i cs n) : ∃ part letters rest,
    cs = part ++ '.' :: (letters ++ rest) ∧ 0 < i + part.length ∧
      (∀ c ∈ letters, isLetter c = true) ∧ 2 ≤ letters.length ∧
      n = i + (part ++ '.' :: letters).length := by
  induction h with
  | dot inside ending two here =>
    obtain ⟨rest, rfl⟩ := here
    exact ⟨[], _, rest, rfl, inside, ending, two, by simp; omega⟩
  | later c _ ih =>
    obtain ⟨part, letters, rest, rfl, inside, ending, two, rfl⟩ := ih
    exact ⟨c :: part, letters, rest, rfl, by simp, ending, two, by simp; omega⟩

end EndsAt

section End

variable {i n : Nat} {c : Char} {cs d : List Char}

theorem domainEnd?_cons_some (h : domainEnd? (i + 1) cs = some n) :
    domainEnd? i (c :: cs) = some n := by
  rw [domainEnd?, h]

theorem domainEnd?_cons_none (h : domainEnd? (i + 1) cs = none) :
    domainEnd? i (c :: cs) =
      if c = '.' ∧ 0 < i ∧ 2 ≤ (cs.takeWhile isLetter).length then
        some (i + 1 + (cs.takeWhile isLetter).length)
      else none := by
  rw [domainEnd?, h]

theorem letters_le {letters : List Char} (hletters : ∀ c ∈ letters, isLetter c = true)
    (hcs : letters <+: cs) : letters.length ≤ (cs.takeWhile isLetter).length := by
  obtain ⟨rest, rfl⟩ := hcs
  rw [List.takeWhile_append_of_pos hletters, List.length_append]
  exact Nat.le_add_right _ _

/-- The end that is found is the last one. -/
theorem domainEnd?_spec (i : Nat) (cs : List Char) : match domainEnd? i cs with
    | some n => EndsAt i cs n ∧ ∀ m, EndsAt i cs m → m ≤ n
    | none => ∀ m, ¬ EndsAt i cs m := by
  induction cs generalizing i with
  | nil => intro m h; cases h
  | cons c cs ih =>
    have hlater := ih (i + 1)
    cases hend : domainEnd? (i + 1) cs with
    | some n =>
      -- An end further on lies beyond the letters of one that starts here.
      rw [hend] at hlater
      rw [domainEnd?_cons_some hend]
      refine ⟨.later c hlater.1, fun m hm => ?_⟩
      cases hm with
      | dot inside ending two here => exact (hlater.1.letters_lt ending here).le
      | later _ hm => exact hlater.2 m hm
    | none =>
      rw [hend] at hlater
      rw [domainEnd?_cons_none hend]
      split_ifs with hdot
      · obtain ⟨rfl, inside, two⟩ := hdot
        refine ⟨.dot inside (fun c hc => List.all_eq_true.1 List.all_takeWhile c hc) two
          (List.takeWhile_prefix _), fun m hm => ?_⟩
        cases hm with
        | dot inside ending two here => exact Nat.add_le_add_left (letters_le ending here) _
        | later _ hm => exact absurd hm (hlater m)
      · intro m hm
        cases hm with
        | dot inside ending two here =>
          exact hdot ⟨rfl, inside, two.trans (letters_le ending here)⟩
        | later _ hm => exact hlater m hm

theorem endsAt_of_domain (h : Domain d) (hcs : d <+: cs) : EndsAt 0 cs d.length := by
  obtain ⟨rest, rfl⟩ := hcs
  cases h with
  | mk part letters nonempty body ending two =>
    have hinside : 0 < 0 + part.length := by simpa using List.length_pos_of_ne_nil nonempty
    have h : EndsAt 0 (part ++ '.' :: (letters ++ rest)) _ := .of_append hinside ending two
    simpa using h

theorem exists_domain (h : EndsAt 0 (cs.takeWhile isDomain) n) :
    ∃ d, Domain d ∧ d <+: cs ∧ d.length = n := by
  obtain ⟨part, letters, rest, hrun, inside, ending, two, rfl⟩ := h.exists_append
  have hbody : ∀ c ∈ part, isDomain c = true := by
    intro c hc
    refine List.all_eq_true.1 (List.all_takeWhile (l := cs)) c ?_
    rw [hrun]
    exact List.mem_append_left _ hc
  have hd : part ++ '.' :: letters <+: cs.takeWhile isDomain := by
    rw [hrun, ← List.cons_append, ← List.append_assoc]
    exact List.prefix_append _ rest
  refine ⟨part ++ '.' :: letters, .mk part letters ?_ hbody ending two,
    hd.trans (List.takeWhile_prefix _), (Nat.zero_add _).symm⟩
  exact List.ne_nil_of_length_pos (by simpa using inside)

theorem Domain.starts_run (h : Domain d) (hcs : d <+: cs) : d <+: cs.takeWhile Log.isDomain := by
  obtain ⟨rest, rfl⟩ := hcs
  rw [List.takeWhile_append_of_pos h.isDomain]
  exact List.prefix_append d _

theorem domainLength?_spec (cs : List Char) : match domainLength? cs with
    | some n => ∃ d, LongestDomain d cs ∧ d.length = n
    | none => ¬ StartsDomain cs := by
  have hspec := domainEnd?_spec 0 (cs.takeWhile isDomain)
  rw [domainLength?]
  cases hend : domainEnd? 0 (cs.takeWhile isDomain) with
  | some n =>
    rw [hend] at hspec
    obtain ⟨d, hd, hcs, hn⟩ := exists_domain hspec.1
    refine ⟨d, ⟨hd, hcs, fun d' hd' hcs' => ?_⟩, hn⟩
    rw [hn]
    exact hspec.2 _ (endsAt_of_domain hd' (hd'.starts_run hcs'))
  | none =>
    rw [hend] at hspec
    rintro ⟨d, hd, hcs⟩
    exact hspec _ (endsAt_of_domain hd (hd.starts_run hcs))

theorem domainLength?_eq_none (h : ¬ StartsDomain cs) : domainLength? cs = none := by
  have hspec := domainLength?_spec cs
  cases hn : domainLength? cs with
  | none => rfl
  | some n =>
    rw [hn] at hspec
    obtain ⟨d, hd, -⟩ := hspec
    exact absurd ⟨d, hd.domain, hd.starts⟩ h

theorem LongestDomain.domainLength? (h : LongestDomain d cs) :
    domainLength? cs = some d.length := by
  have hspec := domainLength?_spec cs
  cases hn : Log.domainLength? cs with
  | none =>
    rw [hn] at hspec
    exact absurd ⟨d, h.domain, h.starts⟩ hspec
  | some n =>
    rw [hn] at hspec
    obtain ⟨d', hd', rfl⟩ := hspec
    rw [Nat.le_antisymm (h.longest d' hd'.domain hd'.starts) (hd'.longest d h.domain h.starts)]

theorem exists_longest (h : StartsDomain cs) : ∃ d, LongestDomain d cs := by
  have hspec := domainLength?_spec cs
  cases hn : domainLength? cs with
  | none =>
    rw [hn] at hspec
    exact absurd h hspec
  | some n =>
    rw [hn] at hspec
    obtain ⟨d, hd, -⟩ := hspec
    exact ⟨d, hd⟩

end End

section Start

variable {c : Char} {cs l d after : List Char}

theorem startsDomain_run : StartsDomain cs ↔ StartsDomain (cs.takeWhile isLocal) := by
  constructor
  · rintro ⟨d, hd, rest, rfl⟩
    refine ⟨d, hd, ?_⟩
    rw [List.takeWhile_append_of_pos hd.isLocal]
    exact List.prefix_append d _
  · rintro ⟨d, hd, hcs⟩
    exact ⟨d, hd, hcs.trans (List.takeWhile_prefix _)⟩

theorem not_startsDomain_short (h : (cs.takeWhile isLocal).length < 4) : ¬ StartsDomain cs := by
  rw [startsDomain_run]
  rintro ⟨d, hd, hcs⟩
  exact absurd (hd.length.trans hcs.length_le) (by omega)

theorem startsAddress_iff : StartsAddress cs ↔
    ∃ first rest after, cs = first :: rest ++ '@' :: after ∧
      (∀ c ∈ first :: rest, isLocal c = true) ∧ StartsDomain after := by
  constructor
  · rintro ⟨_, ⟨first, rest, d, hlocal, hd⟩, after, rfl⟩
    exact ⟨first, rest, d ++ after, by simp, hlocal, d, hd, List.prefix_append d after⟩
  · rintro ⟨first, rest, _, rfl, hlocal, d, hd, after, rfl⟩
    exact ⟨_, .mk first rest d hlocal hd, after, by simp⟩

theorem not_startsAddress_nil : ¬ StartsAddress [] := by
  rw [startsAddress_iff]
  rintro ⟨first, rest, after, h, -⟩
  simp at h

theorem StartsAddress.cons (hc : isLocal c = true) (h : StartsAddress cs) :
    StartsAddress (c :: cs) := by
  obtain ⟨first, rest, after, rfl, hlocal, hd⟩ := startsAddress_iff.1 h
  exact startsAddress_iff.2 ⟨c, first :: rest, after, rfl, List.forall_mem_cons.2 ⟨hc, hlocal⟩, hd⟩

theorem holdsAddress_iff : HoldsAddress cs ↔ ∃ before c after,
    cs = before ++ c :: '@' :: after ∧ isLocal c = true ∧ StartsDomain after := by
  constructor
  · rintro ⟨_, ⟨first, rest, d, hlocal, hd⟩, before, after, rfl⟩
    obtain ⟨l, c, hl⟩ :=
      (first :: rest).eq_nil_or_concat.resolve_left (List.cons_ne_nil first rest)
    rw [hl] at hlocal ⊢
    exact ⟨before ++ l, c, d ++ after, by simp, hlocal c (by simp), d, hd,
      List.prefix_append d after⟩
  · rintro ⟨before, c, _, rfl, hc, d, hd, after, rfl⟩
    exact ⟨_, .mk c [] d (by simpa) hd, before, after, by simp⟩

theorem holdsAddress_cons : HoldsAddress (c :: cs) ↔
    (isLocal c = true ∧ ∃ after, cs = '@' :: after ∧ StartsDomain after) ∨ HoldsAddress cs := by
  rw [holdsAddress_iff, holdsAddress_iff]
  constructor
  · rintro ⟨before, c', after, hcs, hc, hd⟩
    cases before with
    | nil =>
      cases hcs
      exact .inl ⟨hc, after, rfl, hd⟩
    | cons b before =>
      cases hcs
      exact .inr ⟨before, c', after, rfl, hc, hd⟩
  · rintro (⟨hc, after, rfl, hd⟩ | ⟨before, c', after, rfl, hc, hd⟩)
    · exact ⟨[], c, after, rfl, hc, hd⟩
    · exact ⟨c :: before, c', after, rfl, hc, hd⟩

theorem holdsAddress_cons_iff :
    HoldsAddress (c :: cs) ↔ StartsAddress (c :: cs) ∨ HoldsAddress cs := by
  simp [HoldsAddress, StartsAddress, List.infix_cons_iff, and_or_left, exists_or]

theorem not_holdsAddress_nil : ¬ HoldsAddress [] := by
  rw [holdsAddress_iff]
  rintro ⟨before, c, after, h, -⟩
  simp at h

theorem holdsAddress_domain (hd : Domain d) : HoldsAddress (d ++ cs) ↔
    (∃ after, cs = '@' :: after ∧ StartsDomain after) ∨ HoldsAddress cs := by
  have hne := hd.ne_nil
  have hlocal := hd.isLocal
  clear hd
  induction d with
  | nil => exact absurd rfl hne
  | cons c d ih =>
    have hc := hlocal c List.mem_cons_self
    rw [List.cons_append, holdsAddress_cons]
    cases d with
    | nil => simp [hc]
    | cons c' d =>
      have hnot : ¬ isLocal '@' = true := by decide
      have hc' : c' ≠ '@' := by
        rintro rfl
        exact hnot (hlocal '@' (by simp))
      have htail := ih (List.cons_ne_nil c' d) fun c hc => hlocal c (List.mem_cons_of_mem _ hc)
      refine (or_congr_right htail).trans ?_
      simp [hc']

end Start

end Folio.Log
