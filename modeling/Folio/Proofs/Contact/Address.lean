import Folio.Contact.Form
import Folio.Proofs.Text.Blank
/-!
Email addresses by their form: one at sign, and behind it a domain with a dot inside. The form lets
pass these, and each of them with a line break behind it.
-/

namespace Folio.Contact

open Folio.Text

def IsPlain (c : Char) : Prop := isBlank c = false ∧ c ≠ '@'

theorem forall_plain {cs : List Char} : (∀ c ∈ cs, IsPlain c) ↔
    (∀ c ∈ cs, isBlank c = false) ∧ '@' ∉ cs := by
  constructor
  · intro h
    exact ⟨fun c hc => (h c hc).1, fun hat => (h '@' hat).2 rfl⟩
  · rintro ⟨hblank, hno⟩ c hc
    exact ⟨hblank c hc, fun hat => hno (hat ▸ hc)⟩

theorem forall_plain_dot {front back : List Char} : (∀ c ∈ front ++ '.' :: back, IsPlain c) ↔
    (∀ c ∈ front, IsPlain c) ∧ ∀ c ∈ back, IsPlain c := by
  have hdot : IsPlain '.' := ⟨by decide, by decide⟩
  simp only [List.forall_mem_append, List.forall_mem_cons, hdot, true_and]

/-- What the pattern of addresses matches: three parts of plain characters, an at sign after the
first and a dot after the second. -/
inductive Matched : List Char → Prop
  | mk {account front back : List Char} (account_ne : account ≠ []) (front_ne : front ≠ [])
      (back_ne : back ≠ []) (account_plain : ∀ c ∈ account, IsPlain c)
      (front_plain : ∀ c ∈ front, IsPlain c) (back_plain : ∀ c ∈ back, IsPlain c) :
      Matched (account ++ '@' :: (front ++ '.' :: back))

def DotInside (domain : List Char) : Prop :=
  ∃ front back, domain = front ++ '.' :: back ∧ front ≠ [] ∧ back ≠ []

structure Address (cs : List Char) : Prop where
  noBlank : ∀ c ∈ cs, isBlank c = false
  oneAt : cs.count '@' = 1
  parts : ∃ account domain, cs = account ++ '@' :: domain ∧ account ≠ [] ∧ DotInside domain

variable {cs account domain : List Char}

theorem hasInnerDot_iff : hasInnerDot domain = true ↔ DotInside domain := by
  cases domain with
  | nil => simp [hasInnerDot, DotInside]
  | cons c cs =>
    rw [hasInnerDot, List.contains_iff_mem]
    constructor
    · intro h
      obtain ⟨front, back, hcs⟩ := List.append_of_mem h
      have hne : cs ≠ [] := by
        rintro rfl
        cases h
      refine ⟨c :: front, back ++ [cs.getLast hne], ?_, List.cons_ne_nil _ _, by simp⟩
      calc c :: cs
        _ = c :: (cs.dropLast ++ [cs.getLast hne]) := by rw [List.dropLast_append_getLast]
        _ = c :: front ++ '.' :: (back ++ [cs.getLast hne]) := by rw [hcs]; simp
    · rintro ⟨front, back, hcs, hfront, hback⟩
      obtain ⟨f, front, rfl⟩ := List.exists_cons_of_ne_nil hfront
      obtain ⟨back, b, rfl⟩ := back.eq_nil_or_concat.resolve_left hback
      obtain ⟨-, rfl⟩ := List.cons.inj hcs
      have hlast : (front ++ '.' :: back.concat b).dropLast = front ++ '.' :: back := by
        rw [List.concat_eq_append, ← List.cons_append, ← List.append_assoc, List.dropLast_concat]
      exact hlast ▸ List.mem_append_right front List.mem_cons_self

theorem before_at (h : '@' ∉ cs) : ∀ c ∈ cs, (c != '@') = true :=
  fun _ hc => bne_iff_ne.2 fun hat => h (hat ▸ hc)

theorem isPlainAddress_at (h : '@' ∉ account) : isPlainAddress (account ++ '@' :: domain) = true ↔
    account ≠ [] ∧ (∀ c ∈ account, isBlank c = false) ∧ (∀ c ∈ domain, IsPlain c) ∧
      DotInside domain := by
  have hat : ∀ c ∈ ('@' :: domain).head?, (c != '@') = false := by simp
  obtain ⟨htake, hdrop⟩ := span_append (before_at h) hat
  simp only [isPlainAddress, htake, hdrop, Bool.and_eq_true, List.all_eq_true, hasInnerDot_iff,
    IsPlain, Bool.not_eq_true', List.isEmpty_eq_false_iff, bne_iff_ne, and_assoc]

theorem isPlainAddress_no_at (h : '@' ∉ cs) : isPlainAddress cs = false := by
  have hdrop : cs.dropWhile (· != '@') = [] := List.dropWhile_eq_nil_iff.2 (before_at h)
  simp only [isPlainAddress, hdrop]

theorem isPlainAddress_iff_matched : isPlainAddress cs = true ↔ Matched cs := by
  constructor
  · intro h
    have hat : '@' ∈ cs := by
      by_contra hno
      rw [isPlainAddress_no_at hno] at h
      cases h
    obtain ⟨account, domain, rfl, hno⟩ := List.eq_append_cons_of_mem hat
    obtain ⟨hne, hblank, hplain, front, back, rfl, hfront, hback⟩ := (isPlainAddress_at hno).1 h
    obtain ⟨hplain_front, hplain_back⟩ := forall_plain_dot.1 hplain
    exact .mk hne hfront hback (forall_plain.2 ⟨hblank, hno⟩) hplain_front hplain_back
  · rintro ⟨hne, hfront, hback, haccount, hplain_front, hplain_back⟩
    obtain ⟨hblank, hno⟩ := forall_plain.1 haccount
    rw [isPlainAddress_at hno]
    exact ⟨hne, hblank, forall_plain_dot.2 ⟨hplain_front, hplain_back⟩, _, _, rfl, hfront, hback⟩

theorem matched_iff : Matched cs ↔ Address cs := by
  constructor
  · rintro ⟨hne, hfront, hback, haccount, hplain_front, hplain_back⟩
    obtain ⟨hblank, hno⟩ := forall_plain.1 haccount
    obtain ⟨hblank_domain, hno_domain⟩ :=
      forall_plain.1 (forall_plain_dot.2 ⟨hplain_front, hplain_back⟩)
    refine ⟨?_, ?_, _, _, rfl, hne, _, _, rfl, hfront, hback⟩
    · have hat : isBlank '@' = false := by decide
      exact List.forall_mem_append.2 ⟨hblank, List.forall_mem_cons.2 ⟨hat, hblank_domain⟩⟩
    · rw [List.count_append, List.count_cons_self, List.count_eq_zero.2 hno,
        List.count_eq_zero.2 hno_domain]
  · rintro ⟨hblank, hone, account, domain, rfl, hne, front, back, rfl, hfront, hback⟩
    rw [List.count_append, List.count_cons_self] at hone
    have hno : '@' ∉ account := List.count_eq_zero.1 (by omega)
    have hno_domain : '@' ∉ front ++ '.' :: back := List.count_eq_zero.1 (by omega)
    obtain ⟨hblank_account, hblank_rest⟩ := List.forall_mem_append.1 hblank
    have hblank_domain := (List.forall_mem_cons.1 hblank_rest).2
    obtain ⟨hplain_front, hplain_back⟩ :=
      forall_plain_dot.1 (forall_plain.2 ⟨hblank_domain, hno_domain⟩)
    exact .mk hne hfront hback (forall_plain.2 ⟨hblank_account, hno⟩) hplain_front hplain_back

theorem Address.at_mem (h : Address cs) : '@' ∈ cs :=
  List.count_pos_iff.1 (by rw [h.oneAt]; decide)

theorem isAddress_iff (s : String) :
    isAddress s = true ↔ Address s.toList ∨ ∃ cs, s.toList = cs ++ ['\n'] ∧ Address cs := by
  have hplain : ∀ cs, isPlainAddress cs = true ↔ Address cs := fun cs =>
    isPlainAddress_iff_matched.trans matched_iff
  rw [isAddress, hplain]
  split
  next hlast =>
    obtain ⟨cs, hcs⟩ := List.getLast?_eq_some_iff.1 hlast
    have hno : ¬ Address (cs ++ ['\n']) := by
      intro h
      have hblank := h.noBlank '\n' (by simp)
      exact absurd hblank (by decide)
    simp [hcs, hno]
  next hlast =>
    refine (or_iff_left ?_).symm
    rintro ⟨cs, hcs, -⟩
    exact hlast (by rw [hcs]; simp)

theorem not_isBlankText_of_isAddress {s : String} (h : isAddress s = true) :
    isBlankText s = false := by
  have hat : '@' ∈ s.toList := by
    obtain haddress | ⟨cs, hcs, haddress⟩ := (isAddress_iff s).1 h
    · exact haddress.at_mem
    · rw [hcs]
      exact List.mem_append_left _ haddress.at_mem
  rw [isBlankText, List.all_eq_false]
  exact ⟨'@', hat, by decide⟩

theorem emailProblem?_eq_none {d : FormData} :
    d.emailProblem? = none ↔ isAddress d.email = true := by
  rw [FormData.emailProblem?]
  cases haddress : isAddress d.email with
  | true => simp [not_isBlankText_of_isAddress haddress]
  | false => split <;> simp

theorem field_of_emailProblem? {d : FormData} {p : Problem} (h : d.emailProblem? = some p) :
    p.field = .email := by
  rw [FormData.emailProblem?] at h
  split at h
  · cases h
    rfl
  · split at h
    · cases h
    · cases h
      rfl

theorem forall_problems_email {d : FormData} :
    (∀ p ∈ d.problems, p.field ≠ .email) ↔ d.emailProblem? = none := by
  constructor
  · intro h
    cases hp : d.emailProblem? with
    | none => rfl
    | some p =>
      refine absurd (field_of_emailProblem? hp) (h p ?_)
      simp [FormData.problems, hp]
  · intro h p hp
    have hother : p = .noName ∨ p = .noMessage := by
      simp only [FormData.problems, h, Option.toList_none, List.append_nil, List.mem_append] at hp
      rcases hp with hp | hp <;> split at hp <;> simp_all
    rcases hother with rfl | rfl <;> decide

/-- A form has no problem with its email exactly when this is an address, or an address with one
line break behind it. -/
theorem problems_email_iff (d : FormData) : (∀ p ∈ d.problems, p.field ≠ .email) ↔
    Address d.email.toList ∨ ∃ cs, d.email.toList = cs ++ ['\n'] ∧ Address cs := by
  rw [forall_problems_email, emailProblem?_eq_none, isAddress_iff]

theorem problems_email_broken :
    (∀ p ∈ (⟨"Ann", "ann@example.com\n", "Hello"⟩ : FormData).problems, p.field ≠ .email) ∧
      ¬ Address "ann@example.com\n".toList := by
  refine ⟨by decide, fun h => ?_⟩
  exact absurd (h.noBlank '\n' (by decide)) (by decide)

end Folio.Contact
