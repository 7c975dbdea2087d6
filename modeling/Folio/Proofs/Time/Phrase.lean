import Folio.Proofs.Text.Blank
import Folio.Proofs.Text.Line
import Folio.Time.Duration
import Mathlib

namespace Folio.Time

open Folio.Text

structure Phrase where
  count : Int
  noun : String
  deriving DecidableEq, Repr

def named (n : Int) (unit : String) : Phrase :=
  ⟨n, if n = 1 then unit else unit ++ "s"⟩

def phrasesOf (years months : Int) : List Phrase :=
  (if years = 0 then [] else [named years "year"]) ++
    if months = 0 ∧ years ≠ 0 then [] else [named months "month"]

def listedParts (text : String) : List String :=
  (Path.splitOn ',' (' ' :: text.toList)).map fun cs => String.ofList (cs.drop 1)

namespace Phrase

def text (p : Phrase) : String :=
  toString p.count ++ " " ++ p.noun

def read? (s : String) : Option Phrase :=
  (String.ofList (s.toList.takeWhile (· != ' '))).toInt?.map fun n =>
    ⟨n, String.ofList ((s.toList.dropWhile (· != ' ')).drop 1)⟩

def months? (p : Phrase) : Option Int :=
  if p.noun = "month" ∨ p.noun = "months" then some p.count
  else if p.noun = "year" ∨ p.noun = "years" then some (12 * p.count)
  else none

end Phrase

def readPhrases? (text : String) : Option (List Phrase) :=
  (listedParts text).mapM Phrase.read?

def readMonths? (text : String) : Option Int :=
  (readPhrases? text).bind fun phrases => (phrases.mapM Phrase.months?).map List.sum

theorem counted_eq (n : Int) (unit : String) : counted n unit = (named n unit).text := by
  have hnoun : unit ++ (if n = 1 then "" else "s") = if n = 1 then unit else unit ++ "s" := by
    split
    · exact String.append_empty
    · rfl
  calc
    counted n unit = toString n ++ " " ++ (unit ++ if n = 1 then "" else "s") :=
      String.append_assoc
    _ = (named n unit).text := congrArg (toString n ++ " " ++ ·) hnoun

theorem monthsText_eq_listed (total : Int) :
    monthsText total = listed ((phrasesOf (total / 12) (total % 12)).map Phrase.text) := by
  simp only [monthsText, counted_eq, phrasesOf]
  split
  next hyears => simp [hyears, listed, joined]
  next hyears =>
    split
    next hmonths => simp [hyears, hmonths, listed, joined]
    next hmonths => simp [hyears, hmonths, listed, joined]

section Reading

theorem notMem_toString {c : Char} (hminus : c ≠ '-') (hdigit : c.isDigit = false) (n : Int) :
    c ∉ (toString n).toList := by
  have hrepr (k : Nat) : c ∉ k.repr.toList := fun hmem =>
    Bool.false_ne_true (hdigit.symm.trans (isDigit_of_mem_toString hmem))
  rw [Int.toString_eq_repr, Int.repr_eq_if]
  split
  · exact hrepr _
  · rw [String.toList_append, List.mem_append, not_or]
    exact ⟨fun hmem => hminus (List.mem_singleton.1 hmem), hrepr _⟩

theorem listedParts_listed {ss : List String} (hne : ss ≠ []) (h : ∀ s ∈ ss, ',' ∉ s.toList) :
    listedParts (listed ss) = ss := by
  have hsplit := splitOn_joined (by rfl : ", ".toList = [',', ' ']) (by decide) hne h
  rw [listedParts, listed, ← List.singleton_append, hsplit, List.map_map]
  simp [Function.comp_def]

namespace Phrase

theorem toList_text (p : Phrase) :
    p.text.toList = (toString p.count).toList ++ ' ' :: p.noun.toList := by
  simp [text]

theorem read?_text (p : Phrase) : read? p.text = some p := by
  have hcount : ∀ c ∈ (toString p.count).toList, (c != ' ') = true := by
    intro c hc
    rw [bne_iff_ne]
    rintro rfl
    exact notMem_toString (by decide) (by decide) p.count hc
  have hblank : ∀ c ∈ (' ' :: p.noun.toList).head?, (c != ' ') = false := by simp
  obtain ⟨htake, hdrop⟩ := span_append hcount hblank
  rw [read?, toList_text, htake, hdrop, String.ofList_toList, Int.toString_eq_repr,
    Int.toInt?_repr]
  simp

theorem mapM_read?_text (phrases : List Phrase) : (phrases.map text).mapM read? = some phrases := by
  induction phrases with
  | nil => rfl
  | cons p phrases ih => simp [read?_text, ih]

theorem comma_notMem_text {p : Phrase} (h : ',' ∉ p.noun.toList) : ',' ∉ p.text.toList := by
  rw [toList_text, List.mem_append, List.mem_cons]
  rintro (hcount | hblank | hnoun)
  · exact notMem_toString (by decide) (by decide) p.count hcount
  · cases hblank
  · exact h hnoun

end Phrase

theorem notMem_counted {c : Char} {unit : String} (hminus : c ≠ '-') (hdigit : c.isDigit = false)
    (hblank : c ≠ ' ') (hunit : c ∉ (unit ++ "s").toList) (n : Int) :
    c ∉ (counted n unit).toList := by
  have hnoun : c ∉ (named n unit).noun.toList := by
    unfold named
    dsimp only
    split
    · exact fun hmem => hunit (by simp [hmem])
    · exact hunit
  rw [counted_eq, Phrase.toList_text, List.mem_append, List.mem_cons]
  rintro (hcount | rfl | hword)
  · exact notMem_toString hminus hdigit n hcount
  · exact hblank rfl
  · exact hnoun hword

theorem notMem_monthsText {c : Char} (hminus : c ≠ '-') (hdigit : c.isDigit = false)
    (hwords : c ∉ ", years months".toList) (total : Int) : c ∉ (monthsText total).toList := by
  have hblank : c ≠ ' ' := fun h => hwords (by simp [h])
  have hyears : c ∉ (counted (total / 12) "year").toList :=
    notMem_counted hminus hdigit hblank (fun hmem => hwords (by simp_all)) _
  have hmonths : c ∉ (counted (total % 12) "month").toList :=
    notMem_counted hminus hdigit hblank (fun hmem => hwords (by simp_all)) _
  rw [monthsText]
  split
  · exact hmonths
  · split
    · exact hyears
    · simp only [String.toList_append, List.mem_append, not_or]
      exact ⟨⟨hyears, fun hmem => hwords (by simp_all)⟩, hmonths⟩

theorem readPhrases?_listed {phrases : List Phrase} (hne : phrases ≠ [])
    (h : ∀ p ∈ phrases, ',' ∉ p.noun.toList) :
    readPhrases? (listed (phrases.map Phrase.text)) = some phrases := by
  have hparts : listedParts (listed (phrases.map Phrase.text)) = phrases.map Phrase.text := by
    refine listedParts_listed (by simpa using hne) (List.forall_mem_map.2 fun p hp => ?_)
    exact Phrase.comma_notMem_text (h p hp)
  rw [readPhrases?, hparts, Phrase.mapM_read?_text]

end Reading

section Parts

variable {years months : Int} {p : Phrase}

theorem months?_month (n : Int) : (named n "month").months? = some n := by
  unfold named Phrase.months?
  split <;> simp

theorem months?_year (n : Int) : (named n "year").months? = some (12 * n) := by
  unfold named Phrase.months?
  split <;> simp

theorem months_phrasesOf (years months : Int) :
    ((phrasesOf years months).mapM Phrase.months?).map List.sum = some (12 * years + months) := by
  unfold phrasesOf
  by_cases hyears : years = 0
  · simp [hyears, months?_month]
  · by_cases hmonths : months = 0
    · simp [hyears, hmonths, months?_year]
    · simp [hyears, hmonths, months?_month, months?_year]

theorem phrasesOf_ne_nil : phrasesOf years months ≠ [] := by
  unfold phrasesOf
  by_cases hyears : years = 0 <;> simp [hyears]

theorem mem_phrasesOf (h : p ∈ phrasesOf years months) :
    p = named years "year" ∨ p = named months "month" := by
  obtain hyear | hmonth := List.mem_append.1 h
  · split at hyear
    · cases hyear
    · exact .inl (List.mem_singleton.1 hyear)
  · split at hmonth
    · cases hmonth
    · exact .inr (List.mem_singleton.1 hmonth)

theorem comma_notMem_phrasesOf (h : p ∈ phrasesOf years months) : ',' ∉ p.noun.toList := by
  obtain rfl | rfl := mem_phrasesOf h
  all_goals
    unfold named
    dsimp only
    split <;> decide

theorem singular_iff (h : p ∈ phrasesOf years months) :
    p.noun = "year" ∨ p.noun = "month" ↔ p.count = 1 := by
  obtain rfl | rfl := mem_phrasesOf h
  all_goals
    unfold named
    dsimp only
    split
    next hone => simp [hone]
    next hmany => simp [hmany]

end Parts

theorem readPhrases?_monthsText (total : Int) :
    readPhrases? (monthsText total) = some (phrasesOf (total / 12) (total % 12)) := by
  rw [monthsText_eq_listed]
  exact readPhrases?_listed phrasesOf_ne_nil fun p hp => comma_notMem_phrasesOf hp

theorem readMonths?_monthsText (total : Int) : readMonths? (monthsText total) = some total := by
  have hsum := months_phrasesOf (total / 12) (total % 12)
  rw [Int.mul_ediv_add_emod] at hsum
  rw [readMonths?, readPhrases?_monthsText, Option.bind_some, hsum]

/-- The text of a count of months says how many years and months it is, with a singular just for a
count of one, and the count is read back from it, so that no two counts have one text. -/
theorem monthsText_unambiguous :
    (∀ total, readMonths? (monthsText total) = some total) ∧
    Function.Injective monthsText ∧
    ∀ total, ∃ years months : Int, total = 12 * years + months ∧ 0 ≤ months ∧ months < 12 ∧
      monthsText total = listed ((phrasesOf years months).map Phrase.text) ∧
      readPhrases? (monthsText total) = some (phrasesOf years months) ∧
      ∀ p ∈ phrasesOf years months, p.noun = "year" ∨ p.noun = "month" ↔ p.count = 1 := by
  refine ⟨readMonths?_monthsText, ?_, ?_⟩
  · intro total other h
    have hread := congrArg readMonths? h
    rw [readMonths?_monthsText, readMonths?_monthsText] at hread
    exact Option.some.inj hread
  · intro total
    exact ⟨total / 12, total % 12, (Int.mul_ediv_add_emod total 12).symm,
      Int.emod_nonneg total (by decide), Int.emod_lt_of_pos total (by decide),
      monthsText_eq_listed total, readPhrases?_monthsText total, fun p hp => singular_iff hp⟩

theorem monthsText_unambiguous_before : monthsText (-11) = "-1 years, 1 month" ∧
    readMonths? "-1 years, 1 month" = some (-11) ∧ named (-1) "year" ∈ phrasesOf (-1) 1 ∧
    ¬ ((named (-1) "year").noun = "year" ∨ (named (-1) "year").noun = "month") := by
  obtain ⟨hread, -, hsaid⟩ := monthsText_unambiguous
  obtain ⟨years, months, htotal, hlow, hhigh, htext, -, hsingular⟩ := hsaid (-11)
  obtain rfl : years = -1 := by omega
  obtain rfl : months = 1 := by omega
  have hmem : named (-1) "year" ∈ phrasesOf (-1) 1 := by decide
  have hshown : monthsText (-11) = "-1 years, 1 month" := htext.trans (by decide)
  exact ⟨hshown, hshown ▸ hread (-11), hmem, fun h => absurd ((hsingular _ hmem).1 h) (by decide)⟩

end Folio.Time
