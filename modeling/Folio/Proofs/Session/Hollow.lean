import Folio.Proofs.Command.Invocation
import Folio.Proofs.Command.Token
import Folio.Proofs.Session.Browsing
/-!
Lines that call nothing. Blank lines do not, and are passed over; but neither does a line of quotes
with nothing between them, which is entered and answered all the same.
-/

namespace Folio.Command

open Folio.Text

/-- What no word is made of: spaces, quotes closed at once, and at the end a quote that is never
closed. -/
inductive Hollow : List Char → Prop
  | nil : Hollow []
  | space {cs : List Char} : Hollow cs → Hollow (' ' :: cs)
  | pair {q : Char} {cs : List Char} : isQuote q = true → Hollow cs → Hollow (q :: q :: cs)
  | unclosed {q : Char} : isQuote q = true → Hollow [q]

section Hollow

variable {q c : Char} {word cs : List Char} {line : String}

@[simp] theorem hollow_space : Hollow (' ' :: cs) ↔ Hollow cs := by
  refine ⟨?_, .space⟩
  rintro (_ | h | ⟨hq, -⟩ | hq)
  · exact h
  · cases hq
  · cases hq

theorem hollow_pair (hq : isQuote q = true) : Hollow (q :: q :: cs) ↔ Hollow cs := by
  refine ⟨?_, .pair hq⟩
  rintro (_ | _ | ⟨-, h⟩ | _)
  · cases hq
  · exact h

theorem not_hollow_quoted (hc : c ≠ q) (hq : isQuote q = true) : ¬ Hollow (q :: c :: cs) := by
  rintro (_ | _ | _ | _)
  · cases hq
  · exact hc rfl

theorem not_hollow_other (hc : isQuote c = false) (hspace : c ≠ ' ') : ¬ Hollow (c :: cs) := by
  rintro (_ | _ | ⟨hq, -⟩ | hq)
  · exact hspace rfl
  · simp [hc] at hq
  · simp [hc] at hq

theorem words_ne_nil (h : word ≠ []) (quote : Option Char) (cs : List Char) :
    words quote word cs ≠ [] := by
  obtain ⟨more, ws, hgrouped⟩ := exists_grouped h (scan quote cs)
  rw [words_eq_grouped, hgrouped]
  exact List.cons_ne_nil _ ws

theorem words_eq_nil_iff : ∀ cs, words none [] cs = [] ↔ Hollow cs
  | [] => iff_of_true rfl .nil
  | c :: cs => by
    by_cases hq : isQuote c = true
    · cases cs with
      | nil => exact iff_of_true (by simp [words, hq, finished]) (.unclosed hq)
      | cons d ds =>
        by_cases hd : d = c
        · subst hd
          rw [hollow_pair hq, ← words_eq_nil_iff ds]
          simp [words, hq, finished]
        · refine iff_of_false ?_ (not_hollow_quoted hd hq)
          simp only [words, hq, if_true, if_neg hd]
          exact words_ne_nil (List.cons_ne_nil d []) _ _
    · rw [Bool.not_eq_true] at hq
      by_cases hspace : c = ' '
      · subst hspace
        rw [words_space, hollow_space, words_eq_nil_iff cs]
      · refine iff_of_false ?_ (not_hollow_other hq hspace)
        simp only [words, hq, if_neg hspace, Bool.false_eq_true, if_false]
        exact words_ne_nil (List.cons_ne_nil c []) _ _

theorem tokenize_eq_nil_iff : tokenize line = [] ↔ Hollow line.toList := by
  rw [tokenize, List.map_eq_nil_iff, words_eq_nil_iff]

theorem Hollow.head_isQuote (h : Hollow cs) (hne : ∀ c ∈ cs.head?, isBlank c = false) :
    ∀ c ∈ cs.head?, isQuote c = true := by
  cases h with
  | nil => simp
  | space h => exact absurd (hne ' ' rfl) (by decide)
  | pair hq h => simpa using hq
  | unclosed hq => simpa using hq

end Hollow

namespace Invocation

theorem isEmpty_ofWords {ws : List String} (h : ∀ w ∈ ws, w ≠ "") :
    (ofWords ws).isEmpty = true ↔ ws = [] := by
  cases ws with
  | nil => exact iff_of_true rfl rfl
  | cons w ws =>
    have hw := h w List.mem_cons_self
    simpa [ofWords, isEmpty] using hw

theorem isEmpty_parse (line : String) :
    (parse line).isEmpty = true ↔ Hollow (strip line).toList := by
  rw [parse, isEmpty_ofWords fun _ => ne_empty_of_mem_tokenize, tokenize_eq_nil_iff]

end Invocation

end Folio.Command

namespace Folio.Session

open Folio.Command Folio.Text

variable {line : String}

theorem submit_eq (s : Session) (h : (strip line).isEmpty = false) :
    (s.submit line).1 = (s.service.registry.execute (Invocation.parse line)
      (s.entered (strip line)).context).map (some ·.output) := by
  have hparse : Invocation.parse (strip line) = Invocation.parse line := by
    rw [Invocation.parse, strip_strip, Invocation.parse]
  have hservice : (s.entered (strip line)).service = s.service := rfl
  simp only [submit, h, Bool.false_eq_true, if_false, hparse, hservice]
  cases s.service.registry.execute (Invocation.parse line) (s.entered (strip line)).context <;> rfl

theorem submit_hollow (s : Session) (h : (strip line).isEmpty = false)
    (hhollow : Hollow (strip line).toList) : (s.submit line).1 = .ok (some noCommand) := by
  have hname : (Invocation.parse line).command = "" := by
    simpa [Invocation.isEmpty] using (Invocation.isEmpty_parse line).2 hhollow
  rw [submit_eq s h, Registry.execute_empty _ hname]
  rfl

/-- A line calls nothing exactly when no word is made of it. It need not be blank: it is a blank
line, or else it starts with a quote. What is not blank is entered in any case, is answered by the
command that it names, and by an empty text when it names none. -/
theorem submit_uncalled (line : String) :
    ((Invocation.parse line).isEmpty = true ↔ Hollow (strip line).toList) ∧
    ((strip line).isEmpty = true → (Invocation.parse line).isEmpty = true) ∧
    ((Invocation.parse line).isEmpty = true → ∀ c ∈ (strip line).toList.head?, isQuote c = true) ∧
    ∀ s : Session, (strip line).isEmpty = false →
      (s.submit line).2.history = s.history ++ [strip line] ∧
      (s.submit line).1 = (s.service.registry.execute (Invocation.parse line)
        (s.entered (strip line)).context).map (some ·.output) ∧
      (Hollow (strip line).toList → (s.submit line).1 = .ok (some noCommand)) := by
  have hhead : ∀ c ∈ (strip line).toList.head?, isBlank c = false := by
    rw [strip, String.toList_ofList]
    exact (trimmed_trim isBlank line.toList).head
  refine ⟨Invocation.isEmpty_parse line, ?_, ?_, ?_⟩
  · intro hblank
    rw [Invocation.isEmpty_parse, String.isEmpty_iff.1 hblank]
    exact .nil
  · intro hempty
    exact ((Invocation.isEmpty_parse line).1 hempty).head_isQuote hhead
  · intro s hline
    exact ⟨(s.submit_entered hline).1, s.submit_eq hline, s.submit_hollow hline⟩

theorem parse_quotes :
    (Invocation.parse "\"\"").isEmpty = true ∧ (strip "\"\"").isEmpty = false := by
  decide

end Folio.Session
