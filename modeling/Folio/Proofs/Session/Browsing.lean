import Folio.Proofs.Session
/-!
Browsing the history of a session: the place shown is that of a cursor among the entries, which
never leaves them, whatever happens in between.
-/

namespace Folio

open Folio.Command Folio.Portfolio Folio.Terminal Folio.Text Folio.Time

/-- A place among entries. Past the last one nothing is shown. -/
structure Cursor where
  entries : List String
  place : Nat
  inside : place ≤ entries.length

namespace Cursor

def empty : Cursor :=
  ⟨[], 0, Nat.le_refl 0⟩

def enter (c : Cursor) (line : String) : Cursor :=
  ⟨c.entries ++ [line], (c.entries ++ [line]).length, Nat.le_refl _⟩

def shown? (c : Cursor) : Option Nat :=
  if c.place < c.entries.length then some c.place else none

def up (c : Cursor) : Option String × Cursor :=
  if h : c.entries.length = 0 then (none, c)
  else
    have before : c.place - 1 < c.entries.length := by have := c.inside; omega
    (some c.entries[c.place - 1], ⟨c.entries, c.place - 1, Nat.le_of_lt before⟩)

def down (c : Cursor) : Option String × Cursor :=
  if h : c.place = c.entries.length then (none, c)
  else
    (some (if h : c.place + 1 < c.entries.length then c.entries[c.place + 1] else ""),
      ⟨c.entries, c.place + 1, by have := c.inside; omega⟩)

def move (c : Cursor) : Direction → Option String × Cursor
  | .up => c.up
  | .down => c.down

def step (c : Cursor) : Session.Op → Cursor
  | .navigate d => (c.move d).2
  | op => match op.entry? with
    | some line => c.enter line
    | none => c

def run (c : Cursor) (ops : List Session.Op) : Cursor :=
  ops.foldl step c

end Cursor

namespace Session

structure At (s : Session) (c : Cursor) : Prop where
  history : s.history = c.entries
  browsing : s.browsing = c.shown?

def fresh (service : Service) (data : Option Snapshot) (theme : Theme) (now : Moment) : Session :=
  { service, data, theme, now }

theorem at_fresh (service : Service) (data : Option Snapshot) (theme : Theme) (now : Moment) :
    (fresh service data theme now).At .empty :=
  ⟨rfl, rfl⟩

theorem submit_entered (s : Session) {line : String} (h : (strip line).isEmpty = false) :
    (s.submit line).2.history = s.history ++ [strip line] ∧
      (s.submit line).2.browsing = none := by
  have hline : ¬ (strip line).isEmpty = true := by simp [h]
  simp only [submit, if_neg hline]
  split
  case h_1 r _ =>
    obtain ⟨log, hr⟩ := (s.entered (strip line)).exists_answered r
    rw [hr]
    exact ⟨rfl, rfl⟩
  case h_2 => exact ⟨rfl, rfl⟩

namespace At

variable {s : Session} {c : Cursor}

theorem enter (h : s.At c) {line : String} {t : Session}
    (hhistory : t.history = s.history ++ [line]) (hbrowsing : t.browsing = none) :
    t.At (c.enter line) := by
  refine ⟨?_, ?_⟩
  · rw [hhistory, h.history]
    rfl
  · rw [hbrowsing]
    simp [Cursor.shown?, Cursor.enter]

theorem up (h : s.At c) :
    (s.navigate .up).1 = c.up.1 ∧ (s.navigate .up).2.At c.up.2 := by
  have hinside := c.inside
  by_cases hn : c.entries.length = 0
  · simp only [Session.navigate, h.history, Cursor.up, hn]
    exact ⟨rfl, h⟩
  · have hbefore : c.place - 1 < c.entries.length := by omega
    have hentry : c.entries[c.place - 1]? = some c.entries[c.place - 1] :=
      List.getElem?_eq_getElem hbefore
    have hshown : (⟨c.entries, c.place - 1, Nat.le_of_lt hbefore⟩ : Cursor).shown? =
        some (c.place - 1) := if_pos hbefore
    by_cases hplace : c.place < c.entries.length
    · have hat : s.browsing = some c.place := h.browsing.trans (if_pos hplace)
      simp only [Session.navigate, h.history, hat, Cursor.up, hn]
      exact ⟨hentry, rfl, hshown.symm⟩
    · have hat : s.browsing = none := h.browsing.trans (if_neg hplace)
      have hlast : c.place = c.entries.length := by omega
      have hfirst : ¬ c.place = 0 := by omega
      simp only [Session.navigate, h.history, hat, Cursor.up, ← hlast, hfirst]
      exact ⟨hentry, rfl, hshown.symm⟩

theorem down (h : s.At c) :
    (s.navigate .down).1 = c.down.1 ∧ (s.navigate .down).2.At c.down.2 := by
  have hinside := c.inside
  by_cases hplace : c.place < c.entries.length
  · have hat : s.browsing = some c.place := h.browsing.trans (if_pos hplace)
    have hn : ¬ c.entries.length = 0 := by omega
    have hmiddle : ¬ c.place = c.entries.length := by omega
    by_cases hafter : c.place + 1 < c.entries.length
    · simp only [Session.navigate, h.history, hat, Cursor.down, hn, hmiddle, hafter]
      exact ⟨List.getElem?_eq_getElem hafter, rfl, (if_pos hafter).symm⟩
    · simp only [Session.navigate, h.history, hat, Cursor.down, hn, hmiddle, hafter]
      exact ⟨rfl, rfl, (if_neg hafter).symm⟩
  · have hat : s.browsing = none := h.browsing.trans (if_neg hplace)
    have hlast : c.place = c.entries.length := by omega
    simp only [Session.navigate, h.history, hat, Cursor.down, hlast]
    split
    · exact ⟨rfl, h⟩
    · exact ⟨rfl, h⟩

theorem navigate (h : s.At c) (d : Direction) :
    (s.navigate d).1 = (c.move d).1 ∧ (s.navigate d).2.At (c.move d).2 := by
  cases d with
  | up => exact h.up
  | down => exact h.down

theorem step (h : s.At c) (op : Op) : (s.step op).At (c.step op) := by
  cases op with
  | submit line =>
    cases hline : (strip line).isEmpty with
    | true =>
      rw [Session.step, submit_blank hline]
      simpa [Cursor.step, Op.entry?, hline] using h
    | false =>
      obtain ⟨hhistory, hbrowsing⟩ := s.submit_entered hline
      simpa [Session.step, Cursor.step, Op.entry?, hline] using h.enter hhistory hbrowsing
  | navigate d => exact (h.navigate d).2
  | complete typed => exact h
  | clear => exact ⟨h.history, h.browsing⟩
  | replaceData data => exact ⟨h.history, h.browsing⟩
  | tick now => exact ⟨h.history, h.browsing⟩

theorem run (h : s.At c) (ops : List Op) : (s.run ops).At (c.run ops) := by
  induction ops generalizing s c with
  | nil => exact h
  | cons op ops ih => exact ih (h.step op)

theorem browsing_inside (h : s.At c) : s.browsing.all (· < s.history.length) := by
  rw [h.browsing, h.history, Cursor.shown?]
  split
  · simpa
  · rfl

end At

/-- After any operations on a session over any service, browsing shows what the cursor shows that
went through the same operations, and the place is one of the history. -/
theorem run_at_cursor (service : Service) (data : Option Snapshot) (theme : Theme) (now : Moment)
    (ops : List Op) :
    ((fresh service data theme now).run ops).At (Cursor.empty.run ops) ∧
    ((fresh service data theme now).run ops).browsing.all
      (· < ((fresh service data theme now).run ops).history.length) ∧
    ∀ d, (((fresh service data theme now).run ops).navigate d).1 =
        ((Cursor.empty.run ops).move d).1 ∧
      (((fresh service data theme now).run ops).navigate d).2.At
        ((Cursor.empty.run ops).move d).2 := by
  have h := (at_fresh service data theme now).run ops
  exact ⟨h, h.browsing_inside, h.navigate⟩

end Session

end Folio
