import Mathlib
import Folio.Command.EditDistance

namespace Folio.Command

inductive Edit : List Char → List Char → Prop
  | insert (before : List Char) (c : Char) (after : List Char) :
      Edit (before ++ after) (before ++ c :: after)
  | delete (before : List Char) (c : Char) (after : List Char) :
      Edit (before ++ c :: after) (before ++ after)
  | replace (before : List Char) (c d : Char) (after : List Char) :
      Edit (before ++ c :: after) (before ++ d :: after)

inductive Edits : Nat → List Char → List Char → Prop
  | none (a : List Char) : Edits 0 a a
  | one {n : Nat} {a b c : List Char} : Edit a b → Edits n b c → Edits (n + 1) a c

namespace Edits

variable {n : Nat} {a b : List Char}

theorem cons (x : Char) (h : Edits n a b) : Edits n (x :: a) (x :: b) := by
  induction h with
  | none a => exact .none (x :: a)
  | one edit _ ih =>
    cases edit with
    | insert before c after => exact .one (.insert (x :: before) c after) ih
    | delete before c after => exact .one (.delete (x :: before) c after) ih
    | replace before c d after => exact .one (.replace (x :: before) c d after) ih

theorem all_inserted (b : List Char) : Edits b.length [] b := by
  induction b with
  | nil => exact .none []
  | cons y b ih => exact .one (.insert [] y []) (ih.cons y)

theorem all_deleted (a : List Char) : Edits a.length a [] := by
  induction a with
  | nil => exact .none []
  | cons x a ih => exact .one (.delete [] x a) ih

theorem reverse (h : Edits n a b) : Edits n a.reverse b.reverse := by
  induction h with
  | none a => exact .none a.reverse
  | one edit _ ih =>
    refine .one ?_ ih
    cases edit with
    | insert before c after => simpa using Edit.insert after.reverse c before.reverse
    | delete before c after => simpa using Edit.delete after.reverse c before.reverse
    | replace before c d after => simpa using Edit.replace after.reverse c d before.reverse

theorem of_reverse (h : Edits n a.reverse b.reverse) : Edits n a b := by
  simpa using h.reverse

end Edits

def distance : List Char → List Char → Nat
  | [], b => b.length
  | a, [] => a.length
  | x :: a, y :: b =>
    min (min (distance a (y :: b) + 1) (distance (x :: a) b + 1))
      (distance a b + if x = y then 0 else 1)
termination_by a b => a.length + b.length

section Distance

variable (x y : Char) (a b : List Char)

@[simp] theorem distance_nil : distance [] b = b.length := by
  rw [distance]

@[simp] theorem distance_nil_right : distance a [] = a.length := by
  cases a <;> simp [distance]

theorem distance_cons : distance (x :: a) (y :: b) =
    min (min (distance a (y :: b) + 1) (distance (x :: a) b + 1))
      (distance a b + if x = y then 0 else 1) := by
  rw [distance]

theorem distance_delete : distance (x :: a) b ≤ distance a b + 1 := by
  cases b with
  | nil => simp
  | cons y b =>
    rw [distance_cons]
    exact (min_le_left _ _).trans (min_le_left _ _)

theorem distance_insert : distance a (y :: b) ≤ distance a b + 1 := by
  cases a with
  | nil => simp
  | cons x a =>
    rw [distance_cons]
    exact (min_le_left _ _).trans (min_le_right _ _)

theorem distance_keep_or_replace :
    distance (x :: a) (y :: b) ≤ distance a b + if x = y then 0 else 1 := by
  rw [distance_cons]
  exact min_le_right _ _

theorem distance_replace : distance (x :: a) (y :: b) ≤ distance a b + 1 := by
  refine (distance_keep_or_replace x y a b).trans (Nat.add_le_add_left ?_ _)
  split <;> omega

theorem distance_self : distance a a = 0 := by
  induction a with
  | nil => simp
  | cons x a ih => simpa [ih] using distance_keep_or_replace x x a a

theorem edits_distance : Edits (distance a b) a b := by
  fun_induction distance a b with
  | case1 b => exact .all_inserted b
  | case2 a => exact .all_deleted a
  | case3 x a y b hdelete hinsert hreplace =>
    rcases min_choice (min (distance a (y :: b) + 1) (distance (x :: a) b + 1))
      (distance a b + if x = y then 0 else 1) with h | h
    · rw [h]
      rcases min_choice (distance a (y :: b) + 1) (distance (x :: a) b + 1) with h | h
      · rw [h]
        exact .one (.delete [] x a) hdelete
      · rw [h]
        exact .one (.insert [] y (x :: a)) (hinsert.cons y)
    · rw [h]
      by_cases hxy : x = y
      · rw [if_pos hxy, ← hxy]
        exact hreplace.cons x
      · rw [if_neg hxy]
        exact .one (.replace [] x y a) (hreplace.cons y)

end Distance

/-- Two texts whose distances to any third one differ by one edit at most. -/
def Near (a a' : List Char) : Prop :=
  ∀ b, distance a b ≤ distance a' b + 1

namespace Near

theorem cons (x : Char) {a a' : List Char} (h : Near a a') : Near (x :: a) (x :: a') := by
  intro b
  induction b with
  | nil => simpa using h []
  | cons y b ih =>
    have hdelete := distance_delete x a (y :: b)
    have hinsert := distance_insert y (x :: a) b
    have hreplace := distance_keep_or_replace x y a b
    have hcons := h (y :: b)
    have htail := h b
    rw [distance_cons x y a' b]
    omega

theorem delete (x : Char) (a : List Char) : Near (x :: a) a :=
  distance_delete x a

theorem insert (x : Char) (a : List Char) : Near a (x :: a) := by
  intro b
  induction b with
  | nil => simp; omega
  | cons y b ih =>
    have hinsert := distance_insert y a b
    rw [distance_cons x y a b]
    omega

theorem replace (x y : Char) (a : List Char) : Near (x :: a) (y :: a) := by
  intro b
  induction b with
  | nil => simp
  | cons z b ih =>
    have hdelete := distance_delete x a (z :: b)
    have hinsert := distance_insert z (x :: a) b
    have hreplace := distance_replace x z a b
    rw [distance_cons y z a b]
    omega

theorem append (before : List Char) {a a' : List Char} (h : Near a a') :
    Near (before ++ a) (before ++ a') := by
  induction before with
  | nil => exact h
  | cons x before ih => exact ih.cons x

theorem of_edit {a a' : List Char} (h : Edit a a') : Near a a' := by
  cases h with
  | insert before c after => exact (insert c after).append before
  | delete before c after => exact (delete c after).append before
  | replace before c d after => exact (replace c d after).append before

end Near

theorem distance_le_of_edits {n : Nat} {a b : List Char} (h : Edits n a b) :
    distance a b ≤ n := by
  induction h with
  | none a => exact (distance_self a).le
  | one edit _ ih => exact (Near.of_edit edit _).trans (Nat.add_le_add_right ih 1)

def entries (p q : List Char) : List Char → List Nat
  | [] => []
  | d :: ds => distance p (d :: q) :: entries p (d :: q) ds

def row (p second : List Char) : List Nat :=
  distance p [] :: entries p [] second

theorem nextEntries_entries (c : Char) (p q ds : List Char) :
    nextEntries c (distance (c :: p) q) (distance p q) ds (entries p q ds) =
      entries (c :: p) q ds := by
  induction ds generalizing q with
  | nil => rfl
  | cons d ds ih =>
    rw [entries, entries, nextEntries, ← distance_cons c d p q, ih]

theorem nextRow_row (c : Char) (p second : List Char) :
    nextRow c second (row p second) = row (c :: p) second := by
  have hfirst : distance (c :: p) [] = distance p [] + 1 := by simp
  rw [row, row, nextRow, ← hfirst, nextEntries_entries]

theorem range'_entries (q ds : List Char) :
    List.range' (q.length + 1) ds.length = entries [] q ds := by
  induction ds generalizing q with
  | nil => rfl
  | cons d ds ih => simp [entries, List.range'_succ, ← ih]

theorem range_row (second : List Char) : List.range (second.length + 1) = row [] second := by
  rw [List.range_eq_range', List.range'_succ, row, ← range'_entries]
  simp

theorem lastRow_eq (first second : List Char) :
    lastRow first second = row first.reverse second := by
  induction first using List.reverseRecOn with
  | nil => exact range_row second
  | append_singleton first c ih =>
    rw [lastRow, List.foldl_append, ← lastRow, ih]
    simp [nextRow_row]

theorem getLastD_entries (p q ds : List Char) (n : Nat) :
    (distance p q :: entries p q ds).getLastD n = distance p (ds.reverse ++ q) := by
  induction ds generalizing q n with
  | nil => rfl
  | cons d ds ih =>
    rw [entries, List.getLastD_cons, ih, List.reverse_cons, List.append_assoc]
    rfl

theorem editDistance_eq (first second : String) : editDistance first second =
    distance first.toList.reverse second.toList.reverse := by
  rw [editDistance, lastRow_eq, row, getLastD_entries, List.append_nil]

/-- Some sequence of as many edits as the distance turns the first text into the second, and no
shorter one does. -/
theorem editDistance_isLeast (first second : String) :
    IsLeast {n | Edits n first.toList second.toList} (editDistance first second) := by
  rw [editDistance_eq]
  constructor
  · exact (edits_distance first.toList.reverse second.toList.reverse).of_reverse
  · intro n h
    exact distance_le_of_edits h.reverse

end Folio.Command
