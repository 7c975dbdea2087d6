import Mathlib
import Folio.Text.Blank

namespace Folio.Text

variable {p : Char → Bool}

structure Trimmed (p : Char → Bool) (cs : List Char) : Prop where
  head : ∀ c ∈ cs.head?, p c = false
  last : ∀ c ∈ cs.getLast?, p c = false

theorem dropWhile_eq_self {cs : List Char} (h : ∀ c ∈ cs.head?, p c = false) :
    cs.dropWhile p = cs := by
  cases cs with
  | nil => rfl
  | cons c cs => simp [h c rfl]

theorem head_dropWhile (cs : List Char) : ∀ c ∈ (cs.dropWhile p).head?, p c = false := by
  induction cs with
  | nil => simp
  | cons c cs ih =>
    rw [List.dropWhile_cons]
    split
    · exact ih
    next hc => simpa using hc

theorem span_append {front tail : List Char} (hfront : ∀ c ∈ front, p c = true)
    (htail : ∀ c ∈ tail.head?, p c = false) :
    (front ++ tail).takeWhile p = front ∧ (front ++ tail).dropWhile p = tail := by
  rw [List.takeWhile_append_of_pos hfront, List.dropWhile_append_of_pos hfront]
  cases tail with
  | nil => simp
  | cons c tail => simp [htail c rfl]

theorem exists_trim (p : Char → Bool) (cs : List Char) :
    ∃ front back, (∀ c ∈ front, p c = true) ∧ (∀ c ∈ back, p c = true) ∧
      cs = front ++ (trim p cs ++ back) := by
  refine ⟨cs.takeWhile p, ((cs.dropWhile p).reverse.takeWhile p).reverse, ?_, ?_, ?_⟩
  · exact fun c hc => List.all_eq_true.1 List.all_takeWhile c hc
  · exact fun c hc => List.all_eq_true.1 List.all_takeWhile c (List.mem_reverse.1 hc)
  · rw [trim, ← List.reverse_append, List.takeWhile_append_dropWhile, List.reverse_reverse,
      List.takeWhile_append_dropWhile]

theorem trimmed_trim (p : Char → Bool) (cs : List Char) : Trimmed p (trim p cs) := by
  constructor
  · intro c hc
    apply head_dropWhile cs c
    have hfront : (trim p cs) <+: cs.dropWhile p := by
      rw [trim, ← List.reverse_suffix, List.reverse_reverse]
      exact List.dropWhile_suffix p
    obtain ⟨back, hback⟩ := hfront
    rw [← hback]
    cases htrim : trim p cs with
    | nil => simp [htrim] at hc
    | cons d ds => simpa [htrim] using hc
  · intro c hc
    rw [trim, List.getLast?_reverse] at hc
    exact head_dropWhile _ c hc

theorem trim_between {front cs back : List Char} (hfront : ∀ c ∈ front, p c = true)
    (hcs : Trimmed p cs) (hback : ∀ c ∈ back, p c = true) :
    trim p (front ++ (cs ++ back)) = cs := by
  have hdrop : (back.reverse ++ cs.reverse).dropWhile p = cs.reverse := by
    rw [List.dropWhile_append_of_pos fun c hc => hback c (List.mem_reverse.1 hc)]
    apply dropWhile_eq_self
    rw [List.head?_reverse]
    exact hcs.last
  rw [trim, List.dropWhile_append_of_pos hfront]
  cases cs with
  | nil =>
    rw [List.nil_append, ← List.append_nil back, List.dropWhile_append_of_pos hback]
    rfl
  | cons c cs =>
    have hhead : (c :: cs ++ back).dropWhile p = c :: cs ++ back :=
      dropWhile_eq_self fun d hd => hcs.head d hd
    rw [hhead, List.reverse_append, hdrop, List.reverse_reverse]

theorem Trimmed.append {as mid bs : List Char} (ha : Trimmed p as) (hb : Trimmed p bs)
    (hane : as ≠ []) (hbne : bs ≠ []) : Trimmed p (as ++ (mid ++ bs)) := by
  constructor
  · rw [List.head?_append_of_ne_nil _ hane]
    exact ha.head
  · rw [← List.append_assoc, List.getLast?_append_of_ne_nil _ hbne]
    exact hb.last

theorem trim_prefix_append {cs : List Char} (h : trim p cs ≠ []) (ds : List Char) :
    trim p cs <+: trim p (cs ++ ds) := by
  obtain ⟨front, back, hfront, hback, hcs⟩ := exists_trim p cs
  obtain ⟨gap, rest, hgap, hrest, hds⟩ := exists_trim p (back ++ ds)
  have hkept := trimmed_trim p cs
  have hmore := trimmed_trim p (back ++ ds)
  generalize trim p cs = kept at h hcs hkept ⊢
  generalize trim p (back ++ ds) = more at hds hmore
  have hall : cs ++ ds = front ++ (kept ++ (gap ++ (more ++ rest))) := by
    rw [← hds, hcs]
    simp only [List.append_assoc]
  -- the gap behind what was kept is inside the whole only when more is kept behind it
  by_cases hnone : more = []
  · have hblank : ∀ c ∈ gap ++ rest, p c = true :=
      fun c hc => (List.mem_append.1 hc).elim (hgap c) (hrest c)
    rw [hall, hnone, List.nil_append, trim_between hfront hkept hblank]
  · have hsplit : kept ++ (gap ++ (more ++ rest)) = (kept ++ (gap ++ more)) ++ rest := by
      simp only [List.append_assoc]
    rw [hall, hsplit, trim_between hfront (hkept.append hmore h hnone) hrest]
    exact List.prefix_append kept _

theorem strip_prefix_append {s : String} (h : strip s ≠ "") (t : String) :
    (strip s).toList <+: (strip (s ++ t)).toList := by
  have hne : trim isBlank s.toList ≠ [] := fun he => h (by rw [strip, he])
  simp only [strip, String.toList_ofList, String.toList_append]
  exact trim_prefix_append hne t.toList

theorem trim_eq_self {cs : List Char} (h : Trimmed p cs) : trim p cs = cs := by
  have hnone : ∀ c ∈ ([] : List Char), p c = true := by simp
  simpa using trim_between hnone h hnone

@[simp] theorem strip_strip (s : String) : strip (strip s) = strip s := by
  simp only [strip, String.toList_ofList]
  rw [trim_eq_self (trimmed_trim isBlank s.toList)]

end Folio.Text
