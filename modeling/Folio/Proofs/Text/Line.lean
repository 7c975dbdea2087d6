import Folio.Text.Path
import Mathlib.Data.List.Basic

namespace Folio.Text

namespace Path

theorem splitOn_ne_nil (separator : Char) (cs : List Char) : splitOn separator cs ≠ [] := by
  cases cs with
  | nil => nofun
  | cons c cs =>
    rw [splitOn]
    split
    · nofun
    · split <;> nofun

theorem splitOn_append (separator : Char) (front back : List Char) :
    splitOn separator (front ++ separator :: back) =
      splitOn separator front ++ splitOn separator back := by
  induction front with
  | nil => simp [splitOn]
  | cons c front ih =>
    rw [List.cons_append, splitOn, splitOn]
    split
    · rw [ih]; rfl
    · rw [ih]
      cases hparts : splitOn separator front with
      | nil => exact absurd hparts (splitOn_ne_nil separator front)
      | cons part parts => rfl

theorem splitOn_of_notMem {separator : Char} {cs : List Char} (h : separator ∉ cs) :
    splitOn separator cs = [cs] := by
  induction cs with
  | nil => rfl
  | cons c cs ih =>
    simp only [List.mem_cons, not_or] at h
    rw [splitOn, if_neg (Ne.symm h.1), ih h.2]

end Path

theorem joined_eq_intercalate (separator : String) (ss : List String) :
    joined separator ss = separator.intercalate ss := by
  induction ss with
  | nil => rfl
  | cons s ss ih =>
    cases ss with
    | nil => simp [joined]
    | cons t ss => rw [joined, ih, String.intercalate_cons_cons]; exact List.cons_ne_nil t ss

theorem splitOn_joined {separator : String} {c : Char} {rest : List Char}
    (hseparator : separator.toList = c :: rest) (hrest : c ∉ rest) {ss : List String}
    (hne : ss ≠ []) (h : ∀ s ∈ ss, c ∉ s.toList) :
    Path.splitOn c (rest ++ (joined separator ss).toList) = ss.map fun s => rest ++ s.toList := by
  induction ss with
  | nil => exact absurd rfl hne
  | cons s ss ih =>
    obtain ⟨hs, hss⟩ := List.forall_mem_cons.1 h
    have hfirst : c ∉ rest ++ s.toList := fun hc => (List.mem_append.1 hc).elim hrest hs
    cases ss with
    | nil => exact Path.splitOn_of_notMem hfirst
    | cons t ss =>
      have hnil := List.cons_ne_nil t ss
      have hparts : rest ++ (joined separator (s :: t :: ss)).toList =
          (rest ++ s.toList) ++ c :: (rest ++ (joined separator (t :: ss)).toList) := by
        rw [joined, String.toList_append, String.toList_append, hseparator]
        · simp only [List.append_assoc, List.cons_append]
        · exact hnil
      rw [hparts, Path.splitOn_append, Path.splitOn_of_notMem hfirst, ih hnil hss]
      rfl

theorem lines_append {front back : List String} (hfront : front ≠ []) (hback : back ≠ []) :
    lines (front ++ back) = lines front ++ "\n" ++ lines back := by
  induction front with
  | nil => exact absurd rfl hfront
  | cons s front ih =>
    cases front with
    | nil =>
      obtain ⟨t, back, rfl⟩ := List.exists_cons_of_ne_nil hback
      rfl
    | cons t front =>
      have hrest := ih (List.cons_ne_nil t front)
      simp only [lines, List.cons_append, joined] at hrest ⊢
      rw [hrest]
      simp only [String.append_assoc]

def shownLines (text : String) : List String :=
  (Path.splitOn '\n' text.toList).map String.ofList

theorem shownLines_append (front back : String) :
    shownLines (front ++ "\n" ++ back) = shownLines front ++ shownLines back := by
  have hlist : (front ++ "\n" ++ back).toList = front.toList ++ '\n' :: back.toList := by
    simp
  rw [shownLines, hlist, Path.splitOn_append, List.map_append]
  rfl

theorem shownLines_lines {ss : List String} (hne : ss ≠ []) (h : ∀ s ∈ ss, '\n' ∉ s.toList) :
    shownLines (lines ss) = ss := by
  have hsplit := splitOn_joined (by rfl : "\n".toList = ['\n']) List.not_mem_nil hne h
  rw [List.nil_append] at hsplit
  rw [shownLines, lines, hsplit, List.map_map]
  simp [Function.comp_def]

theorem mem_shownLines_lines {s : String} {ss : List String} (hmem : s ∈ ss)
    (h : '\n' ∉ s.toList) : s ∈ shownLines (lines ss) := by
  obtain ⟨front, rest, rfl⟩ := List.append_of_mem hmem
  have halone : s ∈ shownLines (lines [s]) := by
    rw [shownLines_lines (List.cons_ne_nil s []) (List.forall_mem_singleton.2 h)]
    exact List.mem_singleton_self s
  have htail : s ∈ shownLines (lines (s :: rest)) := by
    cases rest with
    | nil => exact halone
    | cons t rest =>
      have hlines := lines_append (List.cons_ne_nil s []) (List.cons_ne_nil t rest)
      rw [← List.singleton_append, hlines, shownLines_append]
      exact List.mem_append_left _ halone
  cases front with
  | nil => exact htail
  | cons t front =>
    rw [lines_append (List.cons_ne_nil t front) (List.cons_ne_nil s rest), shownLines_append]
    exact List.mem_append_right _ htail

theorem isDigit_of_mem_toString {n : Nat} {c : Char} (h : c ∈ (toString n).toList) :
    c.isDigit = true := by
  rw [Nat.toString_eq_repr, Nat.repr_eq_ofList_toDigits, String.toList_ofList] at h
  exact Nat.isDigit_of_mem_toDigits (by decide) (by decide) h

theorem newline_notMem_toString (n : Nat) : '\n' ∉ (toString n).toList := fun h =>
  absurd (isDigit_of_mem_toString h) (by decide)

theorem newline_notMem_append {a b : String} (ha : '\n' ∉ a.toList) (hb : '\n' ∉ b.toList) :
    '\n' ∉ (a ++ b).toList := by
  rw [String.toList_append, List.mem_append, not_or]
  exact ⟨ha, hb⟩

def lastLabelled? (label text : String) : Option String :=
  ((shownLines text).reverse.find? fun l => label.toList.isPrefixOf l.toList).map fun l =>
    String.ofList (l.toList.drop label.toList.length)

theorem lastLabelled?_lines {label value : String} {front rest : List String} (hfront : front ≠ [])
    (hvalue : ∀ s ∈ (label ++ value) :: rest, '\n' ∉ s.toList)
    (hrest : ∀ s ∈ "" :: rest, label.toList.isPrefixOf s.toList = false) :
    lastLabelled? label (lines (front ++ (label ++ value) :: rest) ++ "\n") = some value := by
  have hshown : shownLines (lines (front ++ (label ++ value) :: rest) ++ "\n") =
      shownLines (lines front) ++ (label ++ value) :: rest ++ [""] := by
    have hnil := List.cons_ne_nil (label ++ value) rest
    rw [lines_append hfront hnil, ← String.append_empty (s := _ ++ "\n"), shownLines_append,
      shownLines_append, shownLines_lines hnil hvalue]
    rfl
  have hlater : ("" :: rest.reverse).find? (fun l => label.toList.isPrefixOf l.toList) = none := by
    rw [List.find?_eq_none]
    intro s hs
    rw [hrest s (by simpa using hs)]
    exact Bool.false_ne_true
  have hlabel : label.toList.isPrefixOf (label ++ value).toList = true := by
    rw [String.toList_append, List.isPrefixOf_iff_prefix]
    exact List.prefix_append _ _
  have hreverse : (shownLines (lines front) ++ (label ++ value) :: rest ++ [""]).reverse =
      "" :: rest.reverse ++ (label ++ value) :: (shownLines (lines front)).reverse := by
    simp
  have hfound : ((label ++ value) :: (shownLines (lines front)).reverse).find?
      (fun l => label.toList.isPrefixOf l.toList) = some (label ++ value) :=
    List.find?_cons_of_pos hlabel
  rw [lastLabelled?, hshown, hreverse, List.find?_append, hlater, Option.none_or, hfound,
    Option.map_some, String.toList_append, List.drop_left, String.ofList_toList]

end Folio.Text
