import Mathlib
import Folio.Log.Template

namespace Folio.Log

open Folio.Number

structure Head where
  name : Option (List Char) := none
  flags : List Char := []
  width : List Char := []
  precision : Option (List Char) := none
  deriving DecidableEq, Repr

structure Place where
  head : Head
  letter : Char
  deriving DecidableEq, Repr

def isFlag (c : Char) : Bool :=
  ['-', '+', ' ', '#', '0'].contains c

def isNotation (c : Char) : Bool :=
  "sracdiuoxXeEfFgG".toList.contains c

def isSize (c : Char) : Bool :=
  ['h', 'l', 'L'].contains c

inductive Stage where
  | flags
  | digits (n : Count)
  | star (n : Count)
  | point
  | size
  deriving DecidableEq, Repr

namespace Head

def add (h : Head) (c : Char) : Count → Head
  | .width => { h with width := h.width ++ [c] }
  | .precision => { h with precision := some (h.precision.getD [] ++ [c]) }

def after? (h : Head) (c : Char) : Count → Option (Stage × Head)
  | .width =>
    if c = '.' then some (.point, { h with precision := some [] })
    else if isSize c then some (.size, h) else none
  | .precision => if isSize c then some (.size, h) else none

def count? (h : Head) (c : Char) (n : Count) : Option (Stage × Head) :=
  if c = '*' then some (.star n, h.add c n)
  else if isDigit c then some (.digits n, h.add c n)
  else h.after? c n

def read? (h : Head) (c : Char) : Stage → Option (Stage × Head)
  | .flags =>
    if isFlag c then some (.flags, { h with flags := h.flags ++ [c] }) else h.count? c .width
  | .digits n => if isDigit c then some (.digits n, h.add c n) else h.after? c n
  | .star n => h.after? c n
  | .point => h.count? c .precision
  | .size => none

end Head

/-- Where the reading of a template stands. -/
inductive Reading where
  | text
  | percent
  | name (depth : Nat) (read : List Char)
  | place (stage : Stage) (head : Head)

namespace Reading

def inPlace? (stage : Stage) (head : Head) (c : Char) : Option (Option Place × Reading) :=
  if isNotation c then some (some ⟨head, c⟩, text)
  else (head.read? c stage).map fun (stage, head) => (none, place stage head)

def step? : Reading → Char → Option (Option Place × Reading)
  | text, c => some (none, if c = '%' then percent else text)
  | percent, c =>
    if c = '%' then some (none, text)
    else if c = '(' then some (none, name 0 [])
    else inPlace? .flags {} c
  | name depth read, c =>
    if c = ')' then
      match depth with
      | 0 => some (none, place .flags { name := some read })
      | d + 1 => some (none, name d (read ++ [c]))
    else some (none, name (if c = '(' then depth + 1 else depth) (read ++ [c]))
  | place stage head, c => inPlace? stage head c

def places? : Reading → List Char → Option (List Place)
  | text, [] => some []
  | _, [] => none
  | r, c :: cs =>
    match r.step? c with
    | some (p?, r) => (places? r cs).map (p?.toList ++ ·)
    | none => none

end Reading

def places? (template : String) : Option (List Place) :=
  Reading.places? .text template.toList

section Characters

variable {c : Char}

theorem isFlag_iff : isFlag c = true ↔ c = '-' ∨ c = '+' ∨ c = ' ' ∨ c = '#' ∨ c = '0' := by
  simp [isFlag]

theorem isNotation_iff : isNotation c = true ↔ c = 's' ∨ c = 'r' ∨ c = 'a' ∨ c = 'c' ∨ c = 'd' ∨
    c = 'i' ∨ c = 'u' ∨ c = 'o' ∨ c = 'x' ∨ c = 'X' ∨ c = 'e' ∨ c = 'E' ∨ c = 'f' ∨ c = 'F' ∨
    c = 'g' ∨ c = 'G' := by
  simp [isNotation]

theorem isNotation_apart (h : isNotation c = true) :
    isFlag c = false ∧ isDigit c = false ∧ isSize c = false ∧ c ≠ '*' ∧ c ≠ '.' := by
  rcases isNotation_iff.1 h with rfl | rfl | rfl | rfl | rfl | rfl | rfl | rfl | rfl | rfl | rfl |
    rfl | rfl | rfl | rfl | rfl <;> decide

theorem isNotation_digit (h : isDigit c = true) : isNotation c = false := by
  by_contra hc
  simp [(isNotation_apart (by simpa using hc)).2.1] at h

theorem skipSize_cons (c : Char) (cs : List Char) :
    skipSize (c :: cs) = if isSize c then cs else c :: cs := by
  unfold skipSize
  split <;> simp_all [isSize]

end Characters

def counted : List Char → List Char
  | '*' :: _ => ['*']
  | cs => cs.takeWhile isDigit

def uncounted : List Char → List Char
  | '*' :: cs => cs
  | cs => cs.dropWhile isDigit

def letterAt? (h : Head) : List Char → Option (Place × List Char)
  | [] => none
  | c :: cs => if isNotation c then some (⟨h, c⟩, cs) else none

def Head.addAll (h : Head) (n : Count) (cs : List Char) : Head :=
  cs.foldl (fun h c => h.add c n) h

def afterCount? (h : Head) (cs : List Char) : Count → Option (Place × List Char)
  | .precision => letterAt? h (skipSize cs)
  | .width =>
    match cs with
    | '.' :: cs =>
      let h : Head := { h with precision := some [] }
      letterAt? (h.addAll .precision (counted cs)) (skipSize (uncounted cs))
    | cs => letterAt? h (skipSize cs)

def countAt? (n : Count) (h : Head) (cs : List Char) : Option (Place × List Char) :=
  afterCount? (h.addAll n (counted cs)) (uncounted cs) n

def goOn (r : Option (Place × List Char)) : Option (List Place) :=
  r.bind fun (p, cs) => (Reading.places? .text cs).map (p :: ·)

namespace Reading

variable {h : Head} {n : Count} {c : Char} {cs : List Char} {σ : Stage}

theorem places?_letter (hc : isNotation c = true) :
    places? (.place σ h) (c :: cs) = goOn (letterAt? h (c :: cs)) := by
  simp [places?, step?, inPlace?, letterAt?, goOn, hc]

theorem places?_read (hc : isNotation c = false) {σ' : Stage} {h' : Head}
    (hread : h.read? c σ = some (σ', h')) :
    places? (.place σ h) (c :: cs) = places? (.place σ' h') cs := by
  simp [places?, step?, inPlace?, hc, hread]

theorem places?_broken (hc : isNotation c = false) (hread : h.read? c σ = none) :
    places? (.place σ h) (c :: cs) = none := by
  simp [places?, step?, inPlace?, hc, hread]

theorem places?_size : places? (.place .size h) cs = goOn (letterAt? h cs) := by
  cases cs with
  | nil => rfl
  | cons c cs =>
    cases hc : isNotation c with
    | true => exact places?_letter hc
    | false => rw [places?_broken hc rfl]; simp [letterAt?, hc, goOn]

theorem places?_sized (hread : h.read? c σ = if isSize c then some (.size, h) else none) :
    places? (.place σ h) (c :: cs) = goOn (letterAt? h (skipSize (c :: cs))) := by
  rw [skipSize_cons]
  cases hc : isNotation c with
  | true =>
    rw [places?_letter hc, (isNotation_apart hc).2.2.1]
    rfl
  | false =>
    cases hsize : isSize c with
    | true =>
      rw [hsize] at hread
      rw [places?_read hc hread, places?_size]
      rfl
    | false =>
      rw [hsize] at hread
      rw [places?_broken hc hread]
      simp [letterAt?, hc, goOn]

def ReadsAfter (n : Count) : Prop :=
  ∀ (σ : Stage) (h : Head) (c : Char) (cs : List Char), h.read? c σ = h.after? c n →
    places? (.place σ h) (c :: cs) = goOn (afterCount? h (c :: cs) n)

theorem ReadsAfter.star (hafter : ReadsAfter n) :
    places? (.place (.star n) h) cs = goOn (afterCount? h cs n) := by
  cases cs with
  | nil => cases n <;> rfl
  | cons c cs => exact hafter (.star n) h c cs rfl

theorem ReadsAfter.digits (hafter : ReadsAfter n) : places? (.place (.digits n) h) cs =
    goOn (afterCount? (h.addAll n (cs.takeWhile isDigit)) (cs.dropWhile isDigit) n) := by
  induction cs generalizing h with
  | nil => cases n <;> rfl
  | cons c cs ih =>
    cases hd : isDigit c with
    | true =>
      have hread : h.read? c (.digits n) = some (.digits n, h.add c n) := by simp [Head.read?, hd]
      rw [places?_read (isNotation_digit hd) hread, ih, List.takeWhile_cons_of_pos hd,
        List.dropWhile_cons_of_pos hd]
      rfl
    | false =>
      have hread : h.read? c (.digits n) = h.after? c n := by simp [Head.read?, hd]
      rw [hafter _ h c cs hread]
      simp [hd, Head.addAll]

theorem ReadsAfter.count (hafter : ReadsAfter n)
    (hcount : ∀ c ∈ cs.head?, h.read? c σ = h.count? c n) :
    places? (.place σ h) cs = goOn (countAt? n h cs) := by
  cases cs with
  | nil => cases n <;> rfl
  | cons c cs =>
    have hread := hcount c rfl
    by_cases hstar : c = '*'
    · subst hstar
      have hread' : h.read? '*' σ = some (.star n, h.add '*' n) := by simp [hread, Head.count?]
      rw [places?_read (by decide) hread', hafter.star]
      rfl
    · have hplain : countAt? n h (c :: cs) = afterCount?
          (h.addAll n ((c :: cs).takeWhile isDigit)) ((c :: cs).dropWhile isDigit) n := by
        unfold countAt? counted uncounted
        split <;> simp_all
      rw [hplain]
      cases hd : isDigit c with
      | true =>
        have hread' : h.read? c σ = some (.digits n, h.add c n) := by
          simp [hread, Head.count?, hstar, hd]
        rw [places?_read (isNotation_digit hd) hread', hafter.digits,
          List.takeWhile_cons_of_pos hd, List.dropWhile_cons_of_pos hd]
        rfl
      | false =>
        have hread' : h.read? c σ = h.after? c n := by simp [hread, Head.count?, hstar, hd]
        rw [hafter _ h c cs hread']
        simp [hd, Head.addAll]

theorem readsAfter_precision : ReadsAfter .precision :=
  fun _ _ _ _ hread => places?_sized hread

theorem readsAfter_width : ReadsAfter .width := by
  intro σ h c cs hread
  by_cases hdot : c = '.'
  · subst hdot
    have hread' : h.read? '.' σ = some (.point, { h with precision := some [] }) := by
      simp [hread, Head.after?]
    rw [places?_read (by decide) hread', readsAfter_precision.count fun _ _ => rfl]
    rfl
  · rw [places?_sized (hread.trans (by simp [Head.after?, hdot]))]
    unfold afterCount?
    split <;> simp_all

def flagsAt? (h : Head) (cs : List Char) : Option (Place × List Char) :=
  countAt? .width { h with flags := h.flags ++ cs.takeWhile isFlag } (cs.dropWhile isFlag)

theorem places?_flags : places? (.place .flags h) cs = goOn (flagsAt? h cs) := by
  induction cs generalizing h with
  | nil => rfl
  | cons c cs ih =>
    cases hflag : isFlag c with
    | true =>
      have hc : isNotation c = false := by
        by_contra hc
        simp [(isNotation_apart (by simpa using hc)).1] at hflag
      have hread : h.read? c .flags = some (.flags, { h with flags := h.flags ++ [c] }) := by
        simp [Head.read?, hflag]
      rw [places?_read hc hread, ih]
      simp [flagsAt?, hflag]
    | false =>
      have hread : h.read? c .flags = h.count? c .width := by simp [Head.read?, hflag]
      rw [readsAfter_width.count (by simpa using hread)]
      simp [flagsAt?, hflag]

theorem places?_name {d : Nat} {read : List Char} : places? (.name d read) cs =
    goOn ((readName d cs).bind fun (rest, cs) => flagsAt? { name := some (read ++ rest) } cs) := by
  induction cs generalizing d read with
  | nil => rfl
  | cons c cs ih =>
    by_cases hclose : c = ')'
    · subst hclose
      cases d with
      | zero => simp [places?, step?, readName, places?_flags]
      | succ d => cases hname : readName d cs <;> simp [places?, step?, readName, ih, hname]
    · cases hname : readName (if c = '(' then d + 1 else d) cs <;>
        simp [places?, step?, readName, ih, hclose, hname]

def placeAt? (cs : List Char) : Option (Place × List Char) :=
  match cs with
  | '(' :: cs => (readName 0 cs).bind fun (rest, cs) => flagsAt? { name := some rest } cs
  | cs => flagsAt? {} cs

theorem places?_percent (h : cs.head? ≠ some '%') : places? .percent cs = goOn (placeAt? cs) := by
  cases cs with
  | nil => rfl
  | cons c cs =>
    have hc : c ≠ '%' := by simpa using h
    by_cases hopen : c = '('
    · subst hopen
      simp [places?, step?, places?_name, placeAt?]
    · have hstep : places? .percent (c :: cs) = places? (.place .flags {}) (c :: cs) := by
        simp [places?, step?, hc, hopen]
      rw [hstep, places?_flags]
      unfold placeAt?
      split <;> simp_all

end Reading

section Whole

variable {cs : List Char} {c : Char} {h : Head}

theorem counted_digits (hcs : cs.head? ≠ some '*') : counted cs = cs.takeWhile isDigit := by
  unfold counted
  split
  · exact absurd rfl hcs
  · rfl

theorem uncounted_digits (hcs : cs.head? ≠ some '*') : uncounted cs = cs.dropWhile isDigit := by
  unfold uncounted
  split
  · exact absurd rfl hcs
  · rfl

def splitPrecision : List Char → Option (List Char) × List Char
  | '.' :: cs => (some (counted cs), uncounted cs)
  | cs => (none, cs)

theorem addAll_width (ws : List Char) : h.addAll .width ws = { h with width := h.width ++ ws } := by
  induction ws generalizing h with
  | nil => simp [Head.addAll]
  | cons w ws ih =>
    rw [Head.addAll, List.foldl_cons, ← Head.addAll, ih]
    simp [Head.add]

theorem addAll_precision (ws : List Char) {ds : List Char} (hds : h.precision = some ds) :
    h.addAll .precision ws = { h with precision := some (ds ++ ws) } := by
  induction ws generalizing h ds with
  | nil => simp [Head.addAll, ← hds]
  | cons w ws ih =>
    have hadd : (h.add w .precision).precision = some (ds ++ [w]) := by simp [Head.add, hds]
    rw [Head.addAll, List.foldl_cons, ← Head.addAll, ih hadd]
    simp [Head.add]

theorem flagsAt?_eq (name : Option (List Char)) (cs : List Char) :
    Reading.flagsAt? { name := name } cs =
      letterAt? ⟨name, cs.takeWhile isFlag, counted (cs.dropWhile isFlag),
        (splitPrecision (uncounted (cs.dropWhile isFlag))).1⟩
        (skipSize (splitPrecision (uncounted (cs.dropWhile isFlag))).2) := by
  rw [Reading.flagsAt?, countAt?, addAll_width]
  simp only [afterCount?, splitPrecision]
  split
  · rw [addAll_precision _ rfl]
    rfl
  · rfl

theorem of_letterAt? {p : Place} {rest : List Char} (hat : letterAt? h cs = some (p, rest)) :
    p.head = h ∧ rest.length < cs.length := by
  cases cs with
  | nil => cases hat
  | cons c cs =>
    rw [letterAt?] at hat
    split at hat <;> cases hat
    exact ⟨rfl, Nat.lt_succ_self _⟩

theorem length_skipSize_le (cs : List Char) : (skipSize cs).length ≤ cs.length := by
  cases cs with
  | nil => exact Nat.le_refl _
  | cons c cs =>
    rw [skipSize_cons]
    split <;> simp

theorem length_uncounted_le (cs : List Char) : (uncounted cs).length ≤ cs.length := by
  unfold uncounted
  split
  · simp
  · exact (List.dropWhile_sublist isDigit).length_le

theorem length_splitPrecision_le (cs : List Char) : (splitPrecision cs).2.length ≤ cs.length := by
  unfold splitPrecision
  split
  next rest => exact (length_uncounted_le rest).trans (Nat.le_succ _)
  · exact Nat.le_refl _

theorem length_of_flagsAt? {name : Option (List Char)} {p : Place} {rest : List Char}
    (hat : Reading.flagsAt? { name := name } cs = some (p, rest)) : rest.length < cs.length := by
  rw [flagsAt?_eq] at hat
  calc rest.length < _ := (of_letterAt? hat).2
    _ ≤ _ := length_skipSize_le _
    _ ≤ _ := length_splitPrecision_le _
    _ ≤ _ := length_uncounted_le _
    _ ≤ cs.length := (List.dropWhile_sublist isFlag).length_le

theorem length_of_readName {d : Nat} {name rest : List Char}
    (hread : readName d cs = some (name, rest)) : rest.length < cs.length := by
  induction cs generalizing d name with
  | nil => cases hread
  | cons c cs ih =>
    unfold readName at hread
    split at hread
    · cases d with
      | zero =>
        cases hread
        simp
      | succ d =>
        obtain ⟨r, hr, hrest⟩ := Option.map_eq_some_iff.1 hread
        cases hrest
        exact (ih hr).trans (Nat.lt_succ_self _)
    · obtain ⟨r, hr, hrest⟩ := Option.map_eq_some_iff.1 hread
      cases hrest
      exact (ih hr).trans (Nat.lt_succ_self _)

theorem length_of_placeAt? {p : Place} {rest : List Char}
    (hat : Reading.placeAt? cs = some (p, rest)) : rest.length < cs.length := by
  unfold Reading.placeAt? at hat
  split at hat
  next after =>
    obtain ⟨⟨name, cs⟩, hname, hplace⟩ := Option.bind_eq_some_iff.1 hat
    have := length_of_readName hname
    have := length_of_flagsAt? hplace
    simp
    omega
  · exact length_of_flagsAt? hat

theorem places?_percents : Reading.places? .text ('%' :: '%' :: cs) = Reading.places? .text cs := by
  simp [Reading.places?, Reading.step?]

theorem places?_place (h : cs.head? ≠ some '%') :
    Reading.places? .text ('%' :: cs) = goOn (Reading.placeAt? cs) := by
  rw [← Reading.places?_percent h]
  simp [Reading.places?, Reading.step?]

theorem places?_literal (h : c ≠ '%') :
    Reading.places? .text (c :: cs) = Reading.places? .text cs := by
  simp [Reading.places?, Reading.step?, h]

end Whole

end Folio.Log
