import Mathlib
import Folio.Command.Token
/-!
What the words of a line are: the characters that a scan of the line keeps, parted exactly at the
spaces outside quotes and at the closing quotes. This holds of no other words.
-/

namespace Folio.Command

inductive Mark where
  | kept
  | opening
  | closing
  | gap
  deriving DecidableEq, Repr

def Mark.parts : Mark → Bool
  | kept => false
  | opening => false
  | closing => true
  | gap => true

def scan (quote : Option Char) : List Char → List (Char × Mark)
  | [] => []
  | c :: cs =>
    match quote with
    | none =>
      if isQuote c then (c, .opening) :: scan (some c) cs
      else if c = ' ' then (c, .gap) :: scan none cs
      else (c, .kept) :: scan none cs
    | some q =>
      if c = q then (c, .closing) :: scan none cs
      else (c, .kept) :: scan (some q) cs

theorem map_fst_scan (quote : Option Char) (cs : List Char) :
    (scan quote cs).map Prod.fst = cs := by
  induction cs generalizing quote with
  | nil => rfl
  | cons c cs ih => cases quote <;> grind [scan]

def kept (ms : List (Char × Mark)) : List Char :=
  (ms.filter (·.2 = .kept)).map Prod.fst

def wordAt? : List (List Char) → Nat → Option Nat
  | [], _ => none
  | w :: ws, n => if n < w.length then some 0 else (wordAt? ws (n - w.length)).map (· + 1)

/-- Words that hold the kept characters in order, none of them empty, and that are parted exactly
where something between two neighbours ends a word. -/
structure Divides (ms : List (Char × Mark)) (ws : List (List Char)) : Prop where
  joined : ws.flatten = kept ms
  nonempty : ∀ w ∈ ws, w ≠ []
  together : ∀ front a between b back,
    ms = front ++ (a, .kept) :: (between ++ (b, .kept) :: back) → kept between = [] →
      (wordAt? ws (kept front).length = wordAt? ws ((kept front).length + 1) ↔
        ∀ m ∈ between, m.2.parts = false)

section Kept

variable {c : Char} {m : Mark} {ms ns : List (Char × Mark)}

@[simp] theorem kept_nil : kept [] = [] := rfl

@[simp] theorem kept_cons_kept : kept ((c, .kept) :: ms) = c :: kept ms := rfl

@[simp] theorem kept_cons_other (h : m ≠ .kept) : kept ((c, m) :: ms) = kept ms := by
  simp [kept, h]

@[simp] theorem kept_append : kept (ms ++ ns) = kept ms ++ kept ns := by
  simp [kept]

theorem exists_kept {n : Nat} (h : n < (kept ms).length) :
    ∃ front a back, ms = front ++ (a, .kept) :: back ∧ (kept front).length = n := by
  induction ms generalizing n with
  | nil => cases h
  | cons e ms ih =>
    obtain ⟨c, m⟩ := e
    by_cases hm : m = .kept
    · subst hm
      cases n with
      | zero => exact ⟨[], c, ms, rfl, rfl⟩
      | succ n =>
        obtain ⟨front, a, back, rfl, hn⟩ := ih (Nat.lt_of_succ_lt_succ h)
        exact ⟨(c, .kept) :: front, a, back, rfl, congrArg (· + 1) hn⟩
    · rw [kept_cons_other hm] at h
      obtain ⟨front, a, back, rfl, hn⟩ := ih h
      exact ⟨(c, m) :: front, a, back, rfl, by rw [kept_cons_other hm, hn]⟩

theorem exists_neighbours {n : Nat} (h : n + 1 < (kept ms).length) :
    ∃ front a between b back, ms = front ++ (a, .kept) :: (between ++ (b, .kept) :: back) ∧
      (kept front).length = n ∧ kept between = [] := by
  obtain ⟨front, a, rest, rfl, hfront⟩ := exists_kept (Nat.lt_of_succ_lt h)
  have hrest : 0 < (kept rest).length := by
    simp [hfront] at h
    omega
  obtain ⟨between, b, back, rfl, hbetween⟩ := exists_kept hrest
  exact ⟨front, a, between, b, back, rfl, hfront, List.length_eq_zero_iff.1 hbetween⟩

end Kept

def grouped (word : List Char) : List (Char × Mark) → List (List Char)
  | [] => finished word
  | (c, .kept) :: ms => grouped (c :: word) ms
  | (_, .opening) :: ms => grouped word ms
  | (_, .closing) :: ms => finished word ++ grouped [] ms
  | (_, .gap) :: ms => finished word ++ grouped [] ms

theorem words_eq_grouped (quote : Option Char) (word cs : List Char) :
    words quote word cs = grouped word (scan quote cs) := by
  induction cs generalizing quote word with
  | nil => rfl
  | cons c cs ih => cases quote <;> grind [words, scan, grouped]

section Grouped

variable {word : List Char} {ms : List (Char × Mark)}

@[simp] theorem flatten_finished (word : List Char) : (finished word).flatten = word.reverse := by
  cases word <;> simp [finished]

theorem finished_of_ne_nil (h : word ≠ []) : finished word = [word.reverse] := by
  simp [finished, h]

theorem ne_nil_of_mem_finished {w : List Char} (h : w ∈ finished word) : w ≠ [] := by
  cases word with
  | nil => cases h
  | cons c cs =>
    obtain rfl := List.mem_singleton.1 h
    simp

theorem grouped_parts {c : Char} {m : Mark} (h : m.parts = true) :
    grouped word ((c, m) :: ms) = finished word ++ grouped [] ms := by
  cases m with
  | kept => cases h
  | opening => cases h
  | closing => rfl
  | gap => rfl

theorem grouped_parts_of_ne_nil {c : Char} {m : Mark} (h : word ≠ []) (hm : m.parts = true) :
    grouped word ((c, m) :: ms) = word.reverse :: grouped [] ms := by
  rw [grouped_parts hm, finished_of_ne_nil h]
  rfl

theorem flatten_grouped (word : List Char) (ms : List (Char × Mark)) :
    (grouped word ms).flatten = word.reverse ++ kept ms := by
  induction ms generalizing word with
  | nil => simp [grouped]
  | cons e ms ih =>
    obtain ⟨c, m⟩ := e
    cases m <;> simp [grouped, ih]

theorem ne_nil_of_mem_grouped {w : List Char} (h : w ∈ grouped word ms) : w ≠ [] := by
  induction ms generalizing word with
  | nil => exact ne_nil_of_mem_finished h
  | cons e ms ih =>
    obtain ⟨c, m⟩ := e
    cases m with
    | kept => exact ih h
    | opening => exact ih h
    | closing => exact (List.mem_append.1 h).elim ne_nil_of_mem_finished ih
    | gap => exact (List.mem_append.1 h).elim ne_nil_of_mem_finished ih

theorem exists_grouped_append (word : List Char) (ms : List (Char × Mark)) :
    ∃ ws rest, ws.flatten ++ rest.reverse = word.reverse ++ kept ms ∧
      ∀ ns, grouped word (ms ++ ns) = ws ++ grouped rest ns := by
  induction ms generalizing word with
  | nil => exact ⟨[], word, by simp, fun _ => rfl⟩
  | cons e ms ih =>
    obtain ⟨c, m⟩ := e
    have hparts (h : m.parts = true) : ∃ ws rest,
        ws.flatten ++ rest.reverse = word.reverse ++ kept ((c, m) :: ms) ∧
          ∀ ns, grouped word ((c, m) :: ms ++ ns) = ws ++ grouped rest ns := by
      obtain ⟨ws, rest, hchars, hgrouped⟩ := ih []
      have hother : m ≠ .kept := fun hm => by
        rw [hm] at h
        cases h
      refine ⟨finished word ++ ws, rest, ?_, fun ns => ?_⟩
      · rw [List.flatten_append, List.append_assoc, hchars, kept_cons_other hother,
          flatten_finished]
        rfl
      · rw [List.cons_append, grouped_parts h, hgrouped, List.append_assoc]
    cases m with
    | kept =>
      obtain ⟨ws, rest, hchars, hgrouped⟩ := ih (c :: word)
      exact ⟨ws, rest, by simp [hchars], hgrouped⟩
    | opening =>
      obtain ⟨ws, rest, hchars, hgrouped⟩ := ih word
      exact ⟨ws, rest, by simp [hchars], hgrouped⟩
    | closing => exact hparts rfl
    | gap => exact hparts rfl

theorem exists_grouped (h : word ≠ []) (ms : List (Char × Mark)) :
    ∃ more ws, grouped word ms = (word.reverse ++ more) :: ws := by
  induction ms generalizing word with
  | nil => exact ⟨[], [], by simp [grouped, finished_of_ne_nil h]⟩
  | cons e ms ih =>
    obtain ⟨c, m⟩ := e
    cases m with
    | kept =>
      obtain ⟨more, ws, hgrouped⟩ := ih (List.cons_ne_nil c word)
      exact ⟨c :: more, ws, by simpa [grouped] using hgrouped⟩
    | opening => exact ih h
    | closing => exact ⟨[], grouped [] ms, by simpa using grouped_parts_of_ne_nil h rfl⟩
    | gap => exact ⟨[], grouped [] ms, by simpa using grouped_parts_of_ne_nil h rfl⟩

theorem grouped_unparted {between : List (Char × Mark)} (hkept : kept between = [])
    (h : ∀ m ∈ between, m.2.parts = false) : grouped word (between ++ ms) = grouped word ms := by
  induction between with
  | nil => rfl
  | cons e between ih =>
    obtain ⟨hhead, hrest⟩ := List.forall_mem_cons.1 h
    obtain ⟨c, m⟩ := e
    cases m with
    | kept => cases hkept
    | opening => exact ih hkept hrest
    | closing => cases hhead
    | gap => cases hhead

theorem grouped_parted (hword : word ≠ []) {between : List (Char × Mark)}
    (hkept : kept between = []) (h : ∃ m ∈ between, m.2.parts = true) (ms : List (Char × Mark)) :
    ∃ ws, grouped word (between ++ ms) = word.reverse :: ws := by
  induction between with
  | nil => simp at h
  | cons e between ih =>
    obtain ⟨c, m⟩ := e
    cases m with
    | kept => cases hkept
    | opening => exact ih hkept (by simpa [Mark.parts] using h)
    | closing => exact ⟨_, grouped_parts_of_ne_nil hword rfl⟩
    | gap => exact ⟨_, grouped_parts_of_ne_nil hword rfl⟩

end Grouped

section WordAt

variable {w u : List Char} {ws us : List (List Char)} {n : Nat}

theorem wordAt?_head (h : n < w.length) : wordAt? (w :: ws) n = some 0 := if_pos h

theorem wordAt?_ne_head (h : w.length ≤ n) : wordAt? (w :: ws) n ≠ some 0 := by
  rw [wordAt?, if_neg (Nat.not_lt.2 h)]
  simp

theorem wordAt?_append (ws us : List (List Char)) (n : Nat) :
    wordAt? (ws ++ us) (ws.flatten.length + n) = (wordAt? us n).map (· + ws.length) := by
  induction ws with
  | nil => simp
  | cons w ws ih =>
    have hskip : (w :: ws).flatten.length + n - w.length = ws.flatten.length + n := by
      simp
      omega
    rw [List.cons_append, wordAt?, if_neg (by simp; omega), hskip, ih, Option.map_map]
    rfl

theorem wordAt?_tail (w : List Char) (ws : List (List Char)) (n : Nat) :
    wordAt? (w :: ws) (w.length + n) = (wordAt? ws n).map (· + 1) := by
  simpa using wordAt?_append [w] ws n

theorem length_le_of_wordAt? (hu : u ≠ []) (h : ∀ n, n + 1 < (w :: ws).flatten.length →
      wordAt? (w :: ws) n = wordAt? (w :: ws) (n + 1) →
        wordAt? (u :: us) n = wordAt? (u :: us) (n + 1)) : w.length ≤ u.length := by
  by_contra hlt
  rw [Nat.not_le] at hlt
  obtain ⟨n, hn⟩ := Nat.exists_eq_succ_of_ne_zero (mt List.length_eq_zero_iff.1 hu)
  have hflatten : n + 1 < (w :: ws).flatten.length := by
    simp
    omega
  have hsame : wordAt? (w :: ws) n = wordAt? (w :: ws) (n + 1) := by
    rw [wordAt?_head (by omega), wordAt?_head (by omega)]
  have hparted := h n hflatten hsame
  rw [wordAt?_head (by omega)] at hparted
  exact wordAt?_ne_head (by omega) hparted.symm

theorem eq_of_wordAt? (hws : ∀ w ∈ ws, w ≠ []) (hus : ∀ u ∈ us, u ≠ [])
    (hflatten : ws.flatten = us.flatten) (h : ∀ n, n + 1 < ws.flatten.length →
      (wordAt? ws n = wordAt? ws (n + 1) ↔ wordAt? us n = wordAt? us (n + 1))) : ws = us := by
  induction ws generalizing us with
  | nil =>
    cases us with
    | nil => rfl
    | cons u us => simp [hus u] at hflatten
  | cons w ws ih =>
    cases us with
    | nil => simp [hws w] at hflatten
    | cons u us =>
      obtain ⟨hw, hws⟩ := List.forall_mem_cons.1 hws
      obtain ⟨hu, hus'⟩ := List.forall_mem_cons.1 hus
      have hlength : w.length = u.length := by
        refine Nat.le_antisymm (length_le_of_wordAt? hu fun n hn => (h n hn).1)
          (length_le_of_wordAt? hw fun n hn => (h n ?_).2)
        rwa [hflatten]
      obtain ⟨rfl, hrest⟩ := List.append_inj hflatten hlength
      refine congrArg (w :: ·) (ih hws hus' hrest fun n hn => ?_)
      have hn' : w.length + n + 1 < (w :: ws).flatten.length := by
        rw [List.flatten_cons, List.length_append]
        omega
      have hshifted := h (w.length + n) hn'
      rw [Nat.add_assoc, wordAt?_tail, wordAt?_tail, wordAt?_tail, wordAt?_tail] at hshifted
      simpa [(Option.map_injective (add_left_injective 1)).eq_iff] using hshifted

end WordAt

namespace Divides

variable {ms : List (Char × Mark)} {ws us : List (List Char)}

theorem unique (hws : Divides ms ws) (hus : Divides ms us) : ws = us := by
  refine eq_of_wordAt? hws.nonempty hus.nonempty (hws.joined.trans hus.joined.symm) fun n hn => ?_
  rw [hws.joined] at hn
  obtain ⟨front, a, between, b, back, hms, rfl, hbetween⟩ := exists_neighbours hn
  rw [hws.together front a between b back hms hbetween,
    hus.together front a between b back hms hbetween]

theorem of_grouped (ms : List (Char × Mark)) : Divides ms (grouped [] ms) where
  joined := flatten_grouped [] ms
  nonempty _ := ne_nil_of_mem_grouped
  together := by
    rintro front a between b back rfl hbetween
    -- the first of the two characters ends what is gathered when the part between them is reached
    obtain ⟨ws, rest, hchars, hgrouped⟩ := exists_grouped_append [] front
    have hplace : (kept front).length = ws.flatten.length + rest.length := by
      simpa using (congrArg List.length hchars).symm
    rw [hgrouped, hplace, Nat.add_assoc, wordAt?_append, wordAt?_append,
      (Option.map_injective (add_left_injective ws.length)).eq_iff]
    by_cases h : ∀ m ∈ between, m.2.parts = false
    · obtain ⟨more, us, htogether⟩ := exists_grouped (List.cons_ne_nil b (a :: rest)) back
      simp only [grouped, grouped_unparted hbetween h, htogether]
      refine iff_of_true ?_ h
      rw [wordAt?_head (by simp), wordAt?_head (by simp)]
    · refine iff_of_false ?_ h
      have hparts : ∃ m ∈ between, m.2.parts = true := by simpa using h
      obtain ⟨us, hparted⟩ := grouped_parted (List.cons_ne_nil a rest) hbetween hparts
        ((b, .kept) :: back)
      simp only [grouped, hparted]
      rw [wordAt?_head (by simp)]
      exact (wordAt?_ne_head (by simp)).symm

end Divides

theorem map_toList_tokenize (line : String) :
    (tokenize line).map String.toList = grouped [] (scan none line.toList) := by
  rw [tokenize, List.map_map, words_eq_grouped]
  simp [Function.comp_def]

theorem ne_empty_of_mem_tokenize {line w : String} (h : w ∈ tokenize line) : w ≠ "" := by
  rintro rfl
  have hmem := List.mem_map_of_mem (f := String.toList) h
  rw [map_toList_tokenize] at hmem
  exact ne_nil_of_mem_grouped hmem rfl

/-- The words of a line are the one division of what a scan of all its characters keeps. -/
theorem tokenize_eq_iff (line : String) (ws : List String) :
    (scan none line.toList).map Prod.fst = line.toList ∧
      (tokenize line = ws ↔ Divides (scan none line.toList) (ws.map String.toList)) := by
  refine ⟨map_fst_scan none line.toList, ?_, fun h => ?_⟩
  · rintro rfl
    rw [map_toList_tokenize]
    exact .of_grouped _
  · have hsame := (Divides.of_grouped _).unique h
    rw [← map_toList_tokenize] at hsame
    exact List.map_injective_iff.2 (fun _ _ => String.toList_inj.1) hsame

example : tokenize "a\"b 'c\"'d' e" = ["ab 'c", "d", "e"] := by decide

end Folio.Command
