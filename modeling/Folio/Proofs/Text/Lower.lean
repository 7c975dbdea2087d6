import Folio.Proofs.Lookup
import Folio.Proofs.Text.Blank
import Folio.Text.Case
/-!
Lowering texts: a lowered text stays as it is when lowered again, and lowering commutes with
stripping blanks. Both come down to the case table: no code point that lowering produces is
lowered further or blank.
-/

namespace Folio.Text

namespace Run

def members (r : Run) : List Nat :=
  (List.range ((r.last - r.first) / r.step + 1)).map fun k => r.first + r.step * k

def image (r : Run) (n : Nat) : Nat := (n + r.shift).toNat

theorem mem_members {r : Run} {n : Nat} (hlo : r.first ≤ n) (hhi : n ≤ r.last)
    (hstep : (n - r.first) % r.step = 0) : n ∈ r.members := by
  rw [members, List.mem_map]
  refine ⟨(n - r.first) / r.step, ?_, ?_⟩
  · rw [List.mem_range]
    exact Nat.lt_succ_of_le (Nat.div_le_div_right (Nat.sub_le_sub_right hhi _))
  · rw [Nat.mul_div_cancel' (Nat.dvd_of_mod_eq_zero hstep)]
    exact Nat.add_sub_cancel' hlo

end Run

theorem shifted_eq_some {runs : List Run} {n m : Nat} (h : shifted n runs = some m) :
    ∃ r ∈ runs, n ∈ r.members ∧ m = r.image n := by
  induction runs with
  | nil => simp [shifted] at h
  | cons r rs ih =>
    rw [shifted] at h
    by_cases hlo : n < r.first
    · simp [hlo] at h
    rw [if_neg hlo] at h
    by_cases hin : (n ≤ r.last && (n - r.first) % r.step == 0) = true
    · rw [if_pos hin] at h
      simp only [Bool.and_eq_true, decide_eq_true_eq, beq_iff_eq] at hin
      exact ⟨r, List.mem_cons_self, Run.mem_members (Nat.le_of_not_lt hlo) hin.1 hin.2,
        (Option.some.inj h).symm⟩
    · rw [if_neg hin] at h
      obtain ⟨q, hq, hn, hm⟩ := ih h
      exact ⟨q, List.mem_cons_of_mem r hq, hn, hm⟩

theorem shifted_eq_none {runs : List Run} {n : Nat} (h : ∀ r ∈ runs, n ∉ r.members) :
    shifted n runs = none := by
  cases hs : shifted n runs with
  | none => rfl
  | some m =>
    obtain ⟨r, hr, hn, -⟩ := shifted_eq_some hs
    exact absurd hn (h r hr)

/-- Code points as the bits of one number, so that disjointness is a single conjunction. -/
def codeSet (codes : List Nat) : Nat :=
  codes.foldr (fun n set => set ||| 1 <<< n) 0

theorem testBit_codeSet (codes : List Nat) (m : Nat) :
    (codeSet codes).testBit m = decide (m ∈ codes) := by
  induction codes with
  | nil => simp [codeSet]
  | cons n codes ih =>
    rw [codeSet, List.foldr_cons, ← codeSet, Nat.testBit_or, ih, Nat.one_shiftLeft,
      Nat.testBit_two_pow]
    by_cases hn : n = m
    · simp [hn]
    · simp [hn, Ne.symm hn]

theorem notMem_of_disjoint {codes others : List Nat} {m : Nat}
    (h : codeSet codes &&& codeSet others = 0) (hm : m ∈ codes) : m ∉ others := by
  intro ho
  have hbit := congrArg (Nat.testBit · m) h
  simp [testBit_codeSet, hm, ho] at hbit

def lowerSources : List Nat :=
  lowerExpansions.map Prod.fst ++ lowerRuns.flatMap Run.members

def lowerImages : List Nat :=
  lowerRuns.flatMap fun r => r.members.map r.image

def blankCodes : List Nat :=
  List.range' 9 5 ++ List.range' 28 5 ++ [0x85, 0xA0, 0x1680] ++ List.range' 0x2000 11 ++
    [0x2028, 0x2029, 0x202F, 0x205F, 0x3000]

theorem mem_blankCodes {c : Char} (h : isBlank c = true) : c.toNat ∈ blankCodes := by
  simp only [isBlank, Bool.or_eq_true, Bool.and_eq_true, decide_eq_true_eq, beq_iff_eq] at h
  simp only [blankCodes, List.mem_append, List.mem_range'_1, List.mem_cons, List.not_mem_nil,
    or_false]
  omega

-- the tables are too long to be compared pair by pair, so their sets are compared as numbers
theorem images_fixed : codeSet lowerImages &&& codeSet (lowerSources ++ blankCodes) = 0 := by
  decide +kernel

theorem images_valid :
    (lowerImages.all fun n => n < 0xD800 || 0xE000 ≤ n && n < 0x110000) = true := by
  decide +kernel

theorem blanks_caseless :
    (blankCodes.all fun n => lowerChar (Char.ofNat n) == [Char.ofNat n] &&
      !inRanges n casedRanges && !inRanges n caseIgnorableRanges) = true := by
  decide +kernel

theorem toNat_ofNat_image {n : Nat} (h : n ∈ lowerImages) : (Char.ofNat n).toNat = n := by
  have hn := List.all_eq_true.1 images_valid n h
  simp only [Bool.or_eq_true, Bool.and_eq_true, decide_eq_true_eq] at hn
  have hv : n.isValidChar := by
    unfold Nat.isValidChar
    omega
  rw [Char.ofNat, dif_pos hv]
  rfl

theorem lowerChar_eq_mapped (c : Char) : lowerChar c = mapped lowerRuns lowerExpansions c := by
  have hascii : ∀ n < 128,
      [(Char.ofNat n).toLower] = mapped lowerRuns lowerExpansions (Char.ofNat n) := by
    decide +kernel
  rw [lowerChar]
  split
  next h => simpa using hascii c.toNat h
  next => rfl

theorem lowerChar_of_notMem {c : Char} (h : c.toNat ∉ lowerSources) : lowerChar c = [c] := by
  rw [lowerSources, List.mem_append, not_or] at h
  have hexp : lowerExpansions.lookup c.toNat = none := lookup_eq_none_iff_notMem.2 h.1
  have hrun : shifted c.toNat lowerRuns = none :=
    shifted_eq_none fun r hr hn => h.2 (List.mem_flatMap_of_mem hr hn)
  rw [lowerChar_eq_mapped, mapped, hexp, hrun]

theorem eq_of_lookup_lowerExpansions {n : Nat} {ns : List Nat}
    (h : lowerExpansions.lookup n = some ns) : ns = [105, 775] := by
  simp only [lowerExpansions, List.lookup] at h
  split at h
  · exact (Option.some.inj h).symm
  · cases h

theorem mem_lowerChar {c d : Char} (h : d ∈ lowerChar c) :
    d = 'i' ∨ d = Char.ofNat 775 ∨ (∃ n ∈ lowerImages, d = Char.ofNat n) ∨
      (d = c ∧ lowerChar c = [c]) := by
  rw [lowerChar_eq_mapped, mapped] at h ⊢
  split at h
  next ns hexp =>
    obtain rfl := eq_of_lookup_lowerExpansions hexp
    have hd : d = 'i' ∨ d = Char.ofNat 775 := by simpa using h
    exact hd.elim .inl (.inr ∘ .inl)
  next hexp =>
    split at h
    next n hrun =>
      obtain ⟨r, hr, hn, rfl⟩ := shifted_eq_some hrun
      have hmem : r.image c.toNat ∈ lowerImages :=
        List.mem_flatMap_of_mem hr (List.mem_map_of_mem hn)
      exact .inr (.inr (.inl ⟨_, hmem, List.mem_singleton.1 h⟩))
    next hrun =>
      exact .inr (.inr (.inr ⟨List.mem_singleton.1 h, rfl⟩))

theorem lowerChar_mem_lowerChar {c d : Char} (h : d ∈ lowerChar c) : lowerChar d = [d] := by
  obtain rfl | rfl | ⟨n, hn, rfl⟩ | ⟨rfl, hc⟩ := mem_lowerChar h
  · rfl
  · rfl
  · apply lowerChar_of_notMem
    rw [toNat_ofNat_image hn]
    exact fun hs => notMem_of_disjoint images_fixed hn (List.mem_append_left _ hs)
  · exact hc

theorem isBlank_mem_lowerChar {c d : Char} (hc : isBlank c = false) (h : d ∈ lowerChar c) :
    isBlank d = false := by
  obtain rfl | rfl | ⟨n, hn, rfl⟩ | ⟨rfl, -⟩ := mem_lowerChar h
  · decide
  · decide
  · rw [Bool.eq_false_iff]
    intro hb
    have hcode := mem_blankCodes hb
    rw [toNat_ofNat_image hn] at hcode
    exact notMem_of_disjoint images_fixed hn (List.mem_append_right _ hcode)
  · exact hc

theorem lowerChar_ne_nil (c : Char) : lowerChar c ≠ [] := by
  rw [lowerChar_eq_mapped, mapped]
  split
  next ns hexp => simp [eq_of_lookup_lowerExpansions hexp]
  next => split <;> simp

theorem lowerChar_blank {c : Char} (h : isBlank c = true) : lowerChar c = [c] := by
  have hc := List.all_eq_true.1 blanks_caseless c.toNat (mem_blankCodes h)
  rw [Char.ofNat_toNat] at hc
  simp only [Bool.and_eq_true, beq_iff_eq] at hc
  exact hc.1.1

theorem lowerAfter_cons (before : List Char) (c : Char) (cs : List Char) :
    ∃ low, lowerAfter before (c :: cs) = low ++ lowerAfter (c :: before) cs ∧ low ≠ [] ∧
      (∀ d ∈ low, lowerChar d = [d]) ∧ (isBlank c = false → ∀ d ∈ low, isBlank d = false) ∧
      (lowerChar c = [c] → low = [c]) := by
  refine ⟨_, rfl, ?_⟩
  by_cases hsigma : c = 'Σ'
  · -- a capital sigma is the one character whose lowering depends on what stands around it
    have hnot : lowerChar 'Σ' ≠ ['Σ'] := by decide
    subst hsigma
    by_cases hend : (facesCased before && !facesCased cs) = true
    all_goals
      simp only [if_true, hend, hnot, List.mem_singleton, forall_eq, ne_eq, reduceCtorEq,
        not_false_eq_true, false_implies, and_true, true_and]
      decide
  · rw [if_neg hsigma]
    exact ⟨lowerChar_ne_nil c, fun d hd => lowerChar_mem_lowerChar hd,
      fun hc d hd => isBlank_mem_lowerChar hc hd, id⟩

theorem mem_lowerAfter {before cs : List Char} {d : Char} (h : d ∈ lowerAfter before cs) :
    lowerChar d = [d] := by
  induction cs generalizing before with
  | nil => simp [lowerAfter] at h
  | cons c cs ih =>
    obtain ⟨low, hstep, -, hlow, -⟩ := lowerAfter_cons before c cs
    rw [hstep] at h
    exact (List.mem_append.1 h).elim (hlow d) ih

theorem lowerAfter_prefix_append {cs : List Char} (h : 'Σ' ∉ cs) (before ds : List Char) :
    lowerAfter before cs <+: lowerAfter before (cs ++ ds) := by
  induction cs generalizing before with
  | nil => exact List.nil_prefix
  | cons c cs ih =>
    obtain ⟨hc, hcs⟩ := List.ne_and_not_mem_of_not_mem_cons h
    simp only [List.cons_append, lowerAfter, if_neg hc.symm, List.prefix_append_right_inj]
    exact ih hcs (c :: before)

theorem sigma_mem_lowerAfter {cs : List Char} (h : 'Σ' ∈ cs) (before : List Char) :
    'σ' ∈ lowerAfter before cs ∨ 'ς' ∈ lowerAfter before cs := by
  induction cs generalizing before with
  | nil => cases h
  | cons c cs ih =>
    simp only [lowerAfter, List.mem_append]
    obtain rfl | hcs := List.mem_cons.1 h
    · rw [if_pos rfl]
      split
      · exact .inr (.inl List.mem_cons_self)
      · exact .inl (.inl List.mem_cons_self)
    · exact (ih hcs (c :: before)).imp .inr .inr

theorem lowerAfter_eq_self {before cs : List Char} (h : ∀ c ∈ cs, lowerChar c = [c]) :
    lowerAfter before cs = cs := by
  induction cs generalizing before with
  | nil => rfl
  | cons c cs ih =>
    obtain ⟨low, hstep, -, -, -, hself⟩ := lowerAfter_cons before c cs
    rw [hstep, hself (h c List.mem_cons_self), ih fun d hd => h d (List.mem_cons_of_mem c hd)]
    rfl

@[simp] theorem lower_lower (s : String) : lower (lower s) = lower s := by
  simp only [lower, String.toList_ofList]
  rw [lowerAfter_eq_self fun _ hd => mem_lowerAfter hd]

theorem lowerAfter_eq_nil {before cs : List Char} : lowerAfter before cs = [] ↔ cs = [] := by
  cases cs with
  | nil => simp [lowerAfter]
  | cons c cs =>
    obtain ⟨low, hstep, hne, -⟩ := lowerAfter_cons before c cs
    simp [hstep, hne]

@[simp] theorem isEmpty_lower (s : String) : (lower s).isEmpty = s.isEmpty := by
  rw [Bool.eq_iff_iff, String.isEmpty_iff, String.isEmpty_iff, ← String.toList_inj,
    ← String.toList_inj, lower, String.toList_ofList, String.toList_empty, lowerAfter_eq_nil]

theorem blank_caseless {c : Char} (h : isBlank c = true) :
    inRanges c.toNat casedRanges = false ∧ inRanges c.toNat caseIgnorableRanges = false := by
  have hc := List.all_eq_true.1 blanks_caseless c.toNat (mem_blankCodes h)
  simp only [Bool.and_eq_true, Bool.not_eq_true'] at hc
  exact ⟨hc.1.2, hc.2⟩

theorem facesCased_cons (c : Char) (cs : List Char) :
    facesCased (c :: cs) = if inRanges c.toNat caseIgnorableRanges then facesCased cs
      else inRanges c.toNat casedRanges := by
  by_cases hc : inRanges c.toNat caseIgnorableRanges <;> simp [facesCased, hc]

theorem facesCased_append {blanks : List Char} (h : ∀ c ∈ blanks, isBlank c = true)
    (cs : List Char) : facesCased (cs ++ blanks) = facesCased cs := by
  induction cs with
  | nil =>
    cases blanks with
    | nil => rfl
    | cons b bs =>
      obtain ⟨hcased, hignorable⟩ := blank_caseless (h b List.mem_cons_self)
      rw [List.nil_append, facesCased_cons, hignorable, hcased]
      rfl
  | cons c cs ih => rw [List.cons_append, facesCased_cons, facesCased_cons, ih]

theorem lowerAfter_before {blanks : List Char} (h : ∀ c ∈ blanks, isBlank c = true)
    (before cs : List Char) : lowerAfter (before ++ blanks) cs = lowerAfter before cs := by
  induction cs generalizing before with
  | nil => rfl
  | cons c cs ih =>
    simp only [lowerAfter, facesCased_append h]
    rw [← List.cons_append, ih]

theorem lowerAfter_append {blanks : List Char} (h : ∀ c ∈ blanks, isBlank c = true)
    (before cs : List Char) :
    lowerAfter before (cs ++ blanks) = lowerAfter before cs ++ blanks := by
  induction cs generalizing before with
  | nil => exact lowerAfter_eq_self fun c hc => lowerChar_blank (h c hc)
  | cons c cs ih =>
    simp only [List.cons_append, lowerAfter, facesCased_append h, ih, List.append_assoc]

theorem lowerAfter_blanks {blanks : List Char} (h : ∀ c ∈ blanks, isBlank c = true)
    (before cs : List Char) :
    lowerAfter before (blanks ++ cs) = blanks ++ lowerAfter (blanks.reverse ++ before) cs := by
  induction blanks generalizing before with
  | nil => rfl
  | cons b bs ih =>
    obtain ⟨low, hstep, -, -, -, hself⟩ := lowerAfter_cons before b (bs ++ cs)
    rw [List.cons_append, hstep, hself (lowerChar_blank (h b List.mem_cons_self)),
      ih fun c hc => h c (List.mem_cons_of_mem b hc), List.reverse_cons, List.append_assoc]
    rfl

theorem getLast_lowerAfter {before cs : List Char} (h : ∀ c ∈ cs.getLast?, isBlank c = false) :
    ∀ d ∈ (lowerAfter before cs).getLast?, isBlank d = false := by
  induction cs generalizing before with
  | nil => simp [lowerAfter]
  | cons c cs ih =>
    obtain ⟨low, hstep, -, -, hblank, -⟩ := lowerAfter_cons before c cs
    intro d hd
    rw [hstep] at hd
    cases cs with
    | nil =>
      rw [lowerAfter, List.append_nil] at hd
      exact hblank (h c rfl) d (List.mem_of_getLast? hd)
    | cons e es =>
      have hne : lowerAfter (c :: before) (e :: es) ≠ [] := by simp [lowerAfter_eq_nil]
      rw [List.getLast?_append, List.getLast?_eq_some_getLast hne, Option.some_or,
        ← List.getLast?_eq_some_getLast hne] at hd
      exact ih (fun f hf => h f hf) d hd

theorem trimmed_lowerAfter {before cs : List Char} (h : Trimmed isBlank cs) :
    Trimmed isBlank (lowerAfter before cs) := by
  refine ⟨?_, getLast_lowerAfter h.last⟩
  cases cs with
  | nil => simp [lowerAfter]
  | cons c cs =>
    obtain ⟨low, hstep, hne, -, hblank, -⟩ := lowerAfter_cons before c cs
    intro d hd
    rw [hstep, List.head?_append, List.head?_eq_some_head hne, Option.some_or,
      ← List.head?_eq_some_head hne] at hd
    exact hblank (h.head c rfl) d (List.mem_of_head? hd)

theorem strip_lower (s : String) : strip (lower s) = lower (strip s) := by
  obtain ⟨front, back, hfront, hback, hs⟩ := exists_trim isBlank s.toList
  have hrev : ∀ c ∈ front.reverse, isBlank c = true := fun c hc => hfront c (List.mem_reverse.1 hc)
  have hlower := congrArg (lowerAfter []) hs
  rw [lowerAfter_blanks hfront, lowerAfter_append hback, List.append_nil,
    ← List.nil_append front.reverse, lowerAfter_before hrev] at hlower
  simp only [strip, lower, String.toList_ofList]
  rw [hlower, trim_between hfront (trimmed_lowerAfter (trimmed_trim _ _)) hback]

end Folio.Text
