import Folio.Proofs.Log.Place
/-!
Filling a template takes values from a supply. Whether it succeeds depends on the places of the
template only.
-/

namespace Folio.Log

open Folio.Number

namespace Supply

def named? (name : Option (List Char)) (s : Supply) : Option Supply :=
  match name with
  | none => some s
  | some name => s.names.bind fun fields =>
    (fields.lookup (String.ofList name)).map fun v => { s with queue := [v] }

def count? (n : Count) (counted : List Char) (s : Supply) : Option Supply :=
  match readCount n s counted with
  | .ok (_, s, _) => some s
  | .error _ => none

def letter? (c : Char) (s : Supply) : Option Supply :=
  match s.next with
  | .ok (v, s) => if (convert {} c 0 v).isOk then some s else none
  | .error _ => none

def isSpent (s : Supply) : Bool :=
  s.queue.isEmpty || s.names.isSome

end Supply

def Place.serve? (p : Place) (s : Supply) : Option Supply := do
  let s ← s.named? p.head.name
  let s ← s.count? .width p.head.width
  let s ← p.head.precision.elim (some s) fun counted => s.count? .precision counted
  s.letter? p.letter

def serveAll? (ps : List Place) (s : Supply) : Option Supply :=
  ps.foldlM (fun s p => p.serve? s) s

section Fill

variable {s : Supply} {cs : List Char} {c : Char}

theorem readFlags_rest (spec : Spec) (cs : List Char) :
    (readFlags spec cs).2 = cs.dropWhile isFlag := by
  fun_induction readFlags spec cs with
  | case1 spec cs ih => rw [ih]; rfl
  | case2 spec cs ih => rw [ih]; rfl
  | case3 spec cs ih => rw [ih]; rfl
  | case4 spec cs ih => rw [ih]; rfl
  | case5 spec cs ih => rw [ih]; rfl
  | case6 spec cs hminus hplus hblank hsharp hzero =>
    cases cs with
    | nil => rfl
    | cons c cs =>
      have hflag : ¬ isFlag c = true := by
        rw [isFlag_iff]
        rintro (rfl | rfl | rfl | rfl | rfl)
        · exact hminus cs rfl
        · exact hplus cs rfl
        · exact hblank cs rfl
        · exact hsharp cs rfl
        · exact hzero cs rfl
      exact (List.dropWhile_cons_of_neg hflag).symm

theorem readCount_digits (n : Count) (s : Supply) (hcs : cs.head? ≠ some '*') : readCount n s cs =
    if cs.takeWhile isDigit = [] then .ok (none, s, cs)
    else if natOf (cs.takeWhile isDigit) < n.bound then
      .ok (some (natOf (cs.takeWhile isDigit)), s, cs.dropWhile isDigit)
    else .error (.countTooBig n) := by
  unfold readCount
  split
  · exact absurd rfl hcs
  · split
    next hnil => rw [if_pos hnil]
    next hne => rw [if_neg hne]

theorem readCount_eq (n : Count) (s : Supply) (cs : List Char) :
    readCount n s cs = match readCount n s (counted cs) with
      | .ok (k, s, _) => .ok (k, s, uncounted cs)
      | .error e => .error e := by
  by_cases hstar : cs.head? = some '*'
  · obtain ⟨rest, rfl⟩ := List.head?_eq_some_iff.1 hstar
    simp only [readCount, counted, uncounted]
    split
    · rfl
    · split <;> rfl
    · rfl
    · rfl
  · have hdigits : (cs.takeWhile isDigit).head? ≠ some '*' := by
      intro h
      have hmem := List.mem_of_mem_head? h
      exact absurd (List.all_eq_true.1 List.all_takeWhile _ hmem) (by decide)
    have hrest : (cs.takeWhile isDigit).dropWhile isDigit = [] := by
      rw [List.dropWhile_eq_nil_iff]
      exact fun c hc => List.all_eq_true.1 List.all_takeWhile c hc
    have hrun : (cs.takeWhile isDigit).takeWhile isDigit = cs.takeWhile isDigit := by
      rw [List.takeWhile_eq_self_iff]
      exact fun c hc => List.all_eq_true.1 List.all_takeWhile c hc
    rw [counted_digits hstar, uncounted_digits hstar, readCount_digits n s hstar,
      readCount_digits n s hdigits, hrun]
    by_cases hnil : cs.takeWhile isDigit = []
    · have hcs := List.takeWhile_append_dropWhile (p := isDigit) (l := cs)
      rw [hnil, List.nil_append] at hcs
      rw [if_pos hnil, if_pos hnil, hcs]
    · rw [if_neg hnil, if_neg hnil]
      split <;> rfl

theorem readPrecision_eq (s : Supply) (spec : Spec) (cs : List Char) :
    readPrecision s spec cs = match (splitPrecision cs).1 with
      | none => .ok (spec, s, (splitPrecision cs).2)
      | some ds => match readCount .precision s ds with
        | .ok (k, s, _) =>
          .ok ({ spec with precision := some (k.getD 0).toNat }, s, (splitPrecision cs).2)
        | .error e => .error e := by
  by_cases hdot : cs.head? = some '.'
  · obtain ⟨rest, rfl⟩ := List.head?_eq_some_iff.1 hdot
    simp only [readPrecision, splitPrecision]
    rw [readCount_eq]
    cases readCount .precision s (counted rest) <;> rfl
  · have hplain : splitPrecision cs = (none, cs) := by
      unfold splitPrecision
      split
      · exact absurd rfl hdot
      · rfl
    rw [hplain]
    unfold readPrecision
    split
    · exact absurd rfl hdot
    · rfl

theorem isOk_map {ε α β : Type} (f : α → β) (r : Except ε α) : (r.map f).isOk = r.isOk := by
  cases r <;> rfl

theorem isOk_convert (spec : Spec) (c : Char) (i : Nat) (v : Operand) :
    (convert spec c i v).isOk = (convert {} c 0 v).isOk := by
  unfold convert
  split
  iterate 3 simp only [Except.isOk, Except.toBool]
  iterate 13 rw [isOk_map, isOk_map]
  · rfl

theorem convert_unsupported (hc : isNotation c = false) (spec : Spec) (i : Nat) (v : Operand) :
    convert spec c i v = .error (.unsupported c i) := by
  have hno : ¬ isNotation c = true := by simp [hc]
  unfold convert
  split
  case h_17 => rfl
  all_goals exact absurd rfl hno

def fillLetter (total : Nat) (s : Supply) (spec : Spec) (cs : List Char) :
    Except TemplateError (List Char × Supply × List Char) :=
  match skipSize cs with
  | [] => .error .incomplete
  | c :: rest => do
    let (v, s) ← s.next
    let shown ← convert spec c (total - rest.length - 1) v
    return (shown, s, rest)

def fillFlags (total : Nat) (s : Supply) (cs : List Char) :
    Except TemplateError (List Char × Supply × List Char) := do
  let (spec, cs) := readFlags {} cs
  let (width, s, cs) ← readCount .width s cs
  let (spec, s, cs) ← readPrecision s (withWidth spec width) cs
  fillLetter total s spec cs

theorem fillPlace_eq (total : Nat) (s : Supply) (cs : List Char) : fillPlace total s cs =
    (readPlaceName s cs).bind fun (s, cs) => fillFlags total s cs := rfl

theorem fillLetter_left (total : Nat) (s : Supply) (spec : Spec) (h : Head) (cs : List Char) :
    (fillLetter total s spec cs).toOption.map Prod.snd =
      (letterAt? h (skipSize cs)).bind fun (p, rest) => (s.letter? p.letter).map (·, rest) := by
  unfold fillLetter
  cases skipSize cs with
  | nil => rfl
  | cons c rest =>
    cases hnext : s.next with
    | error e =>
      cases hc : isNotation c <;>
        simp [letterAt?, Supply.letter?, hnext, hc, bind, Except.bind, Except.toOption]
    | ok r =>
      cases hc : isNotation c with
      | false =>
        simp [letterAt?, hc, convert_unsupported hc, bind, Except.bind, Except.toOption]
      | true =>
        have hok := isOk_convert spec c (total - rest.length - 1) r.1
        cases hconvert : convert spec c (total - rest.length - 1) r.1 with
        | error e =>
          have hno : (convert {} c 0 r.1).isOk = false := by rw [← hok, hconvert]; rfl
          simp [letterAt?, Supply.letter?, hnext, hc, hno, hconvert, bind, Except.bind,
            Except.toOption]
        | ok shown =>
          have hyes : (convert {} c 0 r.1).isOk = true := by rw [← hok, hconvert]; rfl
          simp [letterAt?, Supply.letter?, hnext, hc, hyes, hconvert, bind, Except.bind,
            Except.toOption, pure, Except.pure]

theorem letterAt?_serve (h : Head) (cs : List Char) (s : Supply) :
    ((letterAt? h cs).bind fun (p, rest) => (p.serve? s).map (·, rest)) =
      (s.named? h.name).bind fun s => (s.count? .width h.width).bind fun s =>
        (h.precision.elim (some s) fun counted => s.count? .precision counted).bind fun s =>
          (letterAt? h cs).bind fun (p, rest) => (s.letter? p.letter).map (·, rest) := by
  cases cs with
  | nil => simp [letterAt?]
  | cons c cs =>
    cases hc : isNotation c <;> simp [letterAt?, hc, Place.serve?, Option.map_bind]

theorem fillFlags_left (total : Nat) {s₀ s₁ : Supply} {name : Option (List Char)}
    (hname : s₀.named? name = some s₁) (cs : List Char) :
    (fillFlags total s₁ cs).toOption.map Prod.snd =
      (Reading.flagsAt? { name := name } cs).bind fun (p, rest) => (p.serve? s₀).map (·, rest) := by
  have hfill : fillFlags total s₁ cs = (readCount .width s₁ (readFlags {} cs).2).bind fun r =>
      (readPrecision r.2.1 (withWidth (readFlags {} cs).1 r.1) r.2.2).bind fun q =>
        fillLetter total q.2.1 q.1 q.2.2 := rfl
  rw [hfill, flagsAt?_eq, readFlags_rest, readCount_eq, letterAt?_serve, hname]
  cases hwidth : readCount .width s₁ (counted (cs.dropWhile isFlag)) with
  | error e => simp [Supply.count?, hwidth, Except.bind, Except.toOption]
  | ok r =>
    obtain ⟨width, s, rest⟩ := r
    have hcount : s₁.count? .width (counted (cs.dropWhile isFlag)) = some s := by
      rw [Supply.count?, hwidth]
    simp only [Except.bind, Option.bind_some, hcount]
    rw [readPrecision_eq]
    cases (splitPrecision (uncounted (cs.dropWhile isFlag))).1 with
    | none => exact fillLetter_left total s _ _ _
    | some ds =>
      cases hprecision : readCount .precision s ds with
      | error e => simp [Supply.count?, hprecision, Except.toOption]
      | ok r =>
        simp only [Option.elim_some, Supply.count?, hprecision, Option.bind_some]
        exact fillLetter_left total r.2.1 _ _ _

theorem flagsAt?_unserved {name : Option (List Char)} (hname : s.named? name = none)
    (cs : List Char) : ((Reading.flagsAt? { name := name } cs).bind fun (p, rest) =>
      (p.serve? s).map (·, rest)) = none := by
  rw [flagsAt?_eq, letterAt?_serve, hname]
  rfl

theorem fillPlace_left (total : Nat) (s : Supply) (cs : List Char) :
    (fillPlace total s cs).toOption.map Prod.snd =
      (Reading.placeAt? cs).bind fun (p, rest) => (p.serve? s).map (·, rest) := by
  rw [fillPlace_eq]
  by_cases hopen : cs.head? = some '('
  · obtain ⟨rest, rfl⟩ := List.head?_eq_some_iff.1 hopen
    rw [Reading.placeAt?, readPlaceName]
    cases hread : readName 0 rest with
    | none => cases s.names <;> rfl
    | some r =>
      obtain ⟨name, after⟩ := r
      rw [Option.bind_some]
      cases hnames : s.names with
      | none =>
        have hname : s.named? (some name) = none := by simp [Supply.named?, hnames]
        exact (flagsAt?_unserved hname after).symm
      | some fields =>
        cases hvalue : fields.lookup (String.ofList name) with
        | none =>
          have hname : s.named? (some name) = none := by simp [Supply.named?, hnames, hvalue]
          simpa [hvalue, Except.bind, Except.toOption] using (flagsAt?_unserved hname after).symm
        | some v =>
          have hname : s.named? (some name) = some ⟨[v], some fields⟩ := by
            simp [Supply.named?, hnames, hvalue]
          simpa [hvalue, Except.bind] using fillFlags_left total hname after
  · have hplain : readPlaceName s cs = .ok (s, cs) := by
      unfold readPlaceName
      split
      · exact absurd rfl hopen
      · rfl
    have hplace : Reading.placeAt? cs = Reading.flagsAt? {} cs := by
      unfold Reading.placeAt?
      split
      · exact absurd rfl hopen
      · rfl
    have hname : s.named? none = some s := rfl
    rw [hplain, hplace]
    exact fillFlags_left total hname cs

theorem serveAll?_cons (p : Place) (ps : List Place) (s : Supply) :
    serveAll? (p :: ps) s = (p.serve? s).bind (serveAll? ps) :=
  List.foldlM_cons

theorem fillPlace_ok {total : Nat} {shown : List Char} {s' : Supply} {rest : List Char}
    (h : fillPlace total s cs = .ok (shown, s', rest)) :
    ∃ p, Reading.placeAt? cs = some (p, rest) ∧ p.serve? s = some s' := by
  have hleft := fillPlace_left total s cs
  rw [h] at hleft
  obtain ⟨⟨p, after⟩, hplace, hserve⟩ := Option.bind_eq_some_iff.1 hleft.symm
  obtain ⟨s₁, hp, hs₁⟩ := Option.map_eq_some_iff.1 hserve
  cases hs₁
  exact ⟨p, hplace, hp⟩

theorem fillPlace_error {total : Nat} {e : TemplateError} (h : fillPlace total s cs = .error e)
    {p : Place} {rest : List Char} (hplace : Reading.placeAt? cs = some (p, rest)) :
    p.serve? s = none := by
  have hleft := fillPlace_left total s cs
  rw [h, hplace] at hleft
  cases hp : p.serve? s with
  | none => rfl
  | some s' => simp [hp, Except.toOption] at hleft

theorem isOk_fillEnd (s : Supply) :
    (if s.isSpent = true then Except.ok [] else .error TemplateError.tooMany :
      Except TemplateError (List Char)).isOk = s.isSpent := by
  cases s.isSpent <;> rfl

/-- A template can be filled exactly when all its places are whole and can be filled from the
supply, one after the other, so that nothing is left over that has no name. -/
theorem isOk_fillFrom (total : Nat) {fuel : Nat} (s : Supply) (hfuel : cs.length < fuel) :
    (fillFrom total fuel s cs).isOk = true ↔
      ∃ ps s', Reading.places? .text cs = some ps ∧ serveAll? ps s = some s' ∧
        s'.isSpent = true := by
  induction fuel generalizing s cs with
  | zero => omega
  | succ fuel ih =>
    unfold fillFrom
    split
    · rw [← Supply.isSpent, isOk_fillEnd]
      simp [Reading.places?, serveAll?]
    next rest =>
      rw [isOk_map, places?_percents]
      exact ih s (by simp at hfuel; omega)
    next rest hrest =>
      have hhead : rest.head? ≠ some '%' := by
        intro h
        obtain ⟨after, rfl⟩ := List.head?_eq_some_iff.1 h
        exact hrest after rfl
      rw [places?_place hhead]
      cases hfill : fillPlace total s rest with
      | error e =>
        -- The first place cannot be filled, so it does not matter what follows it.
        refine iff_of_false (by simp [bind, Except.bind, Except.isOk, Except.toBool]) ?_
        rintro ⟨ps, s', hps, hs, -⟩
        obtain ⟨⟨p, after⟩, hplace, hrest⟩ := Option.bind_eq_some_iff.1 hps
        obtain ⟨qs, -, rfl⟩ := Option.map_eq_some_iff.1 hrest
        rw [serveAll?_cons, fillPlace_error hfill hplace] at hs
        cases hs
      | ok r =>
        obtain ⟨shown, s₁, after⟩ := r
        obtain ⟨p, hplace, hp⟩ := fillPlace_ok hfill
        have hlength := length_of_placeAt? hplace
        change ((fillFrom total fuel s₁ after).map (shown ++ ·)).isOk = true ↔ _
        rw [isOk_map, ih s₁ (by simp at hfuel; omega), hplace]
        simp [goOn, serveAll?_cons, hp]
    next c rest hpair hplace =>
      have hc : c ≠ '%' := by
        rintro rfl
        exact hplace rfl
      rw [isOk_map, places?_literal hc]
      exact ih s (by simp at hfuel; omega)

theorem isOk_fill {template : String} {arguments : Arguments} :
    (fill template arguments).isOk = true ↔
      ∃ ps s', places? template = some ps ∧
        serveAll? ps (.ofArguments arguments) = some s' ∧
        s'.isSpent = true := by
  rw [fill, fillWith, isOk_map]
  exact isOk_fillFrom _ _ (Nat.lt_succ_self _)

end Fill

def Operand.counts (n : Count) : Operand → Bool
  | .value (.int k) => -n.bound ≤ k && k < n.bound
  | .value (.bool _) => true
  | _ => false

theorem count?_star (n : Count) (rest : List Char) (s : Supply) :
    s.count? n ('*' :: rest) = match s.queue with
      | v :: vs => if v.counts n then some { s with queue := vs } else none
      | [] => none := by
  obtain ⟨queue, names⟩ := s
  cases queue with
  | nil => rfl
  | cons v vs =>
    cases v with
    | group us => rfl
    | value v =>
      cases v with
      | int k =>
        by_cases hk : -n.bound ≤ k ∧ k < n.bound <;>
          simp [Supply.count?, readCount, Supply.next, Operand.counts, hk]
      | _ => rfl

theorem count?_digits {n : Count} {counted : List Char} {s : Supply}
    (h : counted.head? ≠ some '*') : s.count? n counted =
      if natOf (counted.takeWhile isDigit) < n.bound then some s else none := by
  rw [Supply.count?, readCount_digits n s h]
  by_cases hnil : counted.takeWhile isDigit = []
  · rw [if_pos hnil, hnil]
    cases n <;> rfl
  · rw [if_neg hnil]
    by_cases hk : natOf (counted.takeWhile isDigit) < n.bound <;> simp [hk]

def stars : List Char → Nat
  | '*' :: _ => 1
  | _ => 0

def Place.demand (p : Place) : Nat :=
  stars p.head.width + stars (p.head.precision.getD []) + 1

section Demand

variable {s s' : Supply} {p : Place} {ps ps' : List Place}

theorem count?_left {n : Count} {counted : List Char} (h : s.count? n counted = some s') :
    s'.names = s.names ∧ s.queue.length = stars counted + s'.queue.length := by
  by_cases hstar : counted.head? = some '*'
  · obtain ⟨rest, rfl⟩ := List.head?_eq_some_iff.1 hstar
    rw [count?_star] at h
    split at h
    next v vs hqueue =>
      split at h <;> cases h
      simp [hqueue, stars, Nat.add_comm]
    · cases h
  · rw [count?_digits hstar] at h
    have hnone : stars counted = 0 := by
      unfold stars
      split
      · exact absurd rfl hstar
      · rfl
    split at h <;> cases h
    simp [hnone]

theorem letter?_left {c : Char} (h : s.letter? c = some s') :
    s'.names = s.names ∧ s.queue.length = 1 + s'.queue.length := by
  obtain ⟨queue, names⟩ := s
  cases queue with
  | nil => cases h
  | cons v vs =>
    simp only [Supply.letter?, Supply.next] at h
    split at h <;> cases h
    simp [Nat.add_comm]

theorem named?_left {name : Option (List Char)} (h : s.named? name = some s') :
    s'.names = s.names ∧ (s.names = none → name = none ∧ s' = s) := by
  cases name with
  | none =>
    cases h
    exact ⟨rfl, fun _ => ⟨rfl, rfl⟩⟩
  | some name =>
    obtain ⟨fields, hfields, hv⟩ := Option.bind_eq_some_iff.1 h
    obtain ⟨v, -, rfl⟩ := Option.map_eq_some_iff.1 hv
    refine ⟨rfl, fun hnone => ?_⟩
    rw [hfields] at hnone
    cases hnone

theorem serve?_left (h : p.serve? s = some s') : s'.names = s.names ∧
    (s.names = none → p.head.name = none ∧ s.queue.length = p.demand + s'.queue.length) := by
  obtain ⟨s₁, hname, h⟩ := Option.bind_eq_some_iff.1 h
  obtain ⟨s₂, hwidth, h⟩ := Option.bind_eq_some_iff.1 h
  obtain ⟨s₃, hprecision, hletter⟩ := Option.bind_eq_some_iff.1 h
  obtain ⟨hnames₁, hplain⟩ := named?_left hname
  obtain ⟨hnames₂, hlength₂⟩ := count?_left hwidth
  obtain ⟨hnames₄, hlength₄⟩ := letter?_left hletter
  have hprecision' : s₃.names = s₂.names ∧
      s₂.queue.length = stars (p.head.precision.getD []) + s₃.queue.length := by
    cases hcounted : p.head.precision with
    | none =>
      rw [hcounted] at hprecision
      cases hprecision
      simp [stars]
    | some counted =>
      rw [hcounted] at hprecision
      exact count?_left hprecision
  obtain ⟨hnames₃, hlength₃⟩ := hprecision'
  refine ⟨by rw [hnames₄, hnames₃, hnames₂, hnames₁], fun hnone => ?_⟩
  obtain ⟨hunnamed, rfl⟩ := hplain hnone
  refine ⟨hunnamed, ?_⟩
  rw [Place.demand]
  omega

theorem serveAll?_left (h : serveAll? ps s = some s') : s'.names = s.names ∧
    (s.names = none → (∀ p ∈ ps, p.head.name = none) ∧
      s.queue.length = (ps.map Place.demand).sum + s'.queue.length) := by
  induction ps generalizing s with
  | nil =>
    cases h
    simp
  | cons p ps ih =>
    rw [serveAll?_cons] at h
    obtain ⟨s₁, hp, hps⟩ := Option.bind_eq_some_iff.1 h
    obtain ⟨hnames₁, hserved⟩ := serve?_left hp
    obtain ⟨hnames, hrest⟩ := ih hps
    refine ⟨hnames.trans hnames₁, fun hnone => ?_⟩
    obtain ⟨hname, hlength⟩ := hserved hnone
    obtain ⟨hunnamed, hlength'⟩ := hrest (hnames₁.trans hnone)
    refine ⟨List.forall_mem_cons.2 ⟨hname, hunnamed⟩, ?_⟩
    rw [List.map_cons, List.sum_cons]
    omega

theorem demand_of_spent (hnames : s.names = none) (h : serveAll? ps s = some s')
    (hspent : s'.isSpent = true) :
    (∀ p ∈ ps, p.head.name = none) ∧ (ps.map Place.demand).sum = s.queue.length := by
  obtain ⟨hsame, hserved⟩ := serveAll?_left h
  obtain ⟨hunnamed, hlength⟩ := hserved hnames
  have hqueue : s'.queue = [] := by
    rw [Supply.isSpent, hsame, hnames] at hspent
    simpa using hspent
  rw [hqueue] at hlength
  exact ⟨hunnamed, hlength.symm⟩

theorem eq_of_demand (h : ps'.Sublist ps)
    (hsum : (ps.map Place.demand).sum ≤ (ps'.map Place.demand).sum) : ps' = ps := by
  induction h with
  | slnil => rfl
  | @cons ps' ps p hsub ih =>
    have hle := (hsub.map Place.demand).sum_le_sum fun _ _ => Nat.zero_le _
    rw [List.map_cons, List.sum_cons, Place.demand] at hsum
    omega
  | @cons_cons ps' ps p hsub ih =>
    rw [List.map_cons, List.map_cons, List.sum_cons, List.sum_cons] at hsum
    rw [ih (by omega)]

end Demand

end Folio.Log
