import Folio.Proofs.Text.Blank
import Folio.Time.Iso

namespace Folio.Time

open Folio.Number

theorem digit?_digitChar : ∀ d < 10, digit? d.digitChar = some d := by decide

theorem padded_of_lt_ten {d : Nat} (h : d < 10) : padded 1 d = [d.digitChar] := by
  rw [padded, Nat.toDigits_of_lt_base h]
  rfl

theorem padded_succ {width : Nat} (hw : 0 < width) (n : Nat) :
    padded (width + 1) n = padded width (n / 10) ++ [(n % 10).digitChar] := by
  by_cases h : n < 10
  · obtain ⟨w, rfl⟩ := Nat.exists_eq_succ_of_ne_zero (Nat.ne_of_gt hw)
    rw [padded, padded, Nat.div_eq_of_lt h, Nat.mod_eq_of_lt h, Nat.toDigits_of_lt_base h]
    simp [List.replicate_succ']
  · rw [padded, padded, Nat.toDigits_of_base_le (by decide) (Nat.le_of_not_lt h)]
    simp

theorem length_padded {width n : Nat} (hw : 0 < width) (h : n < 10 ^ width) :
    (padded width n).length = width := by
  rw [padded, List.length_append, List.length_replicate]
  exact Nat.sub_add_cancel ((Nat.length_toDigits_le_iff (by decide) hw).2 h)

theorem isDigit_padded (width n : Nat) : ∀ c ∈ padded width n, isDigit c = true := by
  intro c hc
  have hd : c.isDigit = true := by
    obtain hzero | hdigit := List.mem_append.1 hc
    · rw [(List.mem_replicate.1 hzero).2]
      rfl
    · exact Nat.isDigit_of_mem_toDigits (by decide) (by decide) hdigit
  have hrange : '0' ≤ c ∧ c ≤ '9' := by simpa [Char.isDigit, Char.le_def] using hd
  rw [isDigit, digit?, if_pos hrange]
  rfl

theorem natOf_concat (cs : List Char) {d : Nat} (h : d < 10) :
    natOf (cs ++ [d.digitChar]) = natOf cs * 10 + d := by
  simp [natOf, digit?_digitChar d h]

theorem natOf_padded {width n : Nat} (hw : 0 < width) (h : n < 10 ^ width) :
    natOf (padded width n) = n := by
  induction width generalizing n with
  | zero => cases hw
  | succ w ih =>
    obtain rfl | hw := Nat.eq_zero_or_pos w
    · rw [padded_of_lt_ten h, ← List.nil_append [n.digitChar], natOf_concat [] h]
      simp [natOf]
    · have hn : n / 10 < 10 ^ w := by
        rw [Nat.pow_succ] at h
        omega
      rw [padded_succ hw, natOf_concat _ (Nat.mod_lt n (by decide)), ih hw hn]
      omega

theorem padded_two {n : Nat} (h : n < 100) :
    padded 2 n = [(n / 10).digitChar, (n % 10).digitChar] := by
  rw [padded_succ (by decide), padded_of_lt_ten (by omega)]
  rfl

theorem padded_add_two {width n : Nat} (hw : 0 < width) :
    padded (width + 2) n = padded width (n / 100) ++ padded 2 (n % 100) := by
  rw [padded_two (Nat.mod_lt n (by decide)), padded_succ (by omega), padded_succ hw,
    List.append_assoc, Nat.div_div_eq_div_mul]
  have htens : n / 10 % 10 = n % 100 / 10 := by omega
  have hunits : n % 10 = n % 100 % 10 := by omega
  rw [htens, hunits]
  rfl

theorem twoDigits?_padded {n : Nat} (h : n < 100) (cs : List Char) :
    twoDigits? (padded 2 n ++ cs) = some (n, cs) := by
  simp only [padded_two h, List.cons_append, List.nil_append, twoDigits?,
    digit?_digitChar (n / 10) (by omega), digit?_digitChar (n % 10) (by omega)]
  rw [Nat.div_add_mod]

theorem Date.of?_self (d : Date) : Date.of? d.year d.month d.day = some d :=
  dif_pos d.valid

theorem Moment.of?_self (t : Moment) :
    Moment.of? t.date t.hour t.minute t.second t.micro t.offset = some t :=
  dif_pos t.valid

theorem readDate?_iso (d : Date) (cs : List Char) : readDate? (d.iso ++ cs) = some (d, cs) := by
  have hv := d.valid
  simp only [isDate, Bool.and_eq_true, decide_eq_true_eq] at hv
  obtain ⟨⟨⟨⟨⟨-, hyear⟩, -⟩, hmonth⟩, -⟩, hday⟩ := hv
  have hdays : daysInMonth d.year d.month ≤ 31 := by
    unfold daysInMonth
    repeat' split
    all_goals decide
  have hcentury : 100 * (d.year / 100) + d.year % 100 = d.year := Nat.div_add_mod d.year 100
  simp only [Date.iso, padded_add_two (by decide : 0 < 2), readDate?, List.append_assoc,
    List.cons_append, twoDigits?_padded (by omega : d.year / 100 < 100),
    twoDigits?_padded (by omega : d.year % 100 < 100), twoDigits?_padded (by omega : d.month < 100),
    twoDigits?_padded (by omega : d.day < 100), Option.bind_eq_bind, Option.bind_some, hcentury,
    Date.of?_self]
  rfl

def isoZone : Option Int → List Char
  | none => []
  | some 0 => ['Z']
  | some minutes => Moment.isoOffset minutes

def EndsTime (cs : List Char) : Prop :=
  ∀ c ∈ cs.head?, c ≠ '.' ∧ c ≠ ',' ∧ isDigit c = false

theorem endsTime_isoZone (offset : Option Int) : EndsTime (isoZone offset) := by
  unfold isoZone
  split
  · simp [EndsTime]
  · simp [EndsTime]
    decide
  next minutes _ =>
    by_cases hneg : minutes < 0 <;> simp [EndsTime, Moment.isoOffset, hneg] <;> decide

theorem readFraction?_micro {micro : Nat} (h : micro < 1000000) {cs : List Char}
    (hcs : EndsTime cs) :
    readFraction? ((if micro = 0 then [] else '.' :: padded 6 micro) ++ cs) = some (micro, cs) := by
  by_cases hzero : micro = 0
  · rw [if_pos hzero, List.nil_append, hzero]
    cases cs with
    | nil => rfl
    | cons c cs => simp [readFraction?, (hcs c rfl).1, (hcs c rfl).2.1]
  · have hlen : (padded 6 micro).length = 6 := length_padded (by decide) h
    have hne : padded 6 micro ≠ [] := List.ne_nil_of_length_pos (by omega)
    obtain ⟨htake, hdrop⟩ :=
      Text.span_append (isDigit_padded 6 micro) fun c hc => (hcs c hc).2.2
    simp only [if_neg hzero, List.cons_append, readFraction?, true_or, if_true, htake, hdrop,
      List.isEmpty_iff, hne, if_false]
    rw [List.take_append_of_le_length (Nat.le_of_eq hlen.symm), List.take_of_length_le
      (Nat.le_of_eq hlen), natOf_padded (by decide) h]

theorem readOffset?_isoOffset {minutes : Int} (h : isOffset (some minutes) = true) :
    readOffset? (Moment.isoOffset minutes) = some (some minutes) := by
  simp only [isOffset, Bool.and_eq_true, decide_eq_true_eq] at h
  unfold Moment.isoOffset
  dsimp only
  generalize hq : minutes.natAbs / 60 = hours
  generalize hr : minutes.natAbs % 60 = rest
  have hhours : hours < 100 := by omega
  have hsixty : rest < 60 := by omega
  have hread := twoDigits?_padded hhours (':' :: padded 2 rest)
  have hrest := twoDigits?_padded (Nat.lt_trans hsixty (by decide)) []
  rw [List.append_nil] at hrest
  by_cases hneg : minutes < 0
  all_goals
    simp [hneg, readOffset?, guard, hread, hrest, hsixty]
    omega

theorem readOffset?_isoZone {offset : Option Int} (h : isOffset offset = true) :
    readOffset? (isoZone offset) = some offset := by
  unfold isoZone
  split
  · rfl
  · rfl
  · exact readOffset?_isoOffset h

theorem toIso_toList (t : Moment) :
    t.toIso.toList = t.date.iso ++ 'T' :: (t.isoTime ++ isoZone t.offset) := by
  rw [Moment.toIso, String.toList_ofList, List.append_assoc, List.cons_append]
  rfl

theorem readIso?_toIso (t : Moment) : readIso? t.toIso.toList = some t := by
  have hv := t.valid
  simp only [isTime, Bool.and_eq_true, decide_eq_true_eq] at hv
  obtain ⟨⟨⟨⟨hhour, hminute⟩, hsecond⟩, hmicro⟩, hoffset⟩ := hv
  rw [toIso_toList]
  simp [readIso?, guard, readDate?_iso, Moment.isoTime, twoDigits?_padded (by omega : t.hour < 100),
    twoDigits?_padded (by omega : t.minute < 100), twoDigits?_padded (by omega : t.second < 100),
    readSeconds?, readFraction?_micro hmicro (endsTime_isoZone t.offset),
    readOffset?_isoZone hoffset, Moment.of?_self]

theorem Moment.ofText?_toIso (t : Moment) : Moment.ofText? t.toIso = some t := by
  rw [Moment.ofText?, readIso?_toIso]

end Folio.Time
