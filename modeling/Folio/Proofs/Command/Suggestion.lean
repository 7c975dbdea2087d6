import Folio.Command.Suggestion

namespace Folio.Command

open Folio.Text

theorem gather_eq {limit : Int} {found : List String} (hroom : found.length < max 1 limit)
    (lowered : String) (candidates : List String) : gather lowered limit found candidates =
      found ++
        (candidates.filter (isSimilar lowered)).take ((max 1 limit).toNat - found.length) := by
  induction candidates generalizing found with
  | nil => simp [gather]
  | cons c candidates ih =>
    by_cases hc : isSimilar lowered c
    · have hlength : (found ++ [c]).length = found.length + 1 := by simp
      rw [gather, if_pos hc, List.filter_cons_of_pos hc]
      dsimp only
      split
      next hfull =>
        have hlast : (max 1 limit).toNat - found.length = 1 := by omega
        rw [hlast, List.take_succ_cons, List.take_zero]
      next hroom =>
        have hmore : (max 1 limit).toNat - found.length =
            (max 1 limit).toNat - (found ++ [c]).length + 1 := by omega
        rw [ih (by omega), hmore, List.take_succ_cons, List.append_assoc, List.singleton_append]
    · rw [gather, if_neg hc, List.filter_cons_of_neg hc, ih hroom]

def similarAmong (command : String) (candidates : List String) : List String :=
  candidates.filter (isSimilar (lower command))

/-- The first similar candidates are suggested, as many as the limit allows, and one where it allows
none: so a limit of zero is kept only where no candidate is similar, and any other one always. -/
theorem similarTo_eq_take (command : String) (candidates : List String) (limit : Nat) :
    similarTo command candidates limit = (similarAmong command candidates).take (max 1 limit) ∧
    (similarTo command candidates limit = (similarAmong command candidates).take limit ↔
      0 < limit ∨ similarAmong command candidates = []) ∧
    ((similarTo command candidates limit).length ≤ limit ↔
      0 < limit ∨ similarAmong command candidates = []) := by
  have hroom : (([] : List String).length : Int) < max 1 (limit : Int) := by
    rw [List.length_nil]
    omega
  have hsize : (max 1 (limit : Int)).toNat = max 1 limit := by omega
  have hfirst : similarTo command candidates limit =
      (similarAmong command candidates).take (max 1 limit) := by
    rw [similarTo, gather_eq hroom, hsize]
    rfl
  rw [hfirst]
  generalize similarAmong command candidates = similar
  cases limit with
  | zero => cases similar <;> simp
  | succ limit =>
    have hpos : 0 < limit + 1 ∨ similar = [] := .inl limit.succ_pos
    rw [Nat.max_eq_right limit.succ_pos]
    exact ⟨rfl, iff_of_true rfl hpos, iff_of_true (List.length_take_le _ _) hpos⟩

theorem similarTo_no_room : similarTo "helm" ["hello", "help"] 0 = ["hello"] ∧
    (similarAmong "helm" ["hello", "help"]).take 0 = [] := by
  decide +kernel

end Folio.Command
