import Mathlib.Data.List.Basic
import Mathlib.Order.Lattice

namespace Folio

section Keys

variable {α κ : Type} [LinearOrder κ] {key : α → κ} {listed listed' given : List α}

theorem mem_of_filters
    (h : ∀ k, listed.filter (key · = k) = listed'.filter (key · = k)) (a : α) :
    a ∈ listed ↔ a ∈ listed' := by
  simpa using congrArg (a ∈ ·) (h (key a))

theorem eq_of_filters (key : α → κ) (h : listed.Pairwise fun a b => key a ≤ key b)
    (h' : listed'.Pairwise fun a b => key a ≤ key b)
    (hfilter : ∀ k, listed.filter (key · = k) = listed'.filter (key · = k)) :
    listed = listed' := by
  induction listed generalizing listed' with
  | nil =>
    refine (List.eq_nil_iff_forall_not_mem.2 fun a ha => ?_).symm
    cases (mem_of_filters hfilter a).2 ha
  | cons a listed ih =>
    cases listed' with
    | nil => cases (mem_of_filters hfilter a).1 List.mem_cons_self
    | cons b listed' =>
      obtain ⟨ha, hlisted⟩ := List.pairwise_cons.1 h
      obtain ⟨hb, hlisted'⟩ := List.pairwise_cons.1 h'
      have hle : key a ≤ key b := by
        obtain rfl | hmem := List.mem_cons.1 ((mem_of_filters hfilter b).2 List.mem_cons_self)
        · exact le_refl _
        · exact ha b hmem
      have hge : key b ≤ key a := by
        obtain rfl | hmem := List.mem_cons.1 ((mem_of_filters hfilter a).1 List.mem_cons_self)
        · exact le_refl _
        · exact hb a hmem
      -- Of their common key, the heads are the first items on both sides.
      have hhead := hfilter (key a)
      simp only [List.filter_cons, le_antisymm hge hle, decide_true, if_true, List.cons.injEq]
        at hhead
      obtain ⟨rfl, -⟩ := hhead
      refine congrArg (a :: ·) (ih hlisted hlisted' fun k => ?_)
      have hk := hfilter k
      rw [List.filter_cons, List.filter_cons] at hk
      split at hk
      · exact (List.cons.inj hk).2
      · exact hk

theorem key_trans (key : α → κ) (a b c : α) (hab : decide (key a ≤ key b) = true)
    (hbc : decide (key b ≤ key c) = true) : decide (key a ≤ key c) = true :=
  decide_eq_true ((of_decide_eq_true hab).trans (of_decide_eq_true hbc))

theorem key_total (key : α → κ) (a b : α) :
    (decide (key a ≤ key b) || decide (key b ≤ key a)) = true := by
  simpa using le_total (key a) (key b)

theorem pairwise_sorted (key : α → κ) (given : List α) :
    (given.mergeSort fun a b => key a ≤ key b).Pairwise fun a b => key a ≤ key b := by
  simpa using List.pairwise_mergeSort (key_trans key) (key_total key) given

theorem filter_sorted (key : α → κ) (given : List α) (k : κ) :
    (given.mergeSort fun a b => key a ≤ key b).filter (key · = k) = given.filter (key · = k) := by
  have hties : (given.filter (key · = k)).Pairwise fun a b => decide (key a ≤ key b) = true := by
    refine List.pairwise_of_forall_mem_list fun a ha b hb => ?_
    have ha' := of_decide_eq_true (List.mem_filter.1 ha).2
    have hb' := of_decide_eq_true (List.mem_filter.1 hb).2
    exact decide_eq_true (ha'.trans hb'.symm).le
  -- Items of one key need no sorting, so they stay behind one another.
  have hsub := (List.sublist_mergeSort (key_trans key) (key_total key) hties
    List.filter_sublist).filter (key · = k)
  simp only [List.filter_filter, Bool.and_self] at hsub
  exact (hsub.eq_of_length ((List.mergeSort_perm given _).filter _).length_eq.symm).symm

/-- Given items from the greatest key to the least, those of one key as they were given. -/
structure GreatestFirst (key : α → κ) (listed given : List α) : Prop where
  perm : listed.Perm given
  ordered : listed.Pairwise fun a b => key b ≤ key a
  stable : ∀ k, listed.filter (key · = k) = given.filter (key · = k)

theorem GreatestFirst.unique (h : GreatestFirst key listed given)
    (h' : GreatestFirst key listed' given) : listed = listed' :=
  eq_of_filters (fun a => OrderDual.toDual (key a)) h.ordered h'.ordered
    fun k => (h.stable k).trans (h'.stable k).symm

theorem greatestFirst_sorted (key : α → κ) (given : List α) :
    GreatestFirst key (given.mergeSort fun a b => key b ≤ key a) given where
  perm := List.mergeSort_perm given _
  ordered := pairwise_sorted (fun a => OrderDual.toDual (key a)) given
  stable := filter_sorted (fun a => OrderDual.toDual (key a)) given

end Keys

end Folio
