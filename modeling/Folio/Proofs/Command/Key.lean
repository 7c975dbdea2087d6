import Folio.Proofs.Command.Use
import Folio.Proofs.Lookup
import Folio.Proofs.Sorted

namespace Folio.Command

/-- A way to order items: it asks which of two of them comes first and goes on by the answer. -/
inductive Sorting (ι : Type) where
  | done (order : List ι)
  | ask (i j : ι) (different : i ≠ j) (next : Bool → Sorting ι)

namespace Sorting

variable {ι ε : Type}

def order (before : ι → ι → Bool) : Sorting ι → List ι
  | done order => order
  | ask i j _ next => (next (before i j)).order before

def run (before : ι → ι → Except ε Bool) : Sorting ι → Except ε (List ι)
  | done order => .ok order
  | ask i j _ next => do (next (← before i j)).run before

theorem run_of_answered {before : ι → ι → Except ε Bool} {answer : ι → ι → Bool}
    (h : ∀ i j, i ≠ j → before i j = .ok (answer i j)) (s : Sorting ι) :
    s.run before = .ok (s.order answer) := by
  induction s with
  | done order => rfl
  | ask i j different next ih =>
    rw [run, h i j different]
    exact ih (answer i j)

end Sorting

namespace Flags

section Same

variable {f g : Flags}

theorem mem_entries_iff {name : String} {value : FlagValue} :
    (name, value) ∈ f.entries ↔ f.get? name = some value :=
  (lookup_eq_some_iff_mem f.distinct).symm

theorem perm_iff : f.entries.Perm g.entries ↔ ∀ name, f.get? name = g.get? name := by
  constructor
  · exact lookup_perm f.distinct
  · intro h
    rw [List.perm_ext_iff_of_nodup f.distinct.of_map g.distinct.of_map]
    rintro ⟨name, value⟩
    rw [mem_entries_iff, mem_entries_iff, h name]

theorem same_iff_perm : f.same g = true ↔ f.entries.Perm g.entries := by
  simp only [same, Bool.and_eq_true, beq_iff_eq, List.all_eq_true]
  constructor
  · rintro ⟨hlength, hfound⟩
    have hsub : f.entries ⊆ g.entries := fun e he => mem_entries_iff.2 (hfound e he)
    exact (f.distinct.of_map.subperm hsub).perm_of_length_le hlength.ge
  · intro hperm
    exact ⟨hperm.length_eq, fun e he => mem_entries_iff.1 (hperm.mem_iff.1 he)⟩

end Same

section Order

variable {f g : Flags} {ε : Type} {values : FlagValue → FlagValue → Except ε Bool}

def before (values : FlagValue → FlagValue → Except ε Bool) (a b : String × FlagValue) :
    Except ε Bool :=
  if a.1 = b.1 then values a.2 b.2 else .ok (a.1 < b.1)

theorem before_of_ne {a b : String × FlagValue} (h : a.1 ≠ b.1) :
    before values a b = .ok (decide (a.1 < b.1)) :=
  if_neg h

theorem before_entries (values : FlagValue → FlagValue → Except ε Bool)
    (i j : Fin f.entries.length) (h : i ≠ j) :
    before values f.entries[i] f.entries[j] = .ok (decide (f.entries[i].1 < f.entries[j].1)) := by
  have hentries : f.entries[i] ≠ f.entries[j] := fun he =>
    h (Fin.ext ((List.Nodup.getElem_inj_iff f.distinct.of_map).1 he))
  exact before_of_ne fun hname => hentries
    (List.inj_on_of_nodup_map f.distinct (List.getElem_mem _) (List.getElem_mem _) hname)

theorem sorted_perm (f : Flags) : f.sorted.Perm f.entries :=
  List.mergeSort_perm f.entries _

theorem names_ne {es : List (String × FlagValue)} (h : es.Perm f.entries) :
    es.Pairwise fun a b => a.1 ≠ b.1 :=
  List.pairwise_map.1 ((h.map Prod.fst).nodup_iff.2 f.distinct)

theorem sorted_by_name (f : Flags) : f.sorted.Pairwise fun a b => a.1 < b.1 :=
  ((names_ne (sorted_perm f)).and (pairwise_sorted Prod.fst f.entries)).imp fun h =>
    lt_of_le_of_ne h.2 h.1

theorem eq_of_perm {es es' : List (String × FlagValue)} (hperm : es.Perm es')
    (h : es.Pairwise fun a b => a.1 < b.1) (h' : es'.Pairwise fun a b => a.1 < b.1) : es = es' :=
  hperm.eq_of_pairwise (fun _ _ _ _ hab hba => absurd hab hba.asymm) h h'

theorem sorted_eq_iff : f.sorted = g.sorted ↔ f.entries.Perm g.entries := by
  constructor
  · intro h
    exact (sorted_perm f).symm.trans (h ▸ sorted_perm g)
  · intro hperm
    exact eq_of_perm ((sorted_perm f).trans (hperm.trans (sorted_perm g).symm))
      (sorted_by_name f) (sorted_by_name g)

theorem eq_sorted_iff {es : List (String × FlagValue)} :
    es.Perm f.entries ∧ es.Pairwise (fun a b => before values a b = .ok true) ↔ es = f.sorted := by
  constructor
  · rintro ⟨hperm, hbefore⟩
    refine eq_of_perm (hperm.trans (sorted_perm f).symm) ?_ (sorted_by_name f)
    refine ((names_ne hperm).and hbefore).imp fun h => ?_
    have hlt := h.2
    rw [before_of_ne h.1] at hlt
    exact of_decide_eq_true (Except.ok.inj hlt)
  · rintro rfl
    refine ⟨sorted_perm f, (sorted_by_name f).imp fun h => ?_⟩
    rw [before_of_ne h.ne, decide_eq_true h]

end Order

end Flags

namespace Invocation

theorem same_iff {i j : Invocation} : i.same j = true ↔
    i.command = j.command ∧ i.args = j.args ∧ i.flags.entries.Perm j.flags.entries := by
  rw [same, Bool.and_eq_true, Bool.and_eq_true, beq_iff_eq, beq_iff_eq, Flags.same_iff_perm,
    and_assoc]

theorem key_eq_iff {i j : Invocation} : i.key = j.key ↔
    i.command = j.command ∧ i.args = j.args ∧ i.flags.entries.Perm j.flags.entries := by
  rw [key, key, Prod.mk.injEq, Prod.mk.injEq, Flags.sorted_eq_iff]

theorem same_ofList_iff {command : String} {args : List String}
    {given given' : List (String × FlagValue)} :
    same ⟨command, args, .ofList given⟩ ⟨command, args, .ofList given'⟩ = true ↔
      ∀ name, given.reverse.lookup name = given'.reverse.lookup name := by
  rw [same_iff, Flags.perm_iff]
  simp only [Flags.get?_ofList, true_and]

/-- Two invocations are the same just when their keys are equal. A key has the flags in the one
order in which each comes before those behind it, and whoever looks for that order gets all answers
from the names, whether or not the values can be compared. Flags that are given one by one make the
same invocation just when the last value of each name is the same, as it is in any other order of
flags that are given once. -/
theorem same_iff_key_eq :
    (∀ i j : Invocation, i.same j = true ↔ i.key = j.key) ∧
    (∀ (f : Flags) {ε : Type} (values : FlagValue → FlagValue → Except ε Bool),
      (∀ s : Sorting (Fin f.entries.length),
        s.run (fun i j => Flags.before values f.entries[i] f.entries[j]) =
          .ok (s.order fun i j => f.entries[i].1 < f.entries[j].1)) ∧
      ∀ es, es.Perm f.entries ∧ es.Pairwise (fun a b => Flags.before values a b = .ok true) ↔
        es = f.sorted) ∧
    ∀ (command : String) (args : List String) (given given' : List (String × FlagValue)),
      (same ⟨command, args, .ofList given⟩ ⟨command, args, .ofList given'⟩ = true ↔
        ∀ name, given.reverse.lookup name = given'.reverse.lookup name) ∧
      ((given.map Prod.fst).Nodup → given.Perm given' →
        same ⟨command, args, .ofList given⟩ ⟨command, args, .ofList given'⟩ = true ∧
        key ⟨command, args, .ofList given⟩ = key ⟨command, args, .ofList given'⟩) := by
  have hkey : ∀ i j : Invocation, i.same j = true ↔ i.key = j.key :=
    fun i j => same_iff.trans key_eq_iff.symm
  refine ⟨hkey, ?_, ?_⟩
  · intro f ε values
    exact ⟨Sorting.run_of_answered (Flags.before_entries values), fun es => Flags.eq_sorted_iff⟩
  · intro command args given given'
    refine ⟨same_ofList_iff, fun hnames hperm => ?_⟩
    have hreverse : given.reverse.Perm given'.reverse :=
      (List.reverse_perm given).trans (hperm.trans (List.reverse_perm given').symm)
    have hsame : same ⟨command, args, .ofList given⟩ ⟨command, args, .ofList given'⟩ = true :=
      same_ofList_iff.2 (lookup_perm (by simpa using hnames) hreverse)
    exact ⟨hsame, (hkey _ _).1 hsame⟩

def mixedFlags : List (String × FlagValue) :=
  [("to", .text "all"), ("all", .switch true), ("", .text "")]

theorem same_iff_key_eq_mixed :
    (mixedFlags.map Prod.fst).Nodup ∧ mixedFlags.Perm mixedFlags.reverse ∧
    same ⟨"go", ["x"], .ofList mixedFlags⟩ ⟨"go", ["x"], .ofList mixedFlags.reverse⟩ = true ∧
    key ⟨"go", ["x"], .ofList mixedFlags⟩ = key ⟨"go", ["x"], .ofList mixedFlags.reverse⟩ ∧
    (Flags.ofList mixedFlags).entries ≠ (Flags.ofList mixedFlags.reverse).entries := by
  have hnames : (mixedFlags.map Prod.fst).Nodup := by decide
  have hperm := (List.reverse_perm mixedFlags).symm
  obtain ⟨-, -, hgiven⟩ := same_iff_key_eq
  obtain ⟨hsame, hkey⟩ := (hgiven "go" ["x"] mixedFlags mixedFlags.reverse).2 hnames hperm
  exact ⟨hnames, hperm, hsame, hkey, by decide⟩

end Invocation

end Folio.Command
