import Folio.Proofs.Contact.Address

namespace Folio.Contact

namespace FormData

def problem? (d : FormData) : Field → Option Problem
  | .name => if isBlankText d.name then some .noName else none
  | .email => d.emailProblem?
  | .message => if isBlankText d.message then some .noMessage else none

def fits (d : FormData) : Field → Bool
  | .name => !isBlankText d.name
  | .email => isAddress d.email
  | .message => !isBlankText d.message

def isAccepted (d : FormData) : Bool := d.problems.isEmpty

variable {d : FormData} {f : Field} {p : Problem}

theorem problems_eq (d : FormData) : d.problems = Field.all.filterMap d.problem? := by
  simp only [problems, Field.all, List.filterMap_cons, List.filterMap_nil, problem?]
  cases isBlankText d.name <;> cases d.emailProblem? <;> cases isBlankText d.message <;> rfl

theorem problem?_eq_none : d.problem? f = none ↔ d.fits f = true := by
  cases f with
  | name => simp [problem?, fits]
  | email => exact emailProblem?_eq_none
  | message => simp [problem?, fits]

theorem field_of_problem? (h : d.problem? f = some p) : p.field = f := by
  cases f with
  | name =>
    obtain ⟨-, ⟨⟩⟩ := Option.ite_none_right_eq_some.1 h
    rfl
  | email => exact field_of_emailProblem? h
  | message =>
    obtain ⟨-, ⟨⟩⟩ := Option.ite_none_right_eq_some.1 h
    rfl

theorem fields_filterMap (d : FormData) (fs : List Field) :
    (fs.filterMap d.problem?).map Problem.field = fs.filter (!d.fits ·) := by
  induction fs with
  | nil => rfl
  | cons f fs ih =>
    cases hp : d.problem? f with
    | none =>
      have hfits := problem?_eq_none.1 hp
      rw [List.filterMap_cons_none hp, List.filter_cons_of_neg (by simp [hfits]), ih]
    | some p =>
      have hfits : ¬ d.fits f = true := fun h => by simp [problem?_eq_none.2 h] at hp
      rw [List.filterMap_cons_some hp, List.filter_cons_of_pos (by simpa using hfits),
        List.map_cons, ih, field_of_problem? hp]

theorem isAccepted_iff : d.isAccepted = true ↔ ∀ f, d.fits f = true := by
  have hall : (∀ f ∈ Field.all, d.problem? f = none) ↔ ∀ f, d.problem? f = none :=
    ⟨fun h f => h f (by cases f <;> decide), fun h f _ => h f⟩
  rw [isAccepted, List.isEmpty_iff, problems_eq, List.filterMap_eq_nil_iff, hall]
  exact forall_congr' fun _ => problem?_eq_none

end FormData

/-- A result that tells what is wrong with a form: each field that is not fit to be sent, and the
first of them in its message. -/
structure Rejects (d : FormData) (r : SubmitResult) : Prop where
  success : r.success = false
  fields : r.errors.map Prod.fst = (Field.all.filter (!d.fits ·)).map Field.key
  told : ∀ f p, d.problem? f = some p → (f.key, p.message) ∈ r.errors
  first : ∃ p, Field.all.findSome? d.problem? = some p ∧ r.message = p.message

namespace ContactForm

variable {form : ContactForm} {d : FormData}

theorem rejects_rejection {p : Problem} {ps : List Problem} (h : d.problems = p :: ps) :
    Rejects d (rejection p (p :: ps)) where
  success := rfl
  fields := by
    rw [← FormData.fields_filterMap, ← FormData.problems_eq, h, rejection, List.map_map,
      List.map_map]
    rfl
  told := by
    intro f q hq
    have hmem : q ∈ d.problems := by
      rw [FormData.problems_eq, List.mem_filterMap]
      exact ⟨f, by cases f <;> decide, hq⟩
    rw [← FormData.field_of_problem? hq]
    exact List.mem_map_of_mem (f := fun p => (p.field.key, p.message)) (h ▸ hmem)
  first := by
    refine ⟨p, ?_, rfl⟩
    rw [← List.head?_filterMap, ← FormData.problems_eq, h]
    rfl

theorem submit_rejected (form : ContactForm) (h : d.isAccepted = false) :
    (form.submit d).sent = none ∧ ∃ r, (form.submit d).result = .ok r ∧ Rejects d r := by
  cases hp : d.problems with
  | nil => simp [FormData.isAccepted, hp] at h
  | cons p ps =>
    have hsubmit : form.submit d = ⟨.ok (rejection p (p :: ps)), none⟩ := by simp only [submit, hp]
    rw [hsubmit]
    exact ⟨rfl, _, rfl, rejects_rejection hp⟩

theorem submit_accepted {deliver : Channel} (hform : form.channel = some deliver)
    (h : d.isAccepted = true) : form.submit d = ⟨deliver d, some d⟩ := by
  simp only [submit, List.isEmpty_iff.1 h, hform]

theorem submit_unbound (hform : form.channel = none) (d : FormData) :
    (form.submit d).sent = none ∧ ∃ r, (form.submit d).result = .ok r ∧ r.success = false := by
  cases h : d.isAccepted with
  | true =>
    have hsubmit : form.submit d = ⟨.ok unavailable, none⟩ := by
      simp only [submit, List.isEmpty_iff.1 h, hform]
    rw [hsubmit]
    exact ⟨rfl, _, rfl, rfl⟩
  | false =>
    obtain ⟨hsent, r, hr, hrejects⟩ := form.submit_rejected h
    exact ⟨hsent, r, hr, hrejects.success⟩

end ContactForm

abbrev Answers := List FormData → FormData → SubmitResult

/-- What comes back for a form: the answer of the channel if it is sent, and else what is wrong. -/
structure Returns (answer : Answers) (given : List FormData) (d : FormData) (r : SubmitResult) :
    Prop where
  accepted : d.isAccepted = true → r = answer given d
  rejected : d.isAccepted = false → Rejects d r

structure Desk where
  given : List FormData := []
  results : List (Except Fault SubmitResult) := []

namespace Desk

variable (answer : Answers)

def form (desk : Desk) (info : Option ContactInfo) : ContactForm :=
  ⟨some fun d => .ok (answer desk.given d), info⟩

def step (desk : Desk) (entry : Option ContactInfo × FormData) : Desk :=
  let submission := (desk.form answer entry.1).submit entry.2
  ⟨desk.given ++ submission.sent.toList, desk.results ++ [submission.result]⟩

def run (entries : List (Option ContactInfo × FormData)) : Desk :=
  entries.foldl (step answer) {}

theorem step_spec (desk : Desk) (info : Option ContactInfo) (d : FormData) :
    (desk.step answer (info, d)).given = desk.given ++ [d].filter FormData.isAccepted ∧
    ∃ r, (desk.step answer (info, d)).results = desk.results ++ [.ok r] ∧
      Returns answer desk.given d r := by
  cases h : d.isAccepted with
  | true =>
    rw [step, ContactForm.submit_accepted rfl h, List.filter_cons_of_pos h]
    exact ⟨rfl, _, rfl, fun _ => rfl, by simp [h]⟩
  | false =>
    obtain ⟨hsent, r, hr, hrejects⟩ := (desk.form answer info).submit_rejected h
    rw [step, hsent, hr, List.filter_cons_of_neg (by simp [h])]
    exact ⟨rfl, r, rfl, by simp [h], fun _ => hrejects⟩

theorem run_concat (entries : List (Option ContactInfo × FormData))
    (entry : Option ContactInfo × FormData) :
    run answer (entries ++ [entry]) = (run answer entries).step answer entry := by
  rw [run, List.foldl_append, ← run]
  rfl

theorem given_run (entries : List (Option ContactInfo × FormData)) :
    (run answer entries).given = (entries.map Prod.snd).filter FormData.isAccepted := by
  -- the last submission is the one that follows a run
  induction entries using List.reverseRecOn with
  | nil => rfl
  | append_singleton entries entry ih =>
    rw [run_concat, (step_spec answer _ entry.1 entry.2).1, ih, List.map_append, List.filter_append]
    rfl

theorem length_run (entries : List (Option ContactInfo × FormData)) :
    (run answer entries).results.length = entries.length := by
  induction entries using List.reverseRecOn with
  | nil => rfl
  | append_singleton entries entry ih =>
    obtain ⟨r, hr, -⟩ := (step_spec answer (run answer entries) entry.1 entry.2).2
    rw [run_concat, hr, List.length_append, ih, List.length_append]
    rfl

theorem exists_results_append (front back : List (Option ContactInfo × FormData)) :
    ∃ more, (run answer (front ++ back)).results = (run answer front).results ++ more := by
  induction back using List.reverseRecOn with
  | nil => exact ⟨[], by simp⟩
  | append_singleton back entry ih =>
    obtain ⟨more, hmore⟩ := ih
    obtain ⟨r, hr, -⟩ := (step_spec answer (run answer (front ++ back)) entry.1 entry.2).2
    refine ⟨more ++ [.ok r], ?_⟩
    rw [← List.append_assoc, run_concat, hr, hmore, List.append_assoc]

/-- Forms for one channel, submitted in turn: the channel is given exactly the accepted messages,
each once and in order, and its answer to each comes back. What is not accepted comes back with the
fields that are not fit. A form without a channel never succeeds. -/
theorem run_entries (entries : List (Option ContactInfo × FormData)) :
    (run answer entries).given = (entries.map Prod.snd).filter FormData.isAccepted ∧
    (run answer entries).results.length = entries.length ∧
    (∀ front info d back, entries = front ++ (info, d) :: back → ∃ r,
      (run answer entries).results[front.length]? = some (.ok r) ∧
      Returns answer ((front.map Prod.snd).filter FormData.isAccepted) d r) ∧
    (∀ d : FormData, d.isAccepted = true ↔ ∀ f, d.fits f = true) ∧
    ∀ info d, ((⟨none, info⟩ : ContactForm).submit d).sent = none ∧
      ∃ r, ((⟨none, info⟩ : ContactForm).submit d).result = .ok r ∧ r.success = false := by
  refine ⟨given_run answer entries, length_run answer entries, ?_, fun _ => FormData.isAccepted_iff,
    fun info d => ContactForm.submit_unbound rfl d⟩
  rintro front info d back rfl
  obtain ⟨r, hr, hreturns⟩ := (step_spec answer (run answer front) info d).2
  obtain ⟨more, hmore⟩ := exists_results_append answer (front ++ [(info, d)]) back
  refine ⟨r, ?_, given_run answer front ▸ hreturns⟩
  rw [List.append_cons, hmore, run_concat, hr, List.append_assoc,
    List.getElem?_append_right (length_run answer front).le, length_run, Nat.sub_self]
  rfl

end Desk

end Folio.Contact
