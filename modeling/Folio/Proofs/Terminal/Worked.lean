import Folio.Proofs.Portfolio.Stats
import Folio.Proofs.Terminal.Listing

namespace Folio.Portfolio

open Folio.Number Folio.Text Folio.Time

section Months

variable {now : Moment} {roles sections : List Section} {s : Section}

theorem monthsIn_nonneg (now : Moment) (s : Section) : 0 ≤ monthsIn now s :=
  wholeMonths_nonneg _ _

theorem monthsIn_undated (hstart : s.startDate = none)
    (hstop : ∀ t ∈ s.endDate, t.instant ≤ now.instant) : monthsIn now s = 0 := by
  refine wholeMonths_of_nonpos nearestDouble_mono nearestDouble_zero ?_
  rw [startInstant, hstart, Option.getD_none]
  cases hend : s.endDate with
  | none => simp
  | some t => simpa using hstop t hend

def monthsOf (now : Moment) (sections : List Section) : Int :=
  (sections.map (monthsIn now)).sum

theorem monthsOf_perm (h : roles.Perm sections) : monthsOf now roles = monthsOf now sections :=
  (h.map _).sum_eq

theorem monthsOf_parts (now : Moment) (sections : List Section) : monthsOf now sections =
    monthsOf now (sections.filter (·.startDate.isSome)) +
      monthsOf now (sections.filter (!·.startDate.isSome)) := by
  rw [← monthsOf_perm (List.filter_append_perm (·.startDate.isSome) sections), monthsOf,
    List.map_append, List.sum_append]
  rfl

theorem monthsOf_dated_le (now : Moment) (sections : List Section) :
    monthsOf now (sections.filter (·.startDate.isSome)) ≤ monthsOf now sections := by
  have hundated : 0 ≤ monthsOf now (sections.filter (!·.startDate.isSome)) :=
    List.sum_nonneg (List.forall_mem_map.2 fun s _ => monthsIn_nonneg now s)
  rw [monthsOf_parts now sections]
  omega

theorem monthsOf_dated (h : ∀ s ∈ sections, s.startDate = none →
      ∀ t ∈ s.endDate, t.instant ≤ now.instant) :
    monthsOf now (sections.filter (·.startDate.isSome)) = monthsOf now sections := by
  have hundated : monthsOf now (sections.filter (!·.startDate.isSome)) = 0 := by
    refine List.sum_eq_zero (List.forall_mem_map.2 fun s hs => ?_)
    obtain ⟨hs, hnone⟩ := List.mem_filter.1 hs
    exact monthsIn_undated (by simpa using hnone) (h s hs (by simpa using hnone))
  rw [monthsOf_parts now sections, hundated, add_zero]

end Months

def totalShown? (text : String) : Option String :=
  lastLabelled? "Total Experience: " text

theorem totalShown?_page (blocks : List (List String)) (total : Int) :
    totalShown? (page "Work Experience" divider blocks ["Total Experience: " ++ monthsText total]) =
      some (monthsText total) := by
  have hbreak : '\n' ∉ (monthsText total).toList :=
    notMem_monthsText (by decide) (by decide) (by decide) total
  refine lastLabelled?_page _ _ _ (List.forall_mem_singleton.2 ?_) (List.forall_mem_singleton.2 rfl)
  exact newline_notMem_append (by decide) hbreak

theorem mapM_monthsShown? (now : Moment) (roles : List Section) :
    (roles.map (workBlock now)).mapM monthsShown? = some (roles.map (monthsIn now)) := by
  induction roles with
  | nil => rfl
  | cons s roles ih =>
    rw [List.map_cons, List.mapM_cons, monthsShown?_workBlock, ih]
    rfl

end Folio.Portfolio

namespace Folio.Terminal

open Folio.Command Folio.Contact Folio.Portfolio Folio.Text Folio.Time

section Standard

variable (s : Settings) (channel : Option Channel) {context : Context}

/-- The total on the page of work is the sum of the months that its blocks show for the roles, in
whatever order the data has them, and its text is read back as that total. The page of statistics
says how many whole years they come to, or fewer when an undated role ends after the present. -/
theorem execute_worked {p : Snapshot} (hnow : context.now.isAware = true)
    (hdata : context.data = some p) (hp : ∃ v source, Snapshot.ofDocument v source = .ok p) :
    ∃ total stats, total = (p.experiences.map (monthsIn context.now)).sum ∧
      statsOf (some p) context.now = .ok stats ∧
      (∀ (q : Snapshot) (c : Context) i, (∃ v source, Snapshot.ofDocument v source = .ok q) →
        q.experiences.Perm p.experiences → c.data = some q → c.now = context.now →
        (Service.standard s channel).registry.resolve i.command = "experience" →
        ∃ roles blocks months text, roles.Perm p.experiences ∧
          List.Forall₂ (ShowsRole context.now) roles blocks ∧
          blocks.mapM monthsShown? = some months ∧ months.sum = total ∧
          (Service.standard s channel).registry.execute i c = .ok ⟨.plain text, c.theme⟩ ∧
          if p.experiences = [] then text = "No experience data available."
          else
            text = page "Work Experience" divider blocks
              ["Total Experience: " ++ monthsText total] ∧
            (totalShown? text).bind readMonths? = some total ∧
            (totalShown? text).bind readPhrases? =
              some (phrasesOf (total / 12) (total % 12))) ∧
      (∀ i, (Service.standard s channel).registry.resolve i.command = "stats" → ∃ text,
        (Service.standard s channel).registry.execute i context =
          .ok ⟨.plain text, context.theme⟩ ∧ yearsLine stats ∈ shownLines text) ∧
      stats.yearsWorked ≤ total / 12 ∧
      ((∀ r ∈ p.experiences, r.startDate = none →
          ∀ t ∈ r.endDate, t.instant ≤ context.now.instant) →
        stats.yearsWorked = total / 12) := by
  obtain ⟨v, source, hv⟩ := hp
  have hstats := statsOf_sound hnow (Snapshot.ofDocument_sound hv)
  refine ⟨_, _, rfl, hstats, ?_, ?_, ?_, ?_⟩
  · rintro q c i ⟨w, source', hw⟩ hperm hc hcnow hname
    obtain ⟨-, hexperiences, -⟩ := Snapshot.sound_iff.1 (Snapshot.ofDocument_sound hw)
    -- In the order of the page, the roles of the one snapshot are still those of the other.
    have hroles := (greatestFirst_latest context.now q.experiences).perm.trans hperm
    have hempty : q.experiences.isEmpty = p.experiences.isEmpty := hperm.isEmpty_eq
    have htotal : ((latest context.now q.experiences).map (monthsIn context.now)).sum =
        (p.experiences.map (monthsIn context.now)).sum := monthsOf_perm hroles
    have hlisting := workListing_sound hnow hexperiences
    rw [hempty, htotal] at hlisting
    have hexecute : (Service.standard s channel).registry.execute i c = .ok ⟨.plain
        (if p.experiences.isEmpty then "No experience data available."
        else page "Work Experience" divider
          ((latest context.now q.experiences).map (workBlock context.now))
          ["Total Experience: " ++ monthsText (p.experiences.map (monthsIn context.now)).sum]),
        c.theme⟩ := by
      refine execute_output s channel (b := .experience) (by decide) hname
        fun c' hcdata hcnow' => ?_
      rw [Builtin.output, hcdata, hcnow', hc, hcnow]
      exact congrArg Builtin.listing hlisting
    refine ⟨_, _, _, _, hroles, forall₂_map fun r _ => showsRole_workBlock context.now r,
      mapM_monthsShown? context.now _, htotal, hexecute, ?_⟩
    simp only [List.isEmpty_iff]
    split
    · rfl
    · exact ⟨rfl, by rw [totalShown?_page, Option.bind_some, readMonths?_monthsText],
        by rw [totalShown?_page, Option.bind_some, readPhrases?_monthsText]⟩
  · intro i hname
    refine ⟨_, execute_output s channel (b := .stats) (by decide) hname
      fun c hcdata hcnow => ?_, yearsLine_mem_page _⟩
    rw [Builtin.output, Builtin.runStats, hcdata, hcnow, hdata, hstats]
    rfl
  · exact Int.ediv_le_ediv (by decide) (monthsOf_dated_le context.now p.experiences)
  · exact fun hended => congrArg (· / 12) (monthsOf_dated hended)

end Standard

def rolesWorked : List Document.Value :=
  let role (title : String) (dates : Document.Fields) : Document.Value := .record
    ([("id", .text title), ("type", .text "experience"), ("title", .text title)] ++ dates)
  [role "Engineer" [("startDate", .text "2020-01-01"), ("endDate", .text "2022-01-01")],
    role "Advisor" [("startDate", .text "2021-01-01T00:00:00+01:00")],
    role "Intern" [("startDate", .text "2019-06-01"), ("endDate", .text "2019-01-01")],
    role "Writer" [("endDate", .text "2018-01-01")]]

theorem execute_worked_overlapping : ∃ (p q : Snapshot) (stats : Stats) (work page : String),
    Snapshot.ofDocument (.record [("experiences", .list rolesWorked)]) none = .ok p ∧
    Snapshot.ofDocument (.record [("experiences", .list rolesWorked.reverse)]) none = .ok q ∧
    p.experiences.map (monthsIn (mixedContext p).now) = [24, 35, 0, 0] ∧
    stats.yearsWorked = 4 ∧
    (Service.standard {} none).registry.execute { command := "stats" } (mixedContext p) =
      .ok ⟨.plain page, .matrix⟩ ∧
    yearsLine stats ∈ shownLines page ∧
    (Service.standard {} none).registry.execute { command := "exp" } (mixedContext q) =
      .ok ⟨.plain work, .matrix⟩ ∧
    (totalShown? work).bind readMonths? = some 59 ∧
    (totalShown? work).bind readPhrases? = some [named 4 "year", named 11 "month"] ∧
    ∃ (roles : List Section) (blocks : List (List String)), roles.Perm p.experiences ∧
      List.Forall₂ (ShowsRole (mixedContext p).now) roles blocks ∧
      (blocks.mapM monthsShown?).map List.sum = some 59 := by
  have hread : (Snapshot.ofDocument (.record [("experiences", .list rolesWorked)])
      none).toOption.map (fun p => (p.experiences.map (monthsIn (mixedContext p).now),
        p.experiences.all fun r => r.startDate.isSome ||
          r.endDate.all fun t => decide (t.instant ≤ (mixedContext p).now.instant))) =
      some ([24, 35, 0, 0], true) := by
    decide +kernel
  have hreversed : (Snapshot.ofDocument (.record [("experiences", .list rolesWorked.reverse)])
      none).toOption.map (·.experiences) =
      (Snapshot.ofDocument (.record [("experiences", .list rolesWorked)])
        none).toOption.map (·.experiences.reverse) := by
    decide +kernel
  obtain ⟨p, hp, hroles⟩ := exists_of_toOption hread
  simp only [Prod.mk.injEq, List.all_eq_true] at hroles
  obtain ⟨hmonths, hended⟩ := hroles
  rw [hp] at hreversed
  obtain ⟨q, hq, hreversed⟩ := exists_of_toOption hreversed
  have hperm : q.experiences.Perm p.experiences := hreversed ▸ List.reverse_perm _
  obtain ⟨total, stats, htotal, -, hwork, hstats, -, hagree⟩ :=
    @execute_worked {} none (mixedContext p) p rfl rfl ⟨_, _, hp⟩
  rw [hmonths] at htotal
  obtain rfl : total = 59 := htotal.trans (by decide)
  have hempty : p.experiences ≠ [] := by
    intro hnil
    rw [hnil] at hmonths
    cases hmonths
  obtain ⟨roles, blocks, months, work, hroles, hblocks, hshown, hsum, hpage, hclosing⟩ :=
    hwork q (mixedContext q) { command := "exp" } ⟨_, _, hq⟩ hperm rfl rfl
      (resolve_standard {} none (b := .experience) (by decide +kernel))
  rw [if_neg hempty] at hclosing
  obtain ⟨-, htotal, hphrases⟩ := hclosing
  have hyears := hagree fun r hr hstart t ht => by
    have h := hended r hr
    rw [hstart, ht] at h
    exact of_decide_eq_true h
  have hname : (Service.standard {} none).registry.resolve "stats" = "stats" :=
    resolve_standard {} none (b := .stats) (by decide +kernel)
  obtain ⟨page, hexecute, hline⟩ := hstats { command := "stats" } hname
  exact ⟨p, q, stats, work, page, hp, hq, hmonths, hyears, hexecute, hline, hpage, htotal,
    hphrases.trans (by decide), roles, blocks, hroles, hblocks,
    by rw [hshown, Option.map_some, hsum]⟩

end Folio.Terminal
