import Folio.Proofs.Portfolio.Shown
import Folio.Proofs.Terminal.Builtin

namespace Folio.Terminal

open Folio.Command Folio.Contact Folio.Portfolio Folio.Text Folio.Time

section Standard

variable (s : Settings) (channel : Option Channel) {i : Invocation} {context : Context}

def orFailed : Except Fault Output → Output
  | .ok o => o
  | .error fault => failed fault

theorem execute_orFailed {b : Builtin} (hb : b ≠ .theme) {x : Except Fault Output}
    (hname : (Service.standard s channel).registry.resolve i.command = b.name)
    (h : ∀ c : Context, c.data = context.data → c.now = context.now →
      b.output s channel i c = x) :
    (Service.standard s channel).registry.execute i context = .ok ⟨orFailed x, context.theme⟩ := by
  have houtput := h ((Service.standard s channel).registry.shown context)
    (Registry.shown_data _ context) (Registry.shown_now _ context)
  rw [execute_eq, hname, Builtin.named?_eq_some.2 rfl]
  simp only [Builtin.settled, Builtin.run_eq_output s channel hb, houtput]
  cases x <;> simp [Except.map, orFailed]

theorem execute_output {b : Builtin} (hb : b ≠ .theme) {o : Output}
    (hname : (Service.standard s channel).registry.resolve i.command = b.name)
    (h : ∀ c : Context, c.data = context.data → c.now = context.now →
      b.output s channel i c = .ok o) :
    (Service.standard s channel).registry.execute i context = .ok ⟨o, context.theme⟩ :=
  execute_orFailed s channel hb hname h

/-- The listings of dated sections show each section of their list in one block, and under the flag
for it the featured projects alone: work and certifications by the instant they start at, projects
by the year, the latest first and ties as the snapshot has them. An undated section stands where the
present does. Between two blocks there is the separator of the page, and a page that counts its
sections counts its blocks. -/
theorem execute_timeline {p : Snapshot} (hnow : context.now.isAware = true)
    (hdata : context.data = some p) (hp : ∃ v source, Snapshot.ofDocument v source = .ok p) :
    (∃ roles blocks, GreatestFirst (startInstant context.now) roles p.experiences ∧
      List.Forall₂ (ShowsRole context.now) roles blocks ∧
      ∀ i, (Service.standard s channel).registry.resolve i.command = "experience" →
        (Service.standard s channel).registry.execute i context = .ok ⟨.plain
          (if p.experiences.isEmpty then "No experience data available."
          else page "Work Experience" divider blocks
            ["Total Experience: " ++ monthsText (roles.map (monthsIn context.now)).sum]),
          context.theme⟩) ∧
    (∃ records blocks, GreatestFirst (startInstant context.now) records p.certifications ∧
      List.Forall₂ (ShowsCertification context.now) records blocks ∧
      ∀ i, (Service.standard s channel).registry.resolve i.command = "certifications" →
        (Service.standard s channel).registry.execute i context = .ok ⟨.plain
          (if p.certifications.isEmpty then "No certifications data available."
          else page "Certifications & Achievements" divider blocks
            ["Total Certifications: " ++ toString blocks.length]),
          context.theme⟩) ∧
    ∀ i, (Service.standard s channel).registry.resolve i.command = "projects" →
      ∃ projects blocks,
        GreatestFirst (fun r => (r.startDate.getD context.now).date.year) projects
          (if i.flags.isSet "featured" then p.projects.filter (·.isFeatured) else p.projects) ∧
        List.Forall₂ (ShowsProject context.now) projects blocks ∧
        (Service.standard s channel).registry.execute i context = .ok ⟨.plain
          (if p.projects.isEmpty then "No projects data available."
          else page (if i.flags.isSet "featured" then "Featured Projects" else "All Projects") [""]
            blocks (s!"Showing {blocks.length} of {p.projects.length} projects" ::
              if !i.flags.isSet "featured" && p.projects.any (·.isFeatured) then
                ["", "Tip: Use --featured to show only featured projects"]
              else [])),
          context.theme⟩ := by
  obtain ⟨v, source, hv⟩ := hp
  obtain ⟨-, hexperiences, -, hcertifications, -⟩ :=
    Snapshot.sound_iff.1 (Snapshot.ofDocument_sound hv)
  refine ⟨⟨_, _, greatestFirst_latest context.now _,
      forall₂_map fun r _ => showsRole_workBlock context.now r, fun i hi => ?_⟩,
    ⟨_, _, greatestFirst_latest context.now _,
      forall₂_map fun r _ => showsCertification_certificationBlock context.now r, fun i hi => ?_⟩,
    fun i hi => ⟨_, _, greatestFirst_sorted (startYear context.now) _,
      forall₂_map fun r _ => showsProject_projectBlock context.now r, ?_⟩⟩
  · refine execute_output s channel (b := .experience) (by decide) hi fun c hcdata hcnow => ?_
    rw [Builtin.output, hcdata, hcnow, hdata]
    exact congrArg Builtin.listing (workListing_sound hnow hexperiences)
  · refine execute_output s channel (b := .certifications) (by decide) hi fun c hcdata hcnow => ?_
    rw [Builtin.output, hcdata, hcnow, hdata, List.length_map]
    exact congrArg Builtin.listing (certificationListing_sound hnow hcertifications)
  · refine execute_output s channel (b := .projects) (by decide) hi fun c hcdata hcnow => ?_
    rw [Builtin.output, hcdata, hcnow, hdata, List.length_map]
    exact congrArg (fun text => Except.ok (Output.plain text)) (projectListing_eq _ _ _)

end Standard

def titles (sections : List Section) : List String :=
  sections.map (·.title)

def scatteredDocument : Document.Value :=
  let undated (title : String) : Document.Value :=
    .record [("id", .text title), ("type", .text "project"), ("title", .text title)]
  let dated (title start : String) : Document.Value := .record [("id", .text title),
    ("type", .text "project"), ("title", .text title), ("startDate", .text start)]
  .record [
    ("experiences", .list [dated "Analyst" "2020-01-01T00:30:00+04:00",
      dated "Engineer" "2020-01-01", undated "Writer",
      dated "Teacher" "2020-01-01T02:00:00+02:00"]),
    ("certifications", .list [dated "Logic" "2019-05-01", dated "Types" "2021-05-01"]),
    ("projects", .list [dated "Parser" "2020-12-31T23:30:00-05:00", dated "Editor" "2020-02-01",
      undated "Folio", dated "Prover" "2021-01-01"])]

theorem execute_timeline_scattered : ∃ p roles blocks records projects,
    Snapshot.ofDocument scatteredDocument none = .ok p ∧
    GreatestFirst (startInstant (mixedContext p).now) roles p.experiences ∧
    titles roles = ["Writer", "Engineer", "Teacher", "Analyst"] ∧
    List.Forall₂ (ShowsRole (mixedContext p).now) roles blocks ∧
    (Service.standard {} none).registry.execute { command := "WORK" } (mixedContext p) =
      .ok ⟨.plain (page "Work Experience" divider blocks
        ["Total Experience: " ++ monthsText (roles.map (monthsIn (mixedContext p).now)).sum]),
        .matrix⟩ ∧
    GreatestFirst (startInstant (mixedContext p).now) records p.certifications ∧
    titles records = ["Types", "Logic"] ∧
    GreatestFirst (startYear (mixedContext p).now) projects p.projects ∧
    titles projects = ["Folio", "Prover", "Parser", "Editor"] := by
  have hread : (Snapshot.ofDocument scatteredDocument none).toOption.map (fun p =>
      (p.experiences.isEmpty, titles (latest (mixedContext p).now p.experiences),
        titles (latest (mixedContext p).now p.certifications),
        titles (latestYearFirst (mixedContext p).now p.projects))) =
      some (false, ["Writer", "Engineer", "Teacher", "Analyst"], ["Types", "Logic"],
        ["Folio", "Prover", "Parser", "Editor"]) := by
    cbv
  have hwork : (Service.standard {} none).registry.resolve "WORK" = "experience" :=
    resolve_standard {} none (b := .experience) (by decide +kernel)
  have hprojects : (Service.standard {} none).registry.resolve "projects" = "projects" :=
    resolve_standard {} none (b := .projects) (by decide +kernel)
  obtain ⟨p, hp, htitles⟩ := exists_of_toOption hread
  simp only [Prod.mk.injEq] at htitles
  obtain ⟨hempty, hroles, hrecords, hshown⟩ := htitles
  obtain ⟨⟨roles, blocks, hlatest, hblocks, hexecute⟩, ⟨records, -, hrecent, -⟩, hlist⟩ :=
    @execute_timeline {} none (mixedContext p) p rfl rfl ⟨_, _, hp⟩
  obtain ⟨projects, -, hyears, -⟩ := hlist { command := "projects" } hprojects
  have hall : ({ command := "projects" } : Invocation).flags.isSet "featured" = false := by decide
  rw [hall, if_neg Bool.false_ne_true] at hyears
  obtain rfl := hlatest.unique (greatestFirst_latest _ _)
  obtain rfl := hrecent.unique (greatestFirst_latest _ _)
  obtain rfl := hyears.unique (greatestFirst_sorted _ _)
  refine ⟨p, _, blocks, _, _, hp, hlatest, hroles, hblocks, ?_, hrecent, hrecords, hyears, hshown⟩
  have h := hexecute { command := "WORK" } hwork
  rwa [hempty, if_neg Bool.false_ne_true] at h

section Skills

variable (s : Settings) (channel : Option Channel) {i : Invocation} {context : Context}

/-- The page of skills has those of the category that is asked for, or all of them, each in one row
below the heading of its category. -/
theorem execute_skills {p : Snapshot} (hdata : context.data = some p) (hskills : p.skills ≠ [])
    (hname : (Service.standard s channel).registry.resolve i.command = "skills") :
    ∃ category groups shown,
      category = (if i.flags.isSet "frontend" then some .frontend
        else if i.flags.isSet "backend" then some .backend
        else if i.flags.isSet "tools" then some .tools
        else none) ∧
      Grouping groups (p.skills.filter fun t => category.all (t.asSkill.category = ·)) ∧
      ShowsGroups groups shown ∧
      (shown.map fun g => skillHeading g.1).Nodup ∧
      (Service.standard s channel).registry.execute i context =
        .ok ⟨.plain (skillPage category shown), context.theme⟩ := by
  have hfilter : p.skills.filter (fun t =>
        (selectedCategory i.flags).all (t.asSkill.category = ·)) =
      selectedSkills (selectedCategory i.flags) p.skills := by
    cases selectedCategory i.flags with
    | none => exact List.filter_true _
    | some c => rfl
  have hgrouping := grouping_ranked (selectedSkills (selectedCategory i.flags) p.skills)
  refine ⟨_, _, _, selectedCategory_eq i.flags, by rwa [hfilter], hgrouping.showsGroups, ?_,
    execute_output s channel (b := .skills) (by decide) hname fun c hcdata _ => ?_⟩
  · have hheadings := hgrouping.nodup.map skillHeading_injective
    rw [List.map_map] at hheadings ⊢
    exact hheadings
  · rw [Builtin.output, hcdata, hdata]
    exact congrArg (fun text => Except.ok (Output.plain text)) (skillListing_eq i.flags hskills)

end Skills

def ratedDocument : Document.Value :=
  let rated (title category : String) (proficiency : Int) : Document.Value := .record [
    ("id", .text title), ("type", .text "skill"), ("title", .text title),
    ("metadata", .record [("category", .text category), ("proficiency", .int proficiency)])]
  .record [("skills", .list [rated "Git" "tools" 70, rated "Lean" "backend" 80,
    .record [("id", .text "Folio"), ("type", .text "project"), ("title", .text "Folio")],
    rated "Rust" "backend" 80, rated "Haskell" "backend" 95, rated "Docker" "tools" 60])]

theorem execute_skills_rated : ∃ p groups shown chosen,
    Snapshot.ofDocument ratedDocument none = .ok p ∧
    Grouping groups p.skills ∧
    groups.map (fun g => (g.1, titles g.2)) = [(.tools, ["Git", "Docker"]),
      (.backend, ["Haskell", "Lean", "Rust"]), (.other, ["Folio"])] ∧
    ShowsGroups groups shown ∧
    (Service.standard {} none).registry.execute { command := "Skills" } (mixedContext p) =
      .ok ⟨.plain (skillPage none shown), .matrix⟩ ∧
    Grouping chosen (p.skills.filter (·.asSkill.category = .backend)) ∧
    chosen.map (fun g => (g.1, titles g.2)) = [(.backend, ["Haskell", "Lean", "Rust"])] ∧
    ∃ rows, ShowsGroups chosen rows ∧
      (Service.standard {} none).registry.execute { command := "skills", flags := Flags.ofList [
          ("tools", .switch true), ("frontend", .switch false), ("backend", .text "only")] }
        (mixedContext p) = .ok ⟨.plain (skillPage (some .backend) rows), .matrix⟩ := by
  have hread : (Snapshot.ofDocument ratedDocument none).toOption.map (fun p =>
      (p.skills.isEmpty, (ranked p.skills).map (fun g => (g.1, titles g.2)),
        (ranked (p.skills.filter (·.asSkill.category = .backend))).map
          fun g => (g.1, titles g.2))) =
      some (false, [(.tools, ["Git", "Docker"]), (.backend, ["Haskell", "Lean", "Rust"]),
        (.other, ["Folio"])], [(.backend, ["Haskell", "Lean", "Rust"])]) := by
    cbv
  obtain ⟨p, hp, htitles⟩ := exists_of_toOption hread
  simp only [Prod.mk.injEq] at htitles
  obtain ⟨hempty, hgroups, hchosen⟩ := htitles
  have hskills : p.skills ≠ [] := by simpa using hempty
  obtain ⟨category, groups, shown, hcategory, hgrouping, hshown, -, hexecute⟩ :=
    @execute_skills {} none { command := "Skills" } (mixedContext p) p rfl hskills
      (resolve_standard {} none (b := .skills) (by decide +kernel))
  obtain ⟨category', chosen, rows, hcategory', hgrouping', hrows, -, hexecute'⟩ :=
    @execute_skills {} none { command := "skills", flags := Flags.ofList [
        ("tools", .switch true), ("frontend", .switch false), ("backend", .text "only")] }
      (mixedContext p) p rfl hskills (resolve_standard {} none (b := .skills) (by decide +kernel))
  obtain rfl : category = none := hcategory.trans (by decide +kernel)
  obtain rfl : category' = some .backend := hcategory'.trans (by decide +kernel)
  simp only [Option.all_none, List.filter_true, Option.all_some] at hgrouping hgrouping'
  obtain rfl := hgrouping.unique (grouping_ranked _)
  obtain rfl := hgrouping'.unique (grouping_ranked _)
  exact ⟨p, _, _, _, hp, hgrouping, hgroups, hshown, hexecute, hgrouping', hchosen, rows, hrows,
    hexecute'⟩

end Folio.Terminal
