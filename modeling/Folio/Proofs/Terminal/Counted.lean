import Folio.Proofs.Portfolio.Stats
import Folio.Proofs.Terminal.Listing

namespace Folio.Terminal

open Folio.Command Folio.Contact Folio.Portfolio Folio.Text Folio.Time

section Standard

variable (s : Settings) (channel : Option Channel) {i : Invocation} {context : Context}

theorem length_selectedSkills {p : Snapshot} {now : Moment} {stats : Stats}
    (hstats : statsOf (some p) now = .ok stats) (flags : Flags) :
    (selectedSkills (selectedCategory flags) p.skills).length =
      if flags.isSet "frontend" then stats.inCategory .frontend
      else if flags.isSet "backend" then stats.inCategory .backend
      else if flags.isSet "tools" then stats.inCategory .tools
      else stats.skills := by
  obtain ⟨months, -, rfl⟩ := statsOf_eq_ok.1 hstats
  have hcategory (c : SkillCategory) (hc : c ≠ .other) : (selectedSkills (some c) p.skills).length =
      ((distributionOf p.skills).lookup c).getD 0 := by
    rw [lookup_distributionOf, ← countP_asSkill _ hc, List.countP_eq_length_filter]
    rfl
  rw [selectedCategory_eq]
  split_ifs
  · exact hcategory .frontend (by decide)
  · exact hcategory .backend (by decide)
  · exact hcategory .tools (by decide)
  · rfl

theorem execute_skillListing {p : Snapshot} (hdata : context.data = some p)
    (hname : (Service.standard s channel).registry.resolve i.command = "skills") :
    (Service.standard s channel).registry.execute i context =
      .ok ⟨.plain (skillListing i.flags p.skills), context.theme⟩ := by
  refine execute_output s channel (b := .skills) (by decide) hname fun c hcdata _ => ?_
  rw [Builtin.output, hcdata, hdata]
  rfl

theorem execute_projectListing {p : Snapshot} (hdata : context.data = some p)
    (hname : (Service.standard s channel).registry.resolve i.command = "projects") :
    (Service.standard s channel).registry.execute i context =
      .ok ⟨.plain (projectListing i.flags context.now p.projects), context.theme⟩ := by
  refine execute_output s channel (b := .projects) (by decide) hname fun c hcdata hcnow => ?_
  rw [Builtin.output, hcdata, hcnow, hdata]
  rfl

theorem execute_certificationListing {p : Snapshot} (hdata : context.data = some p)
    (hname : (Service.standard s channel).registry.resolve i.command = "certifications") :
    (Service.standard s channel).registry.execute i context =
      .ok ⟨orFailed (Builtin.listing (certificationListing context.now p.certifications)),
        context.theme⟩ := by
  refine execute_orFailed s channel (b := .certifications) (by decide) hname
    fun c hcdata hcnow => ?_
  rw [Builtin.output, hcdata, hcnow, hdata]
  rfl

/-- There are statistics of decoded data next to an aware present. Whenever there are any, their
counts are those that the listings show below what they list: of all skills and of those in each
category that has a flag, of all projects and of the featured ones, and of certifications. The
categories together count the sections that are skills. -/
theorem execute_counted {p : Snapshot} (hdata : context.data = some p) :
    (context.now.isAware = true → (∃ v source, Snapshot.ofDocument v source = .ok p) →
      ∃ stats, statsOf (some p) context.now = .ok stats) ∧
    ∀ stats, statsOf (some p) context.now = .ok stats →
      (p.skills ≠ [] → ∀ i,
        (Service.standard s channel).registry.resolve i.command = "skills" → ∃ text,
          (Service.standard s channel).registry.execute i context =
            .ok ⟨.plain text, context.theme⟩ ∧
          lastLabelled? "Total Skills: " text = some (toString (
            if i.flags.isSet "frontend" then stats.inCategory .frontend
            else if i.flags.isSet "backend" then stats.inCategory .backend
            else if i.flags.isSet "tools" then stats.inCategory .tools
            else stats.skills))) ∧
      (p.projects ≠ [] → ∀ i,
        (Service.standard s channel).registry.resolve i.command = "projects" → ∃ text,
          (Service.standard s channel).registry.execute i context =
            .ok ⟨.plain text, context.theme⟩ ∧
          lastLabelled? "Showing " text = some (projectCount
            (if i.flags.isSet "featured" then stats.featuredProjects else stats.projects)
            stats.projects)) ∧
      (p.certifications ≠ [] → ∀ i,
        (Service.standard s channel).registry.resolve i.command = "certifications" → ∃ o,
          (Service.standard s channel).registry.execute i context = .ok ⟨o, context.theme⟩ ∧
          (o.success = true →
            lastLabelled? "Total Certifications: " o.text = some (toString stats.certifications)) ∧
          (context.now.isAware = true → (∃ v source, Snapshot.ofDocument v source = .ok p) →
            o.success = true)) ∧
      (stats.distribution.map Prod.snd).sum = (p.skills.filter (·.skill?.isSome)).length := by
  refine ⟨?_, fun stats hstats => ?_⟩
  · rintro hnow ⟨v, source, hv⟩
    exact ⟨_, statsOf_sound hnow (Snapshot.ofDocument_sound hv)⟩
  obtain ⟨months, -, rfl⟩ := statsOf_eq_ok.1 hstats
  refine ⟨fun hne i hname => ?_, fun hne i hname => ?_, fun hne i hname => ?_,
    sum_distributionOf p.skills⟩
  · refine ⟨_, execute_skillListing s channel hdata hname, ?_⟩
    rw [skillListing_total i.flags hne, length_selectedSkills hstats]
  · refine ⟨_, execute_projectListing s channel hdata hname, ?_⟩
    rw [projectListing_count i.flags context.now hne]
    cases i.flags.isSet "featured" with
    | false => rfl
    | true => rfl
  · refine ⟨_, execute_certificationListing s channel hdata hname, fun hsuccess => ?_, ?_⟩
    · cases hlisting : certificationListing context.now p.certifications with
      | error clash =>
        rw [hlisting] at hsuccess
        cases hsuccess
      | ok text => exact certificationListing_total hne hlisting
    · rintro hnow ⟨v, source, hv⟩
      obtain ⟨-, -, -, hcertifications, -⟩ := Snapshot.sound_iff.1 (Snapshot.ofDocument_sound hv)
      rw [certificationListing_sound hnow hcertifications]
      rfl

end Standard

def countedDocument : Document.Value :=
  let entry (type title : String) (rest : Document.Fields) : Document.Value := .record
    ([("id", .text title), ("type", .text type), ("title", .text title)] ++ rest)
  let skill (title category : String) : Document.Value := entry "skill" title
    [("metadata", .record [("category", .text category), ("proficiency", .int 80)])]
  .record [
    ("skills", .list [skill "Lean" "backend", entry "project" "Folio" [], skill "Git" "tools",
      skill "Rust" "backend"]),
    ("projects", .list [entry "project" "Folio" [("isFeatured", .bool true)],
      entry "project" "Parser" []]),
    ("certifications", .list [entry "certification" "Logic" [("startDate", .text "2019-05-01")]])]

theorem execute_counted_mixed : ∃ (p : Snapshot) (stats : Stats),
    Snapshot.ofDocument countedDocument none = .ok p ∧
    statsOf (some p) (mixedContext p).now = .ok stats ∧
    (stats.distribution.map Prod.snd).sum = 3 ∧
    (∃ text, (Service.standard {} none).registry.execute { command := "skills" }
        (mixedContext p) = .ok ⟨.plain text, .matrix⟩ ∧
      lastLabelled? "Total Skills: " text = some "4") ∧
    (∃ text, (Service.standard {} none).registry.execute
        { command := "skills", flags := Flags.ofList [("backend", .switch true)] }
        (mixedContext p) = .ok ⟨.plain text, .matrix⟩ ∧
      lastLabelled? "Total Skills: " text = some "2") ∧
    (∃ text, (Service.standard {} none).registry.execute
        { command := "projects", flags := Flags.ofList [("featured", .switch true)] }
        (mixedContext p) = .ok ⟨.plain text, .matrix⟩ ∧
      lastLabelled? "Showing " text = some "1 of 2 projects") ∧
    ∃ o, (Service.standard {} none).registry.execute { command := "certifications" }
        (mixedContext p) = .ok ⟨o, .matrix⟩ ∧
      lastLabelled? "Total Certifications: " o.text = some "1" := by
  have hread : (Snapshot.ofDocument countedDocument none).toOption.map (fun p =>
      (p.skills.isEmpty, p.projects.isEmpty, p.certifications.isEmpty,
        (statsOf (some p) (mixedContext p).now).toOption)) =
      some (false, false, false, some {
        skills := 4
        projects := 2
        certifications := 1
        featuredProjects := 1
        distribution := [(.backend, 2), (.tools, 1)] }) := by
    decide +kernel
  obtain ⟨p, hp, hcounts⟩ := exists_of_toOption hread
  simp only [Prod.mk.injEq] at hcounts
  obtain ⟨hskills, hprojects, hcertifications, hcounts⟩ := hcounts
  obtain ⟨hexists, hshown⟩ := @execute_counted {} none (mixedContext p) p rfl
  obtain ⟨stats, hstats⟩ := hexists rfl ⟨_, _, hp⟩
  rw [hstats] at hcounts
  obtain rfl := Option.some.inj hcounts
  obtain ⟨hskill, hproject, hcertification, -⟩ := hshown _ hstats
  have hskillPage := hskill (by simpa using hskills)
  obtain ⟨o, hexecute, htotal, hsuccess⟩ := hcertification (by simpa using hcertifications)
    { command := "certifications" }
    (resolve_standard {} none (b := .certifications) (by decide +kernel))
  refine ⟨p, _, hp, hstats, by decide,
    hskillPage _ (resolve_standard {} none (b := .skills) (by decide +kernel)),
    hskillPage _ (resolve_standard {} none (b := .skills) (by decide +kernel)), ?_,
    o, hexecute, htotal (hsuccess rfl ⟨_, _, hp⟩)⟩
  exact hproject (by simpa using hprojects) _
    (resolve_standard {} none (b := .projects) (by decide +kernel))

end Folio.Terminal
