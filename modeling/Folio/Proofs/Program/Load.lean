import Folio.Program.Run
import Folio.Proofs.Portfolio.Rows

namespace Folio

open Folio.Document Folio.Http Folio.Portfolio Folio.Program Folio.Text

namespace Portfolio

namespace Source

def name : Source → String
  | file path => Path.normalized path
  | address url => url

def StopsIn : Except Flaw Value → Prop
  | .ok v => HoldsMisshapen v
  | .error .malformed => False
  | .error _ => True

def BodyStops : Except Flaw Value → Prop
  | .ok v => HoldsMisshapen v
  | .error (.tooDeep _) => True
  | .error _ => False

def Stops (files : Files) (transport : Transport) : Source → Prop
  | file path => files path = .noFile .noPath ∨
      ∃ text, files path = .file text ∧ StopsIn (parse path text)
  | address url => (∃ flaw, Url.read url = .error flaw) ∨
      ∃ u r, Url.read url = .ok u ∧ transport.reply (.get u) = .answered r ∧
        r.isSuccess = true ∧ BodyStops r.body

end Source

/-- What comes of a source: a snapshot or the report that there is none, or else a failure that is
no report, exactly when something stops the reading. -/
inductive Verdict (stops : Prop) (source : String) : Except SourceError Snapshot → Prop
  | taken : ¬ stops → (p : Snapshot) → Verdict stops source (.ok p)
  | reported : ¬ stops → (reason : Unusable) →
      Verdict stops source (.error (unusable reason source))
  | stopped : stops → {e : SourceError} → (∀ reason name, e ≠ .load (.unusable reason name)) →
      Verdict stops source (.error e)

theorem verdict_ofDocument (v : Value) (source : String) :
    Verdict (HoldsMisshapen v) source
      ((Snapshot.ofDocument v (some source)).mapError .load) := by
  by_cases h : HoldsMisshapen v
  · obtain ⟨f, hf⟩ := stopped_ofDocument h (some source)
    rw [hf]
    exact .stopped h nofun
  · obtain ⟨p, hp⟩ | ⟨reason, hreason⟩ := accounted_ofDocument h (some source)
    · rw [hp]
      exact .taken h p
    · rw [hreason]
      exact .reported h reason

theorem verdict_ofFile (path text : String) :
    Verdict (Source.StopsIn (parse path text)) (Path.normalized path)
      (Snapshot.ofFile path (.file text)) := by
  unfold Snapshot.ofFile
  dsimp only
  generalize Path.normalized path = name
  generalize parse path text = parsed
  cases parsed with
  | ok v => exact verdict_ofDocument v name
  | error flaw =>
    cases flaw with
    | malformed => exact .reported (fun h => h) (.unparsable name)
    | scalar flaw => exact .stopped trivial nofun
    | tooDeep isRecord => exact .stopped trivial nofun

theorem verdict_ofReply (url : String) (r : Response) :
    Verdict (r.isSuccess = true ∧ Source.BodyStops r.body) url
      (Snapshot.ofReply url (.answered r)) := by
  unfold Snapshot.ofReply
  dsimp only
  generalize r.isSuccess = success
  generalize r.body = body
  cases success with
  | false => exact .reported (fun h => nomatch h.1) (.refused r.status)
  | true =>
    rw [if_pos rfl, eq_self, true_and]
    cases body with
    | ok v => exact verdict_ofDocument v url
    | error flaw =>
      cases flaw with
      | malformed => exact .reported (fun h => h) (.unfetched url)
      | scalar flaw => exact .reported (fun h => h) (.unfetched url)
      | tooDeep isRecord => exact .stopped trivial nofun

theorem verdict_read (files : Files) (transport : Transport) (source : Source) :
    Verdict (source.Stops files transport) source.name (source.read files transport) := by
  cases source with
  | file path =>
    unfold Source.read Source.name Source.Stops
    dsimp only
    cases hentry : files path with
    | file text => simpa using verdict_ofFile path text
    | noFile why =>
      unfold Snapshot.ofFile
      dsimp only
      generalize Path.normalized path = name
      cases why with
      | noPath => exact .stopped (.inl rfl) nofun
      | _ => exact .reported (by simp) _
  | address url =>
    unfold Source.read Source.name Source.Stops
    dsimp only
    cases hurl : Url.read url with
    | error flaw => exact .stopped (.inl ⟨flaw, rfl⟩) nofun
    | ok u =>
      dsimp only
      cases hreply : transport.reply (.get u) with
      | unreachable => exact .reported (by simp [hreply]) _
      | answered r => simpa [hreply] using verdict_ofReply url r

end Portfolio

namespace Program

theorem load_unnamed {w : Surroundings} {s : Settings} (h : Source.ofSettings? s.source = none) :
    load w s = .ok {} := by
  simp only [load, h]

theorem load_named {w : Surroundings} {s : Settings} {source : Source}
    (h : Source.ofSettings? s.source = some source) :
    (¬ source.Stops w.files w.transport ∧ ((∃ p, load w s = .ok { data := some p }) ∨
        ∃ reason, load w s = .ok { notice := some (.snapshot reason) })) ∨
      (source.Stops w.files w.transport ∧ ∃ e, load w s = .error (.source e)) := by
  have hverdict := verdict_read w.files w.transport source
  simp only [load, h]
  generalize source.read w.files w.transport = x at hverdict
  cases hverdict with
  | taken hstops p => exact .inl ⟨hstops, .inl ⟨p, rfl⟩⟩
  | reported hstops reason => exact .inl ⟨hstops, .inr ⟨reason, rfl⟩⟩
  | @stopped hstops e he =>
    refine .inr ⟨hstops, e, ?_⟩
    split
    next => cases ‹Except.error e = .ok _›
    next hreport => exact absurd (Except.error.inj hreport) (he _ _)
    next herror => rw [Except.error.inj herror]

/-- A document is accounted for, with a snapshot or a report that names its source, exactly when it
does not hold misshapen rows; so is a source, unless something stops its reading; and loading fails
exactly when the source that is named stops it, and else gives a snapshot or a notice if any source
is named. -/
theorem load_error_iff (w : Surroundings) (s : Settings) :
    (∀ v source, Accounted source (Snapshot.ofDocument v source) ↔ ¬ HoldsMisshapen v) ∧
    (∀ source : Source, Verdict (source.Stops w.files w.transport) source.name
      (source.read w.files w.transport)) ∧
    ((∃ b, load w s = .error b) ↔
      ∃ source, Source.ofSettings? s.source = some source ∧ source.Stops w.files w.transport) ∧
    ∀ loaded, load w s = .ok loaded → loaded.data = none → loaded.notice = none →
      Source.ofSettings? s.source = none := by
  refine ⟨accounted_ofDocument_iff, verdict_read w.files w.transport, ?_⟩
  cases hsource : Source.ofSettings? s.source with
  | none => simp [load_unnamed hsource]
  | some source =>
    obtain ⟨hstops, ⟨p, hload⟩ | ⟨reason, hload⟩⟩ | ⟨hstops, e, hload⟩ :=
      load_named (w := w) hsource
    · simp [hload, hstops]
    · simp [hload, hstops]
    · simp [hload, hstops]

end Program

end Folio
