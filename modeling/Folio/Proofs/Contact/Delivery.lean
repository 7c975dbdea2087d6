import Mathlib
import Folio.Contact.Delivery

namespace Folio.Contact

open Folio.Document Folio.Http

def outcomeKey (r : Response) : String :=
  if r.isSuccess then "message" else "error"

def outcomeEntry (r : Response) (body : Value) : Value :=
  match body with
  | .record fields => (Fields.get? fields (outcomeKey r)).getD .null
  | _ => .null

def outcomeDefault (r : Response) : String :=
  if r.isSuccess then "Message sent successfully!" else "Failed to send message"

/-- No result can be made of a body that is nested too deep, or of an entry that counts as there
and is no text. -/
inductive Unreported : Reply → Fault → Prop
  | tooDeep {r : Response} {isRecord : Bool} : r.body = .error (.tooDeep isRecord) →
      Unreported (.answered r) (.badBody (.tooDeep isRecord))
  | notText {r : Response} {body : Value} : r.body = .ok body →
      (outcomeEntry r body).isTruthy = true → (∀ s, outcomeEntry r body ≠ .text s) →
      Unreported (.answered r) (.invalid [⟨[.key "message"], .notText⟩])

inductive Reported : Reply → SubmitResult → Prop
  | unreachable : Reported .unreachable networkError
  | unreadable {r : Response} {flaw : Flaw} : r.body = .error flaw →
      (∀ isRecord, flaw ≠ .tooDeep isRecord) → Reported (.answered r) networkError
  | told {r : Response} {body : Value} {s : String} : r.body = .ok body →
      outcomeEntry r body = .text s → s.isEmpty = false →
      Reported (.answered r) ⟨r.isSuccess, s, []⟩
  | untold {r : Response} {body : Value} : r.body = .ok body →
      (outcomeEntry r body).isTruthy = false →
      Reported (.answered r) ⟨r.isSuccess, outcomeDefault r, []⟩

theorem bodyText_outcome (r : Response) (body : Value) (fallback : String) :
    bodyText body (outcomeKey r) fallback =
      if (outcomeEntry r body).isTruthy then
        match (text (outcomeEntry r body)).under (.key "message") with
        | .ok s => .ok s
        | .failed issues => .error (.invalid issues)
      else .ok fallback := rfl

theorem text_not_text {v : Value} (h : ∀ s, v ≠ .text s) : text v = .failed [⟨[], .notText⟩] := by
  cases v with
  | text s => exact absurd rfl (h s)
  | _ => rfl

theorem resultOf_body {r : Response} {body : Value} (h : r.body = .ok body) :
    resultOf (.answered r) =
      (bodyText body (outcomeKey r) (outcomeDefault r)).map (⟨r.isSuccess, ·, []⟩) := by
  simp only [resultOf, h, outcomeKey, outcomeDefault]
  cases r.isSuccess <;> rfl

theorem resultOf_unreported {reply : Reply} {fault : Fault} (h : Unreported reply fault) :
    resultOf reply = .error fault := by
  cases h with
  | tooDeep hbody => simp only [resultOf, hbody]
  | notText hbody htruthy hentry =>
    rw [resultOf_body hbody, bodyText_outcome, if_pos htruthy, text_not_text hentry]
    rfl

theorem resultOf_reported {reply : Reply} {result : SubmitResult} (h : Reported reply result) :
    resultOf reply = .ok result := by
  cases h with
  | unreachable => rfl
  | @unreadable r flaw hbody hdeep =>
    cases flaw with
    | tooDeep isRecord => exact absurd rfl (hdeep isRecord)
    | _ => simp only [resultOf, hbody]
  | @told r body s hbody hentry hempty =>
    have htruthy : (outcomeEntry r body).isTruthy = true := by
      rw [hentry, Value.isTruthy, hempty]
      rfl
    rw [resultOf_body hbody, bodyText_outcome, if_pos htruthy, hentry]
    rfl
  | untold hbody hfalsy =>
    rw [resultOf_body hbody, bodyText_outcome, hfalsy]
    rfl

theorem reported_or_unreported (reply : Reply) :
    (∃ result, Reported reply result) ∨ ∃ fault, Unreported reply fault := by
  cases reply with
  | unreachable => exact .inl ⟨_, .unreachable⟩
  | answered r =>
    cases hbody : r.body with
    | error flaw =>
      cases flaw with
      | tooDeep isRecord => exact .inr ⟨_, .tooDeep hbody⟩
      | _ => exact .inl ⟨_, .unreadable hbody nofun⟩
    | ok body =>
      cases htruthy : (outcomeEntry r body).isTruthy with
      | false => exact .inl ⟨_, .untold hbody htruthy⟩
      | true =>
        by_cases hentry : ∃ s, outcomeEntry r body = .text s
        · obtain ⟨s, hs⟩ := hentry
          rw [hs, Value.isTruthy, Bool.not_eq_true'] at htruthy
          exact .inl ⟨_, .told hbody hs htruthy⟩
        · exact .inr ⟨_, .notText hbody htruthy (not_exists.1 hentry)⟩

theorem resultOf_ok_iff {reply : Reply} {result : SubmitResult} :
    resultOf reply = .ok result ↔ Reported reply result := by
  refine ⟨fun h => ?_, resultOf_reported⟩
  obtain ⟨other, hother⟩ | ⟨fault, hfault⟩ := reported_or_unreported reply
  · rw [resultOf_reported hother] at h
    exact Except.ok.inj h ▸ hother
  · rw [resultOf_unreported hfault] at h
    cases h

theorem resultOf_error_iff {reply : Reply} {fault : Fault} :
    resultOf reply = .error fault ↔ Unreported reply fault := by
  refine ⟨fun h => ?_, resultOf_unreported⟩
  obtain ⟨result, hresult⟩ | ⟨other, hother⟩ := reported_or_unreported reply
  · rw [resultOf_reported hresult] at h
    cases h
  · rw [resultOf_unreported hother] at h
    exact Except.error.inj h ▸ hother

/-- A message goes out once its endpoint can be read, and comes to the result its reply is reported
as. There is no result exactly when the endpoint is no address, when the body of the reply is nested
too deep, and when the entry that tells the outcome counts as there and is no text. -/
theorem httpChannel_spec (endpoint : String) (transport : Transport) (d : FormData) :
    (∀ result, httpChannel endpoint transport d = .ok result ↔
      ∃ url, Url.read endpoint = .ok url ∧
        Reported (transport.reply (postRequest url d)) result) ∧
    ∀ fault, httpChannel endpoint transport d = .error fault ↔
      (∃ flaw, Url.read endpoint = .error flaw ∧ fault = .badUrl flaw) ∨
      ∃ url, Url.read endpoint = .ok url ∧
        Unreported (transport.reply (postRequest url d)) fault := by
  cases hurl : Url.read endpoint with
  | error flaw => simp [httpChannel, hurl, eq_comm]
  | ok url => simp [httpChannel, hurl, resultOf_ok_iff, resultOf_error_iff]

theorem httpChannel_error_record :
    httpChannel "https://portfolio.example.com/api/contact"
      (fun _ => .answered ⟨500, .ok (.record [("error", .record [("code", .int 1)])])⟩)
      ⟨"Ann", "ann@example.com", "Hello"⟩ =
        .error (.invalid [⟨[.key "message"], .notText⟩]) := by decide +kernel

end Folio.Contact
