import Folio.Proofs.Contact.Delivery
import Folio.Proofs.Document.Decode

namespace Folio.Contact

open Folio.Document Folio.Http

def outcomeMessage (r : Response) : String :=
  match r.body with
  | .ok body =>
    match outcomeEntry r body with
    | .text s => if s.isEmpty then outcomeDefault r else s
    | _ => outcomeDefault r
  | .error _ => outcomeDefault r

def outcome (r : Response) : SubmitResult :=
  ⟨r.isSuccess, outcomeMessage r, []⟩

def Telling (r : Response) : Prop :=
  ∃ body, r.body = .ok body ∧
    ((outcomeEntry r body).isTruthy = true → ∃ s, outcomeEntry r body = .text s)

def Unreadable (r : Response) : Prop :=
  ∃ flaw, r.body = .error flaw ∧ ∀ isRecord, flaw ≠ .tooDeep isRecord

def Replied (endpoint : String) (transport : Transport) (d : FormData) (reply : Reply) : Prop :=
  ∃ url, Url.read endpoint = .ok url ∧ transport.reply (postRequest url d) = reply

variable {r : Response} {body : Value}

theorem outcomeMessage_told {s : String} (hbody : r.body = .ok body)
    (hentry : outcomeEntry r body = .text s) (hs : s.isEmpty = false) : outcomeMessage r = s := by
  simp only [outcomeMessage, hbody, hentry, hs]
  rfl

theorem outcomeMessage_untold (hbody : r.body = .ok body)
    (hentry : (outcomeEntry r body).isTruthy = false) : outcomeMessage r = outcomeDefault r := by
  simp only [outcomeMessage, hbody]
  cases h : outcomeEntry r body with
  | text s =>
    rw [h, Value.isTruthy, Bool.not_eq_false'] at hentry
    exact if_pos hentry
  | _ => rfl

theorem resultOf_telling (h : Telling r) : resultOf (.answered r) = .ok (outcome r) := by
  obtain ⟨body, hbody, htext⟩ := h
  refine resultOf_reported ?_
  cases htruthy : (outcomeEntry r body).isTruthy with
  | true =>
    obtain ⟨s, hs⟩ := htext htruthy
    rw [hs, Value.isTruthy, Bool.not_eq_true'] at htruthy
    rw [outcome, outcomeMessage_told hbody hs htruthy]
    exact .told hbody hs htruthy
  | false =>
    rw [outcome, outcomeMessage_untold hbody htruthy]
    exact .untold hbody htruthy

theorem resultOf_unreadable (h : Unreadable r) : resultOf (.answered r) = .ok networkError := by
  obtain ⟨flaw, hbody, hdeep⟩ := h
  exact resultOf_reported (.unreadable hbody hdeep)

theorem resultOf_untelling (htelling : ¬ Telling r) (hreadable : ¬ Unreadable r) :
    ∃ fault, resultOf (.answered r) = .error fault := by
  obtain ⟨result, hreported⟩ | ⟨fault, hunreported⟩ := reported_or_unreported (.answered r)
  · cases hreported with
    | unreadable hbody hdeep => exact absurd ⟨_, hbody, hdeep⟩ hreadable
    | told hbody hentry _ => exact absurd ⟨_, hbody, fun _ => ⟨_, hentry⟩⟩ htelling
    | untold hbody hfalsy =>
      refine absurd ⟨_, hbody, fun htruthy => ?_⟩ htelling
      rw [hfalsy] at htruthy
      cases htruthy
  · exact ⟨fault, resultOf_unreported hunreported⟩

theorem Unreadable.not_telling (h : Unreadable r) : ¬ Telling r := by
  rintro ⟨body, hbody, -⟩
  obtain ⟨flaw, hflaw, -⟩ := h
  rw [hbody] at hflaw
  cases hflaw

theorem Unreadable.outcome_ne (h : Unreadable r) : outcome r ≠ networkError := by
  obtain ⟨flaw, hflaw, -⟩ := h
  have hmessage : outcomeMessage r = outcomeDefault r := by simp only [outcomeMessage, hflaw]
  have hdefault : outcomeDefault r ≠ networkError.message := by
    rw [outcomeDefault]
    split <;> decide
  exact fun houtcome => hdefault (hmessage ▸ congrArg SubmitResult.message houtcome)

theorem resultOf_answered (r : Response) :
    (Telling r ∧ ¬ Unreadable r ∧ resultOf (.answered r) = .ok (outcome r)) ∨
    (¬ Telling r ∧ Unreadable r ∧ resultOf (.answered r) = .ok networkError) ∨
    (¬ Telling r ∧ ¬ Unreadable r ∧ ∃ fault, resultOf (.answered r) = .error fault) := by
  by_cases hunreadable : Unreadable r
  · exact .inr (.inl ⟨hunreadable.not_telling, hunreadable, resultOf_unreadable hunreadable⟩)
  by_cases htelling : Telling r
  · exact .inl ⟨htelling, hunreadable, resultOf_telling htelling⟩
  · exact .inr (.inr ⟨htelling, hunreadable, resultOf_untelling htelling hunreadable⟩)

theorem resultOf_eq_outcome : resultOf (.answered r) = .ok (outcome r) ↔ Telling r := by
  obtain ⟨ht, -, h⟩ | ⟨ht, hu, h⟩ | ⟨ht, -, fault, h⟩ := resultOf_answered r
  · simp [h, ht]
  · simp [h, ht, hu.outcome_ne.symm]
  · simp [h, ht]

theorem resultOf_eq_networkError : resultOf (.answered r) = .ok networkError ↔
    Unreadable r ∨ Telling r ∧ outcome r = networkError := by
  obtain ⟨ht, hu, h⟩ | ⟨ht, hu, h⟩ | ⟨ht, hu, fault, h⟩ := resultOf_answered r
  · simp [h, ht, hu]
  · simp [h, hu]
  · simp [h, ht, hu]

theorem resultOf_fails : (∃ fault, resultOf (.answered r) = .error fault) ↔
    ¬ Telling r ∧ ¬ Unreadable r := by
  obtain ⟨ht, hu, h⟩ | ⟨ht, hu, h⟩ | ⟨ht, hu, fault, h⟩ := resultOf_answered r
  · simp [h, ht]
  · simp [h, hu]
  · simp [h, ht, hu]

variable {endpoint : String} {transport : Transport} {d : FormData} {reply : Reply}

theorem Replied.httpChannel (h : Replied endpoint transport d reply) :
    httpChannel endpoint transport d = resultOf reply := by
  obtain ⟨url, hurl, rfl⟩ := h
  simp only [Contact.httpChannel, hurl]

theorem replied_of_ok {result : SubmitResult} (h : httpChannel endpoint transport d = .ok result) :
    ∃ reply, Replied endpoint transport d reply := by
  cases hurl : Url.read endpoint with
  | ok url => exact ⟨_, url, hurl, rfl⟩
  | error flaw =>
    rw [Contact.httpChannel, hurl] at h
    cases h

/-- A response that arrives comes to the outcome that it tells exactly when its body is a document
whose entry is none or a text. A network error is reported when nothing arrives, and of the
responses exactly for those that tell it themselves and those whose body cannot be read. -/
theorem httpChannel_outcome (endpoint : String) (transport : Transport) (d : FormData) :
    (∀ r, Replied endpoint transport d (.answered r) →
      (httpChannel endpoint transport d = .ok (outcome r) ↔ Telling r) ∧
      ((∃ fault, httpChannel endpoint transport d = .error fault) ↔
        ¬ Telling r ∧ ¬ Unreadable r)) ∧
    (httpChannel endpoint transport d = .ok networkError ↔
      Replied endpoint transport d .unreachable ∨ ∃ r, Replied endpoint transport d (.answered r) ∧
        (Unreadable r ∨ Telling r ∧ outcome r = networkError)) := by
  refine ⟨fun r h => ?_, ?_⟩
  · rw [h.httpChannel]
    exact ⟨resultOf_eq_outcome, resultOf_fails⟩
  constructor
  · intro h
    obtain ⟨reply, hreply⟩ := replied_of_ok h
    rw [hreply.httpChannel] at h
    cases reply with
    | unreachable => exact .inl hreply
    | answered r => exact .inr ⟨r, hreply, resultOf_eq_networkError.1 h⟩
  · rintro (h | ⟨r, h, hr⟩)
    · rw [h.httpChannel]
      rfl
    · rw [h.httpChannel]
      exact resultOf_eq_networkError.2 hr

def busy : Response :=
  ⟨429, .ok (.record [("error", .text "Too many requests")])⟩

theorem httpChannel_outcome_busy :
    Replied "https://portfolio.example.com/api/contact" (fun _ => .answered busy)
      ⟨"Ann", "ann@example.com", "Hello"⟩ (.answered busy) ∧ Telling busy ∧
    httpChannel "https://portfolio.example.com/api/contact" (fun _ => .answered busy)
      ⟨"Ann", "ann@example.com", "Hello"⟩ = .ok ⟨false, "Too many requests", []⟩ := by
  have hread : (Url.read "https://portfolio.example.com/api/contact").toOption.map
      (·.target.isAbsolute) = some true := by decide +kernel
  obtain ⟨url, hurl, habsolute⟩ := exists_of_toOption hread
  have hreplied : Replied "https://portfolio.example.com/api/contact" (fun _ => .answered busy)
      ⟨"Ann", "ann@example.com", "Hello"⟩ (.answered busy) := ⟨url, hurl, if_pos habsolute⟩
  have htelling : Telling busy := ⟨_, rfl, fun _ => ⟨_, rfl⟩⟩
  exact ⟨hreplied, htelling, ((httpChannel_outcome _ _ _).1 busy hreplied).1.2 htelling⟩

theorem httpChannel_unreadable :
    httpChannel "https://portfolio.example.com/api/contact"
      (fun _ => .answered (.ofText 500 "Internal Server Error"))
      ⟨"Ann", "ann@example.com", "Hello"⟩ = .ok networkError ∧
    outcome (.ofText 500 "Internal Server Error") = ⟨false, "Failed to send message", []⟩ ∧
    httpChannel "https://portfolio.example.com/api/contact"
      (fun _ => .answered (.ofText 204 "")) ⟨"Ann", "ann@example.com", "Hello"⟩ =
        .ok networkError ∧
    outcome (.ofText 204 "") = ⟨true, "Message sent successfully!", []⟩ := by
  decide +kernel

end Folio.Contact
