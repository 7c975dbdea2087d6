import Folio.Contact.Form
import Folio.Http

namespace Folio.Contact

open Folio.Document Folio.Http

def postRequest (endpoint : Url) (d : FormData) : Request :=
  ⟨.post, endpoint.target, some d.toDocument⟩

def networkError : SubmitResult :=
  ⟨false, "Network error. Please try again later.", []⟩

def bodyText (body : Value) (key fallback : String) : Except Fault String :=
  let entry := match body with
    | .record fields => (Fields.get? fields key).getD .null
    | _ => .null
  if entry.isTruthy then
    match (text entry).under (.key "message") with
    | .ok s => .ok s
    | .failed issues => .error (.invalid issues)
  else .ok fallback

def resultOf : Reply → Except Fault SubmitResult
  | .unreachable => .ok networkError
  | .answered r =>
    match r.body with
    | .error (.tooDeep isRecord) => .error (.badBody (.tooDeep isRecord))
    | .error _ => .ok networkError
    | .ok body =>
      if r.isSuccess then
        (bodyText body "message" "Message sent successfully!").map (⟨true, ·, []⟩)
      else
        (bodyText body "error" "Failed to send message").map (⟨false, ·, []⟩)

def httpChannel (endpoint : String) (transport : Transport) : Channel := fun d =>
  match Url.read endpoint with
  | .error flaw => .error (.badUrl flaw)
  | .ok url => resultOf (transport.reply (postRequest url d))

def postRequests (endpoint : String) (sent : List FormData) : List Request :=
  match Url.read endpoint with
  | .error _ => []
  | .ok url => sent.map (postRequest url)

end Folio.Contact
