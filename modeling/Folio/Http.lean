import Folio.Document.Json
import Folio.Http.Url

namespace Folio

open Folio.Document Folio.Http

inductive Method where
  | get
  | post
  deriving DecidableEq, Repr

structure Request where
  method : Method
  url : Url
  body : Option Value := none

def Request.get (url : Url) : Request :=
  ⟨.get, url.target, none⟩

structure Response where
  status : Nat
  body : Except Flaw Value

inductive Reply where
  | unreachable
  | answered (response : Response)

def Response.ofText (status : Nat) (text : String) : Response :=
  ⟨status, Json.readBody text⟩

def Response.isSuccess (r : Response) : Bool :=
  200 ≤ r.status && r.status < 300

abbrev Transport := Request → Reply

def Transport.reply (t : Transport) (r : Request) : Reply :=
  if r.url.isAbsolute then t r else .unreachable

end Folio
