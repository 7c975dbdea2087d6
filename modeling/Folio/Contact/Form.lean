import Folio.Contact.Address
import Folio.Fault

namespace Folio.Contact

open Folio.Document Folio.Text

structure ContactInfo where
  email : String := ""
  socials : List (String × String) := []
  deriving DecidableEq, Repr

namespace ContactInfo

def ofFields (o : Fields) : Decoded ContactInfo :=
  ContactInfo.mk
    <$> optional o (.plain "email") "" text
    <*> optional o (.plain "socials") [] (mapping text)

def decode : Decoder ContactInfo := record ofFields

def toDocument (c : ContactInfo) : Value :=
  .record [("email", .text c.email),
    ("socials", .record (c.socials.map fun (k, url) => (k, .text url)))]

def profile? (c : ContactInfo) (network : String) : Option String :=
  (c.socials.lookup network).filter (!·.isEmpty)

end ContactInfo

structure FormData where
  name : String := ""
  email : String := ""
  message : String := ""
  deriving DecidableEq, Repr

inductive Field where
  | name
  | email
  | message
  deriving DecidableEq, Repr

def Field.all : List Field := [.name, .email, .message]

def Field.key : Field → String
  | name => "name"
  | email => "email"
  | message => "message"

def Field.label : Field → String
  | name => "Name"
  | email => "Email"
  | message => "Message"

inductive Problem where
  | noName
  | noEmail
  | badEmail
  | noMessage
  deriving DecidableEq, Repr

def Problem.field : Problem → Field
  | noName => .name
  | noEmail => .email
  | badEmail => .email
  | noMessage => .message

def Problem.message : Problem → String
  | noName => "Name is required"
  | noEmail => "Email is required"
  | badEmail => "Please enter a valid email address"
  | noMessage => "Message cannot be empty"

def isBlankText (s : String) : Bool :=
  s.toList.all isBlank

namespace FormData

def decode : Decoder FormData := record fun o =>
  FormData.mk
    <$> optional o (.plain "name") "" text
    <*> optional o (.plain "email") "" text
    <*> optional o (.plain "message") "" text

def toDocument (d : FormData) : Value :=
  .record [("name", .text d.name), ("email", .text d.email), ("message", .text d.message)]

def emailProblem? (d : FormData) : Option Problem :=
  if isBlankText d.email then some .noEmail
  else if isAddress d.email then none
  else some .badEmail

def problems (d : FormData) : List Problem :=
  (if isBlankText d.name then [.noName] else []) ++ d.emailProblem?.toList ++
    (if isBlankText d.message then [.noMessage] else [])

end FormData

structure SubmitResult where
  success : Bool
  message : String
  errors : List (String × String) := []
  deriving DecidableEq, Repr

def SubmitResult.decode : Decoder SubmitResult := record fun o =>
  SubmitResult.mk
    <$> required o (.plain "success") boolean
    <*> required o (.plain "message") text
    <*> optional o (.plain "errors") [] (mapping text)

abbrev Channel := FormData → Except Fault SubmitResult

structure ContactForm where
  channel : Option Channel
  info : Option ContactInfo

def ContactForm.canSubmit (f : ContactForm) : Bool :=
  f.channel.isSome

structure Submission where
  result : Except Fault SubmitResult
  sent : Option FormData

def unavailable : SubmitResult :=
  ⟨false, "Messaging is not available right now. Please use the email above.", []⟩

def rejection (first : Problem) (problems : List Problem) : SubmitResult :=
  ⟨false, first.message, problems.map fun p => (p.field.key, p.message)⟩

def ContactForm.submit (f : ContactForm) (d : FormData) : Submission :=
  match d.problems with
  | p :: ps => ⟨.ok (rejection p (p :: ps)), none⟩
  | [] =>
    match f.channel with
    | none => ⟨.ok unavailable, none⟩
    | some deliver => ⟨deliver d, some d⟩

end Folio.Contact
