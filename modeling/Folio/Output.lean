import Folio.Contact.Form

namespace Folio

open Folio.Contact Folio.Document

inductive Content where
  | plain (text : String)
  | element (node : String) (data : Fields) (text : String) (form : Option ContactForm)

inductive Action where
  | render
  | clear
  deriving DecidableEq, Repr

def Action.name : Action → String
  | render => "render"
  | clear => "clear"

def Action.named? (s : String) : Option Action :=
  [Action.render, .clear].find? (·.name = s)

structure Output where
  success : Bool
  content : Content
  error : Option String
  action : Action

namespace Content

def text : Content → String
  | plain text => text
  | element _ _ text _ => text

def form? : Content → Option ContactForm
  | plain _ => none
  | element _ _ _ form => form

def noForm : Decoder (Option ContactForm)
  | .null => .ok none
  | _ => .complain .notForm

def anyRecord : Decoder Fields
  | .record fields => .ok fields
  | _ => .complain .notMapping

def elementOfFields (o : Fields) : Decoded Content :=
  element
    <$> required o (.plain "node") Document.text
    <*> optional o (.plain "data") [] anyRecord
    <*> optional o (.plain "text") "" Document.text
    <*> optional o (.plain "form") none noForm

def decode : Decoder Content
  | .record o =>
    match o.lookup "kind" with
    | none => .complain .untagged
    | some (.text "text") =>
      (plain <$> optional o (.plain "text") "" Document.text).under (.key "text")
    | some (.text "structured") => (elementOfFields o).under (.key "structured")
    | some _ => .complain .unknownTag
  | _ => .complain .notAttributes

def toDocument : Content → Value
  | plain text => .record [("kind", .text "text"), ("text", .text text)]
  | element node data text _ => .record [("kind", .text "structured"), ("node", .text node),
      ("data", .record data), ("text", .text text)]

end Content

namespace Output

def plain (text : String) : Output :=
  ⟨true, .plain text, none, .render⟩

def element (node text : String) (data : Fields) (form : Option ContactForm := none) : Output :=
  ⟨true, .element node data text form, none, .render⟩

def failure (content : Content) (error : String) : Output :=
  ⟨false, content, some error, .render⟩

def clear : Output :=
  ⟨true, .plain "", none, .clear⟩

def isClear (o : Output) : Bool :=
  o.action = .clear

def text (o : Output) : String :=
  o.content.text

def decode : Decoder Output := record fun o =>
  Output.mk
    <$> required o (.plain "success") boolean
    <*> optional o (.plain "content") (.plain "") Content.decode
    <*> optional o (.plain "error") none (nullable Document.text)
    <*> optional o (.plain "action") .render (oneOf .notMember Action.named?)

def toDocument (o : Output) : Value :=
  .record [("success", .bool o.success), ("content", o.content.toDocument),
    ("error", .ofOption .text o.error), ("action", .text o.action.name)]

end Output

end Folio
