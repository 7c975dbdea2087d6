namespace Folio.Text

def summary (kind : String) : Option (String × String) → String
  | some (label, value) => s!"<{kind} {label}=\"{value}\">"
  | none => s!"<{kind}>"

end Folio.Text
