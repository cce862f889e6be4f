import IsaNames.Text.Key

/-!
# Notices

What is told about a faulty declaration: whose it is, how severe, what is wrong, and perhaps a hint.

## Main definitions

* `Notice` — the parts.
* `Notice.text` — the notice as it is shown.
-/

namespace IsaNames

/-- A message with its severity, and perhaps a hint and the owner of the data it is about. -/
structure Notice where
  severity : String
  message : String
  hint : Option String := none
  owner : Option String := none
  deriving DecidableEq, Repr

namespace Notice

/-- A notice about an error. -/
def error (message : String) (owner hint : Option String) : Notice :=
  ⟨"error", message, hint, owner⟩

/-- The label of the severity: the word in capitals. -/
def label (n : Notice) : String :=
  if n.severity = "error" then "ERROR" else Text.uppercased n.severity

/-- The owner first, if there is one, and the hint last; an empty hint is as good as none. -/
def text (n : Notice) : String :=
  n.owner.elim "" (· ++ ": ") ++ n.label ++ ": " ++ n.message ++
    match n.hint with
    | none => ""
    | some hint => if hint = "" then "" else "  (pista: " ++ hint ++ ")"

end Notice

end IsaNames
