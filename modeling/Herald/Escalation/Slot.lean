import Herald.Escalation.Application
import Herald.Table

/-!
# The application slot

One application at most is installed. The slot also keeps, per label, what each
recording application has taken so far, oldest first; a label gets its inbox
when it is first installed.
-/

namespace Herald

/-- Who is installed, and what every recording application took. -/
structure Slot where
  current : Option Application := none
  inboxes : Table String (List Escalation) := []

namespace Slot

/-- What an application took, oldest first. -/
def inbox (s : Slot) (label : String) : List Escalation := (Table.get? s.inboxes label).getD []

/-- Puts an escalation into an application's inbox. -/
def deposit (s : Slot) (label : String) (e : Escalation) : Slot :=
  { s with inboxes := Table.set s.inboxes label (s.inbox label ++ [e]) }

/-- Installs an application; a new label starts with an empty inbox. -/
def install (s : Slot) (a : Application) : Slot :=
  match a with
  | .recording label => ⟨some a, Table.set s.inboxes label (s.inbox label)⟩
  | .panicking => { s with current := some a }

/-- Takes the application out. -/
def clear (s : Slot) : Slot := { s with current := none }

end Slot

end Herald
