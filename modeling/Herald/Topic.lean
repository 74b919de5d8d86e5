import Herald.Text.Blank
import Herald.Text.Substitution

/-!
# Topics

Where an installation publishes its records. An explicit topic is used as it is,
trimmed; without one, the installation's identifier is put into a template, and
an installation without an identifier counts as `unknown`. Blank settings count
as absent.
-/

namespace Herald.Topic

/-- The topic of an installation, with a place for its identifier. -/
def template : String := "tidings/$UID/log"

/-- The placeholder for the installation's identifier. -/
def placeholder : String := "$UID"

/-- The identifier of an installation that has none. -/
def unknownUid : String := "unknown"

/-- A setting, trimmed; a blank one is none. -/
def given? (setting : Option String) : Option String :=
  setting.bind fun s => if Text.isBlankText s then none else some (Text.trim s)

/-- The topic of an installation that names no topic. -/
def ofUid (uid : Option String) : String :=
  Text.substitute template placeholder ((given? uid).getD unknownUid)

/-- The topic that the settings ask for. -/
def resolve (topic uid : Option String) : String := (given? topic).getD (ofUid uid)

end Herald.Topic
