import SignOn.Document.Toml.Read
import SignOn.Environment.File
import SignOn.Event
import SignOn.Settings.Reading
import SignOn.Settings.Variables

/-!
# Loading settings

Settings come from three layers: defaults, a TOML document, and the environment,
which counts most. A service starts with them once they are checked.
-/

set_option autoImplicit false

namespace SignOn.Settings

open SignOn.Document

/-- Settings that hold when nothing else is said. -/
def defaults : Value :=
  .table [
    ("server", .table [("host", .text "0.0.0.0"), ("port", .integer 8698)]),
    ("logging", .table [("level", .text "debug")])]

/-- The document of all layers. A value of the first given layers that is no
table gives way to a table of the same name before both meet the defaults. -/
def layered (given : List (List (String × Value))) : Value :=
  layer (entriesOf (given.foldl (fun present settings => layer settings present) (.table [])))
    defaults

/-- The entries of the TOML document, which a mark of the byte order may precede;
without a document there are none. -/
def documentEntries : Option String → Option (List (String × Value))
  | none => some []
  | some text => Toml.read? (Text.Utf8.dropMark text.toList)

/-- The settings in a TOML document and in the environment. -/
def load (document : Option String) (environment : Environment) : Option Settings := do
  let entries ← documentEntries document
  Settings.read lenient (layered [entries, Variables.settings environment])

/-- Why a service cannot start. -/
inductive LoadFault where
  /-- The settings cannot be read. -/
  | unreadable
  /-- The settings do not fit together. -/
  | invalid (fault : CoreFault)

/-- Checked settings in a TOML document, the environment and a file of further
variables. -/
def loadValid (document : Option String) (environment : Environment)
    (further : Option String) : Except LoadFault Settings :=
  match load document (further.elim environment environment.addFile) with
  | none => .error .unreadable
  | some settings =>
    match settings.validate with
    | .ok _ => .ok settings
    | .error fault => .error (.invalid fault)

/-- What the log says about checked settings. -/
def events (settings : Settings) : List Event :=
  [.mechanismsConfigured settings.auth.federated settings.auth.kerberosEnabled
    settings.auth.ldap?.isSome]

end SignOn.Settings
