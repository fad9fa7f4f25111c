import SignOn.Document.Path
import SignOn.Environment.Basic

/-!
# Settings in the environment

A variable named `KILN__SERVER__PORT`, in any letter case, holds the setting
`server.port`. Its value is a truth value, a number or a text, and for the list
of allowed users several texts.
-/

set_option autoImplicit false

namespace SignOn.Settings.Variables

open SignOn.Document

/-- Lower case of a character in a name; the Kelvin sign is a capital `k` too. -/
def lowerChar (c : Char) : Char :=
  if c = '\u212A' then 'k' else Text.lowerChar c

/-- Name with a point for every pair of underscores. -/
def withPoints : List Char → List Char
  | '_' :: '_' :: cs => '.' :: withPoints cs
  | c :: cs => c :: withPoints cs
  | [] => []

/-- How the names of these variables start, in lower case. -/
def head : String := "kiln__"

/-- The setting that a variable of this name holds, if it holds one. -/
def settingOf? (name : String) : Option String :=
  (Text.dropHead? head.toList (name.toList.map lowerChar)).map fun rest =>
    String.ofList (withPoints rest)

/-- The setting that is a list of texts. -/
def listSetting : String := "auth.allowed_users"

/-- The value of a setting that is written as a text. -/
def valueOf (setting text : String) : Value :=
  let word := Text.lower text
  if word = "true" then .flag true
  else if word = "false" then .flag false
  else
    match Decimal.int64? text.toList with
    | some n => .integer n
    | none =>
      match Decimal.double? text.toList with
      | some x => .double x
      | none =>
        if setting = listSetting then .list ((Text.pieces ',' text).map .text) else .text text

/-- The setting and value in a variable; empty variables hold none. -/
def setting? (name text : String) : Option (String × Value) :=
  if text = "" then none
  else (settingOf? name).map fun setting => (setting, valueOf setting text)

/-- The settings in an environment. Of two variables that hold the same one the
later counts. -/
def settings (environment : Environment) : List (String × Value) :=
  (Table.ofList (environment.entries.filterMap fun (name, text) => setting? name text)).entries

end SignOn.Settings.Variables
