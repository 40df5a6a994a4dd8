import DeviceEnrollment.Configuration.Value
import DeviceEnrollment.Settings

/-!
What is wrong with settings, and where.
-/
namespace DeviceEnrollment.Configuration

inductive Fault where
  | wrongType (found : Setting) (expected : String)
  | outOfRange (value : Int) (expected : String)
  | unknownSetting (name : String)
  | unknownChoice (name : String) (choices : List String)
  /-- The source cannot be read at all. -/
  | unreadable (reason : String)

/-- The names that would have been accepted. -/
def choiceText (names : List String) : String :=
  match names.map fun name => s!"`{name}`" with
  | [first, second] => first ++ " or " ++ second
  | several => "one of " ++ ", ".intercalate several

def Fault.message : Fault → String
  | wrongType found expected => s!"invalid type: found {found.kindText}, expected {expected}"
  | outOfRange value expected => s!"invalid value signed int `{value}`, expected {expected}"
  | unknownSetting name =>
    s!"unknown field: found `{name}`, expected `{choiceText Settings.names}`"
  | unknownChoice name choices =>
    s!"unknown variant: found `{name}`, expected `{choiceText choices}`"
  | unreadable reason => reason

/-- A fault and its place; a source as a whole has no path. -/
structure SettingError where
  fault : Fault
  path : List String
  origin : Origin

def SettingError.message (error : SettingError) : String :=
  let place := if error.path.isEmpty then ""
    else " for key " ++ Text.quoted (error.origin.keyText error.path)
  error.fault.message ++ place ++ error.origin.text

/-- Several sources may be at fault, the last one being named first. -/
def errorText (errors : List SettingError) : String :=
  "invalid registry client configuration: " ++
    "\n".intercalate (errors.map SettingError.message)

end DeviceEnrollment.Configuration
