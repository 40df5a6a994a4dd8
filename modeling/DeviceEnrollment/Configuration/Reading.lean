import DeviceEnrollment.Configuration.Error
import DeviceEnrollment.Json.Value

/-!
Settings read from a table: every name has to be known, and every value of the right kind.
-/
namespace DeviceEnrollment.Configuration

namespace Setting

/-- The error of a value at a place. -/
def refuse {α : Type} (value : Setting) (path : List String) (fault : Fault) :
    Except SettingError α :=
  .error ⟨fault, path, value.origin⟩

def asText (value : Setting) (path : List String) : Except SettingError String :=
  match value with
  | .text _ content => .ok content
  | .letter _ c => .ok (String.singleton c)
  | other => other.refuse path (.wrongType other "a string")

def asBool (value : Setting) (path : List String) : Except SettingError Bool :=
  match value with
  | .bool _ value => .ok value
  | other => other.refuse path (.wrongType other "a boolean")

/-- A whole number of 64 bits; `expected` is the name of its kind. -/
def asWhole (expected : String) (value : Setting) (path : List String) :
    Except SettingError Nat :=
  match value with
  | .unsigned _ value => .ok value
  | .signed origin value =>
    if 0 ≤ value then .ok value.toNat
    else (Setting.signed origin value).refuse path (.outOfRange value expected)
  | other => other.refuse path (.wrongType other expected)

/-- `null` stands for no value. -/
def asOption {α : Type} (read : Setting → List String → Except SettingError α) (value : Setting)
    (path : List String) : Except SettingError (Option α) :=
  match value with
  | .null _ => .ok none
  | other => some <$> read other path

def asUnit (value : Setting) (path : List String) : Except SettingError Unit :=
  match value with
  | .null _ => .ok ()
  | other => other.refuse path (.wrongType other "unit")

/-- One of a set of names, as a text or as the first name of a table, whose value is `null`. -/
def asChoice {α : Type} (kind : String) (choices : List (String × α)) (value : Setting)
    (path : List String) : Except SettingError α :=
  let pick (name : String) (place : List String) (source : Setting) : Except SettingError α :=
    match choices.lookup name with
    | some choice => .ok choice
    | none => source.refuse place (.unknownChoice name (choices.map Prod.fst))
  match value with
  | .text origin name => pick name path (.text origin name)
  | .letter origin name => pick (String.singleton name) path (.letter origin name)
  | .table origin [] => (Setting.table origin []).refuse path (.wrongType (.table origin []) "enum")
  | .table _ ((name, held) :: _) => do
    let choice ← pick name (path ++ [name]) held
    held.asUnit (path ++ [name])
    return choice
  | other => other.refuse path (.wrongType other s!"enum {kind}")

end Setting

/-- Takes one named value over into settings. -/
def takeSetting (settings : Settings) (name : String) (value : Setting) :
    Except SettingError Settings :=
  let path := [name]
  match name with
  | "endpoint" => do return { settings with endpoint := ← value.asText path }
  | "api_version" => do return { settings with apiVersion := ← value.asText path }
  | "request_timeout_ms" => do
    return { settings with requestTimeoutMillis := ← value.asWhole "u64" path }
  | "max_response_size_bytes" => do
    return { settings with maxResponseSize := ← value.asWhole "usize" path }
  | "user_agent" => do
    return { settings with userAgent := ← value.asOption Setting.asText path }
  | "credential" => do
    let credential ← value.asOption Setting.asText path
    return { settings with credential := credential.map Credential.mk }
  | "allow_insecure_http" => do
    return { settings with allowInsecureHttp := ← value.asBool path }
  | "tls_roots" => do
    return { settings with tlsRoots := ← value.asChoice "TlsRoots" Http.TlsRoots.variants path }
  | "max_concurrent_requests" => do
    return { settings with
      maxConcurrentRequests := ← value.asOption (Setting.asWhole "usize") path }
  | unknown => value.refuse path (.unknownSetting unknown)

/-- Settings with the values of a table in place of the usual ones. -/
def settingsOf (table : Table) : Except SettingError Settings :=
  table.foldlM (fun settings entry => takeSetting settings entry.1 entry.2) Settings.default

/-! ### Values set by the program -/

mutual

def Setting.ofJson : Json.Value → Setting
  | .null => .null .program
  | .bool value => .bool .program value
  | .number (.integer value) =>
    if 0 ≤ value then .unsigned .program value.toNat else .signed .program value
  | .number (.double value) => .double .program value
  | .text value => .text .program value
  | .list _ => .list .program
  | .object members => .table .program (Table.ofMembers members)

def Table.ofMembers : List (String × Json.Value) → Table
  | [] => []
  | (name, value) :: rest => Table.insert name (Setting.ofJson value) (Table.ofMembers rest)

end

/-! ### Layers -/

/-- A table, or the reason why its source cannot be read. -/
abbrev Layer := Except SettingError Table

/-- Lays tables over one another, the later ones above. Sources that cannot be read are all
reported. -/
def mergeLayers : List Layer → Except (List SettingError) Table :=
  List.foldl merge (.ok [])
where
  merge : Except (List SettingError) Table → Layer → Except (List SettingError) Table
    | .ok below, .ok table => .ok (Table.over below table)
    | .ok _, .error error => .error [error]
    | .error errors, .ok _ => .error errors
    | .error errors, .error error => .error (error :: errors)

/-- The settings that layers make up. -/
def settingsOfLayers (layers : List Layer) : Except (List SettingError) Settings := do
  let table ← mergeLayers layers
  match settingsOf table with
  | .ok settings => .ok settings
  | .error error => .error [error]

end DeviceEnrollment.Configuration
