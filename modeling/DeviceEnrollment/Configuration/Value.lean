import DeviceEnrollment.Number.Shortest
import DeviceEnrollment.Text.Quoted

/-!
Settings before they are given their meaning: values of several kinds, each of which knows the
source that it comes from, and tables of them that are laid over one another.
-/
namespace DeviceEnrollment.Configuration

open Number

/-- Where a value was set. -/
inductive Origin where
  /-- By the program itself. -/
  | program
  | yamlText
  | yamlFile (name : String)
  | environment
deriving DecidableEq, Repr

/-- What the names of environment variables begin with. -/
def environmentMark : String := "DPS_REGISTRY_"

/-- The source as an error names it. The program itself is not named. -/
def Origin.text : Origin → String
  | program => ""
  | yamlText => " in YAML source string"
  | yamlFile name => s!" in {name} YAML file"
  | environment => s!" in `{environmentMark}` environment variable(s)"

/-- The place of a value in the spelling of its source. -/
def Origin.keyText (origin : Origin) (path : List String) : String :=
  match origin with
  | environment => ".".intercalate (path.map String.toUpper)
  | _ => ".".intercalate ("default" :: path)

inductive Setting where
  | null (origin : Origin)
  | bool (origin : Origin) (value : Bool)
  | unsigned (origin : Origin) (value : Nat)
  | signed (origin : Origin) (value : Int)
  /-- An integer of more than 64 bits. -/
  | wide (origin : Origin) (value : Int)
  | double (origin : Origin) (value : Double)
  | letter (origin : Origin) (value : Char)
  | text (origin : Origin) (value : String)
  /-- A list, which is never what a setting should be, whatever its elements are. -/
  | list (origin : Origin)
  | table (origin : Origin) (entries : List (String × Setting))

/-- Values under names, sorted by name. -/
abbrev Table := List (String × Setting)

namespace Setting

def origin : Setting → Origin
  | null origin | bool origin _ | unsigned origin _ | signed origin _ | wide origin _
  | double origin _ | letter origin _ | text origin _ | list origin | table origin _ => origin

/-- Doubles without a power of ten, and without a point if they are whole. -/
def doubleFormat : DoubleFormat :=
  { positional := fun _ => true
    pointZero := false
    exponentSign := []
    infinity := "inf"
    notANumber := "NaN" }

/-- What stands there, in an error. -/
def kindText : Setting → String
  | null _ => "unit"
  | bool _ value => if value then "bool true" else "bool false"
  | unsigned _ value => s!"unsigned int `{value}`"
  | signed _ value => s!"signed int `{value}`"
  | wide _ value => s!"integer `{value}` as " ++ if value < 0 then "i128" else "u128"
  | double _ value => "float `" ++ String.ofList (doubleFormat.write value) ++ "`"
  | letter _ value => "char '" ++ String.ofList (Text.quotedChar value) ++ "'"
  | text _ value => "string " ++ Text.quoted value
  | list _ => "sequence"
  | table _ _ => "map"

end Setting

namespace Table

/-- Sets a value, at its place in the order of names. -/
def insert (name : String) (value : Setting) : Table → Table
  | [] => [(name, value)]
  | (other, held) :: rest =>
    if name < other then (name, value) :: (other, held) :: rest
    else if name = other then (name, value) :: rest
    else (other, held) :: insert name value rest

def ofEntries (entries : List (String × Setting)) : Table :=
  entries.foldl (fun table entry => insert entry.1 entry.2 table) []

end Table

mutual

/-- A value laid over another one. Only tables let shine through what they do not set. -/
def Setting.over (below : Option Setting) : Setting → Setting
  | .table origin entries =>
    match below with
    | some (.table _ held) => .table origin (Table.over held entries)
    | _ => .table origin (Table.over [] entries)
  | other => other

/-- A table laid over another one. -/
def Table.over (below : Table) : Table → Table
  | [] => below
  | (name, value) :: rest =>
    Table.over (Table.insert name (Setting.over (below.lookup name) value) below) rest

end

/-- The value as the only entry of tables within tables. -/
def nested (value : Setting) : List String → Setting
  | [] => value
  | name :: rest => .table value.origin [(name, nested value rest)]

end DeviceEnrollment.Configuration
