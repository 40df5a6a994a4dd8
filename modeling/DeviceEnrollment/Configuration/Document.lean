import DeviceEnrollment.Configuration.Error
import DeviceEnrollment.Configuration.Reading
import DeviceEnrollment.Yaml.Node

/-!
Settings from a YAML document.
-/
namespace DeviceEnrollment.Configuration

def Setting.ofScalar (origin : Origin) : Yaml.Scalar → Setting
  | .null => .null origin
  | .bool value => .bool origin value
  | .unsigned value => .unsigned origin value
  | .signed value => .signed origin value
  | .wide value => .wide origin value
  | .double value => .double origin value
  | .text value => .text origin value

mutual

def Setting.ofNode (origin : Origin) : Yaml.Node → Setting
  | .scalar value => .ofScalar origin value
  | .list _ => .list origin
  | .table entries => .table origin (Table.ofEntries (entriesOfNodes origin entries))

def entriesOfNodes (origin : Origin) : List (String × Yaml.Node) → List (String × Setting)
  | [] => []
  | (name, node) :: rest => (name, Setting.ofNode origin node) :: entriesOfNodes origin rest

end

/-- The table that a YAML text holds. -/
def yamlLayer (origin : Origin) (text : String) : Layer :=
  match Yaml.tableOfText text with
  | .ok entries => .ok (Table.ofEntries (entriesOfNodes origin entries))
  | .error fault => .error ⟨.unreadable fault.message, [], origin⟩

end DeviceEnrollment.Configuration
