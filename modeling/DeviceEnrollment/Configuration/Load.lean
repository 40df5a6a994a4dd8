import DeviceEnrollment.Configuration.Document
import DeviceEnrollment.Configuration.Environment

/-!
Where settings come from: a file, and above it the environment.
-/
namespace DeviceEnrollment.Configuration

/-- Settings from a file, if there is one, and from the environment above it. -/
def load (file : Option (String × String)) (entries : List (String × String)) :
    Except (List SettingError) Settings :=
  let fileLayers := match file with
    | none => []
    | some (name, text) => [yamlLayer (.yamlFile name) text]
  settingsOfLayers (fileLayers ++ [.ok (environmentTable entries)])

end DeviceEnrollment.Configuration
