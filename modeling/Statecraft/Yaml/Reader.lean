import Statecraft.Yaml.Value
import Statecraft.Document.Sharing

/-!
# Reading YAML
-/

namespace Statecraft.Yaml

/-- The value of a stream's one document, null if there is no document. -/
def read (text : String) : Result Document :=
  match Node.ofStream text.toList with
  | .error e => .error e
  | .ok none => .ok .null
  | .ok (some n) =>
    match value (n.height + 2) n with
    | .ok d => .ok d.tidy
    | .error found => .error found.fault

end Statecraft.Yaml
