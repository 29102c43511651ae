import Multitenancy.Settings.Codec
import Multitenancy.Storage.FileSystem
import Multitenancy.Toml.Parser
/-!
# Settings From a Document

Settings read from a TOML document, which names only what differs from the
defaults.

## Main definitions

* `Config.ofDocument`: The settings of a document.
* `Config.ofFile`: The settings of a document in a file.
-/

namespace Multitenancy

namespace Config

/-- The settings of a document, checked. A document that is not well formed
    and one with a setting of the wrong kind are the same fault. -/
def ofDocument (text : String) : Except Fault Config :=
  match (Toml.parse? text).bind (ofTree? { longLists := true }) with
  | some c => c.checked
  | none => .error .unreadableDocument

/-- The settings of the document at a path. -/
def ofFile (fs : FileSystem) (path : String) : Except Fault Config :=
  match fs.readText path with
  | .ok text => ofDocument text
  | .error reason => .error (.unreadableFile path reason)

end Config

end Multitenancy
