import RaceLink.Settings.Valid
import RaceLink.Yaml.Record

/-!
# Settings in files

Settings can be kept in a file, as a YAML document of those that differ from the defaults.

* `Settings.ofYaml` — the settings that a document holds, if they can be used.
* `Settings.ofContents` — the settings in a file, from what reading the file gave.
-/

set_option autoImplicit false

namespace RaceLink
namespace Settings

/-- The way a fault names a document of settings. -/
def documentName : String := "client config YAML"

/-- The settings that a document holds, if they can be used. -/
def ofYaml (text : String) : Except Fault Settings := do
  let settings ← (Yaml.record layout text.toList).mapError fun r => .config documentName r.message
  let _ ← settings.validate
  .ok settings

/-- Why the bytes of a file are not a text. -/
def notText : String := "stream did not contain valid UTF-8"

/-- The settings in the file at `path`; `contents` are its bytes, or why it could not be read. -/
def ofContents (path : String) (contents : Except String ByteArray) : Except Fault Settings :=
  match contents with
  | .error source => .error (.file path source)
  | .ok bytes =>
    match String.fromUTF8? bytes with
    | none => .error (.file path notText)
    | some text => ofYaml text

end Settings
end RaceLink
