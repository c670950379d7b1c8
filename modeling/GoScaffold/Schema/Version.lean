import GoScaffold.Error
import GoScaffold.Schema.Basic
import GoScaffold.Text.Blank

/-! Versions of the schema notation. -/

namespace GoScaffold

/-- Brings a schema to the current version. Schemas of the first version name none, or zero. -/
def Schema.migrate (s : Schema) : Except Error Schema :=
  let version := Text.trim s.version
  if version = "" || version = "0" then .ok { s with version := Error.currentVersion }
  else if version = Error.currentVersion then .ok s
  else .error (.schemaVersion version)

end GoScaffold
