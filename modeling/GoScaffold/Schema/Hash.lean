import GoScaffold.Digest
import GoScaffold.Json.Printer
import GoScaffold.Schema.Encode

/-! The digest of a schema. -/

namespace GoScaffold

def Schema.canonical (s : Schema) : String := s.toJson.compact

def Schema.hash (s : Schema) : String := Digest.short s.canonical.toUTF8.toList

end GoScaffold
