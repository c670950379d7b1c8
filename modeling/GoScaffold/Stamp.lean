import GoScaffold.Bundled
import GoScaffold.Digest
import GoScaffold.Schema.Hash

/-! What every artifact says about its making: the version of the generator, and short digests of
the schema and of the generator. -/

namespace GoScaffold

structure Stamp where
  version : String := ""
  inputHash : String := ""
  compilerHash : String := ""
deriving DecidableEq

namespace Stamp

def currentVersion : String := "0.1.0"

def currentCompilerHash : String :=
  Digest.short (currentVersion.toUTF8.toList ++ Bundled.templates.flatMap fun (name, source) =>
    name.toUTF8.toList ++ [0] ++ source.toUTF8.toList)

def given (text : Option String) (computed : String) : String :=
  match text with
  | some s => if s.isEmpty then computed else s
  | none => computed

def resolve (schema : Schema) (version inputHash compilerHash : Option String) : Stamp :=
  { version := given version currentVersion
    inputHash := given inputHash schema.hash
    compilerHash := given compilerHash currentCompilerHash }

def entries (s : Stamp) : List (String × Json) :=
  [("ang_version", .str s.version), ("input_hash", .str s.inputHash),
    ("compiler_hash", .str s.compilerHash)]

def toJson (s : Stamp) : Json := .obj s.entries

end Stamp

end GoScaffold
