import GoScaffold.FileTree
import GoScaffold.Json.Reader
import GoScaffold.Schema.Decode
import GoScaffold.Yaml.Reader

/-! Schemas from texts and files. -/

namespace GoScaffold.Schema

def ofJsonText (text : String) : Except Error Schema :=
  match Json.decode? Schema.read text with
  | some s => .ok s
  | none => .error .json

def ofYamlText (text : String) : Except Error Schema :=
  match Yaml.decode? Schema.read text with
  | some s => .ok s
  | none => .error .yaml

def load (tree : FileTree) (path : String) : Except Error Schema :=
  match tree.readText? path with
  | none => .error .io
  | some text =>
    match Path.extension? path with
    | some "json" => ofJsonText text
    | some "yaml" => ofYamlText text
    | some "yml" => ofYamlText text
    | other => .error (.settings (.schemaExtension (other.getD "") path))

end GoScaffold.Schema
