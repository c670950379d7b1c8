import GoScaffold.Settings

/-! The description of a settings file as a JSON Schema, for editors. The entries of every object
are in increasing order of their keys. -/

namespace GoScaffold.Settings

def describedChoice (name meaning : String) : Json := .obj
  [("const", .str name), ("description", .str meaning), ("type", .str "string")]

def typedSetting (type default : String) (meaning : Option String) : Json := .obj
  (("$ref", .str ("#/$defs/" ++ type)) :: ("default", .str default) ::
    (meaning.map fun m => ("description", .str m)).toList)

def textSetting (default meaning : String) : Json := .obj
  [("default", .str default), ("description", .str meaning), ("type", .str "string")]

def optionalText (meaning : Option String) : Json := .obj
  (("default", .null) :: (meaning.map fun m => ("description", .str m)).toList ++
    [("type", .strs ["string", "null"])])

def definitions : Json := .obj
  [("ArtifactFamily", .obj
      [("description", .str "Kinds of generated files"),
        ("enum", .strs (Family.all.map Family.name)), ("type", .str "string")]),
    ("FormatMode", .obj
      [("description", .str "How formatter failures are treated"),
        ("oneOf", .arr
          [describedChoice FormatMode.strict.name "Fail the artifact",
            describedChoice FormatMode.lenient.name "Fall back to the unformatted bytes"])]),
    ("FormatterKind", .obj
      [("oneOf", .arr
        [describedChoice FormatterKind.builtIn.name
            "In-process tree-sitter check plus whitespace normalization",
          describedChoice FormatterKind.gofmt.name "External \x60gofmt\x60"])]),
    ("Layout", .obj
      [("oneOf", .arr
        [describedChoice Artifact.Layout.monolith.name "One \x60cmd/server/main.go\x60",
          describedChoice Artifact.Layout.microservices.name
            "One \x60cmd/services/<svc>/main.go\x60 per service"])])]

def properties : Json :=
  let default : Settings := {}
  .obj
    [("ang_version", optionalText (some "Stamp overrides; computed when absent")),
      ("compiler_hash", optionalText none),
      ("families", .obj
        [("default", .null), ("description", .str "Families to emit; all of them when absent"),
          ("items", .obj [("$ref", .str "#/$defs/ArtifactFamily")]),
          ("type", .strs ["array", "null"])]),
      ("format_mode", typedSetting "FormatMode" default.formatMode.name
        (some "Strict fails on unparsable output, lenient writes it raw")),
      ("formatter", typedSetting "FormatterKind" default.formatter.name none),
      ("go_module", textSetting default.goModule "Go module path used in absolute imports"),
      ("input_hash", optionalText none),
      ("layout", typedSetting "Layout" default.layout.name
        (some "Process layout of the generated backend")),
      ("output_dir", textSetting default.outputDir "Root of the generated tree"),
      ("template_dir", optionalText (some
        "Overlay directory searched for \x60<name>.jinja\x60 before the bundled templates")),
      ("version", .obj
        [("default", .nat default.version), ("description", .str "Schema version for migrations"),
          ("format", .str "uint32"), ("minimum", .nat 0), ("type", .str "integer")])]

def description : Json := .obj
  [("$defs", definitions), ("$schema", .str "https://json-schema.org/draft/2020-12/schema"),
    ("description", .str "Emitter settings"), ("properties", properties),
    ("title", .str "EmitterConfig"), ("type", .str "object")]

end GoScaffold.Settings
