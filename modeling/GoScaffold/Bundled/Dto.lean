import GoScaffold.Text.Line

/-! An entity as it is sent over the wire. -/

namespace GoScaffold.Bundled

def dto : String := Text.unlines [
  "// Code generated by ang \x7b\x7b ang_version \x7d\x7d. DO NOT EDIT.",
  "// input: \x7b\x7b input_hash \x7d\x7d compiler: \x7b\x7b compiler_hash \x7d\x7d",
  "",
  "package dto",
  "\x7b% if imports.std or imports.external %\x7d",
  "",
  "import (",
  "\x7b% for path in imports.std %\x7d",
  "\t\"\x7b\x7b path \x7d\x7d\"",
  "\x7b% endfor %\x7d",
  "\x7b% if imports.std and imports.external %\x7d",
  "",
  "\x7b% endif %\x7d",
  "\x7b% for path in imports.external %\x7d",
  "\t\"\x7b\x7b path \x7d\x7d\"",
  "\x7b% endfor %\x7d",
  ")",
  "\x7b% endif %\x7d",
  "\x7b% macro field_line(f) %\x7d",
  "\t\x7b\x7b f.go_name \x7d\x7d \x7b\x7b f.go_type | dto_type \x7d\x7d \x60json:\"\x7b\x7b f.json_name \x7d\x7d\x7b% if f.optional %\x7d,omitempty\x7b% endif %\x7d\"\x7b% if f.binding %\x7d validate:\"\x7b\x7b f.binding \x7d\x7d\"\x7b% endif %\x7d\x60",
  "\x7b%- endmacro %\x7d",
  "",
  "// \x7b\x7b entity.name \x7d\x7dDTO is the wire form of \x7b\x7b entity.name \x7d\x7d.",
  "type \x7b\x7b entity.name \x7d\x7dDTO struct \x7b",
  "\x7b% for f in fields %\x7d",
  "\x7b\x7b field_line(f) \x7d\x7d",
  "\x7b% endfor %\x7d",
  "\x7d",
  "\x7b% for t in nested %\x7d",
  "",
  "type \x7b\x7b t.name \x7d\x7d struct \x7b",
  "\x7b% for f in t.fields %\x7d",
  "\x7b\x7b field_line(f) \x7d\x7d",
  "\x7b% endfor %\x7d",
  "\x7d",
  "\x7b% endfor %\x7d"]

end GoScaffold.Bundled
