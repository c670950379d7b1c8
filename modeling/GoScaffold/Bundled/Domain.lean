import GoScaffold.Text.Line

/-! An entity of the domain. -/

namespace GoScaffold.Bundled

def domain : String := Text.unlines [
  "// Code generated by ang \x7b\x7b ang_version \x7d\x7d. DO NOT EDIT.",
  "// input: \x7b\x7b input_hash \x7d\x7d compiler: \x7b\x7b compiler_hash \x7d\x7d",
  "",
  "package domain",
  "\x7b% if imports.std or imports.external %\x7d",
  "",
  "import (",
  "\x7b% for path in imports.std %\x7d",
  "\t\"\x7b\x7b path \x7d\x7d\"",
  "\x7b% endfor %\x7d",
  "\x7b% if imports.std and imports.external %\x7d",
  "",
  "\x7b% endif %\x7d",
  "\x7b% for path in imports.external %\x7d",
  "\t\"\x7b\x7b path \x7d\x7d\"",
  "\x7b% endfor %\x7d",
  ")",
  "\x7b% endif %\x7d",
  "\x7b% macro field_tags(f, storage) -%\x7d",
  "\x60json:\"\x7b\x7b f.json_name \x7d\x7d\x7b% if f.optional %\x7d,omitempty\x7b% endif %\x7d\"\x7b% if storage == \"mongo\" %\x7d bson:\"\x7b\x7b f.name | mongo_bson_name \x7d\x7d\x7b% if f.optional %\x7d,omitempty\x7b% endif %\x7d\"\x7b% elif f.db_name %\x7d db:\"\x7b\x7b f.db_name \x7d\x7d\"\x7b% endif %\x7d\x60",
  "\x7b%- endmacro %\x7d",
  "",
  "\x7b% if entity.description %\x7d",
  "// \x7b\x7b entity.name \x7d\x7d \x7b\x7b entity.description \x7d\x7d",
  "\x7b% else %\x7d",
  "// \x7b\x7b entity.name \x7d\x7d is a domain entity.",
  "\x7b% endif %\x7d",
  "type \x7b\x7b entity.name \x7d\x7d struct \x7b",
  "\x7b% for f in fields %\x7d",
  "\t\x7b\x7b f.go_name \x7d\x7d \x7b\x7b f.go_type | unqualify \x7d\x7d \x7b\x7b field_tags(f, entity.storage) \x7d\x7d",
  "\x7b% endfor %\x7d",
  "\x7d",
  "\x7b% for t in nested %\x7d",
  "",
  "type \x7b\x7b t.name \x7d\x7d struct \x7b",
  "\x7b% for f in t.fields %\x7d",
  "\t\x7b\x7b f.go_name \x7d\x7d \x7b\x7b f.go_type | unqualify \x7d\x7d \x7b\x7b field_tags(f, entity.storage) \x7d\x7d",
  "\x7b% endfor %\x7d",
  "\x7d",
  "\x7b% endfor %\x7d",
  "\x7b% if entity.fsm %\x7d",
  "\x7b% set fsm_field = entity.fsm.field | export %\x7d",
  "\x7b% set table = entity.name | lower_first ~ \"Transitions\" %\x7d",
  "",
  "// \x7b\x7b table \x7d\x7d lists the allowed \x7b\x7b fsm_field \x7d\x7d changes.",
  "var \x7b\x7b table \x7d\x7d = map[string][]string\x7b",
  "\x7b% for from, targets in entity.fsm.transitions | items %\x7d",
  "\t\x7b\x7b from | go_quote \x7d\x7d: []string\x7b \x7b%- for to in targets %\x7d\x7b\x7b to | go_quote \x7d\x7d\x7b% if not loop.last %\x7d, \x7b% endif %\x7d\x7b% endfor -%\x7d \x7d,",
  "\x7b% endfor %\x7d",
  "\x7d",
  "",
  "// CanTransitionTo reports whether \x7b\x7b fsm_field \x7d\x7d may move to next.",
  "func (e *\x7b\x7b entity.name \x7d\x7d) CanTransitionTo(next string) bool \x7b",
  "\tfor _, allowed := range \x7b\x7b table \x7d\x7d[string(e.\x7b\x7b fsm_field \x7d\x7d)] \x7b",
  "\t\tif allowed == next \x7b",
  "\t\t\treturn true",
  "\t\t\x7d",
  "\t\x7d",
  "\treturn false",
  "\x7d",
  "",
  "// TransitionTo moves \x7b\x7b fsm_field \x7d\x7d to next when the transition is allowed.",
  "func (e *\x7b\x7b entity.name \x7d\x7d) TransitionTo(next string) bool \x7b",
  "\tif !e.CanTransitionTo(next) \x7b",
  "\t\treturn false",
  "\t\x7d",
  "\te.\x7b\x7b fsm_field \x7d\x7d = next",
  "\treturn true",
  "\x7d",
  "\x7b% endif %\x7d"]

end GoScaffold.Bundled
