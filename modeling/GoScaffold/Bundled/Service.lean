import GoScaffold.Text.Line

/-! The port of a service. -/

namespace GoScaffold.Bundled

def service : String := Text.unlines [
  "// Code generated by ang \x7b\x7b ang_version \x7d\x7d. DO NOT EDIT.",
  "// input: \x7b\x7b input_hash \x7d\x7d compiler: \x7b\x7b compiler_hash \x7d\x7d",
  "",
  "package port",
  "",
  "import (",
  "\x7b% for path in imports.std %\x7d",
  "\t\"\x7b\x7b path \x7d\x7d\"",
  "\x7b% endfor %\x7d",
  "\x7b% if imports.std and imports.external %\x7d",
  "",
  "\x7b% endif %\x7d",
  "\x7b% for path in imports.external %\x7d",
  "\t\"\x7b\x7b path \x7d\x7d\"",
  "\x7b% endfor %\x7d",
  ")",
  "\x7b% for t in types %\x7d",
  "",
  "\x7b% if t.description %\x7d",
  "// \x7b\x7b t.name \x7d\x7d \x7b\x7b t.description \x7d\x7d",
  "\x7b% endif %\x7d",
  "type \x7b\x7b t.name \x7d\x7d struct \x7b",
  "\x7b% for f in t.fields %\x7d",
  "\t\x7b\x7b f.go_name \x7d\x7d \x7b\x7b f.go_type \x7d\x7d \x60json:\"\x7b\x7b f.json_name \x7d\x7d\x7b% if f.optional %\x7d,omitempty\x7b% endif %\x7d\"\x7b% if f.binding %\x7d validate:\"\x7b\x7b f.binding \x7d\x7d\"\x7b% endif %\x7d\x60",
  "\x7b% endfor %\x7d",
  "\x7d",
  "\x7b% endfor %\x7d",
  "",
  "\x7b% if service.description %\x7d",
  "// \x7b\x7b service.name \x7d\x7d \x7b\x7b service.description \x7d\x7d",
  "\x7b% else %\x7d",
  "// \x7b\x7b service.name \x7d\x7d is the \x7b\x7b service.name \x7d\x7d service port.",
  "\x7b% endif %\x7d",
  "type \x7b\x7b service.name \x7d\x7d interface \x7b",
  "\x7b% for m in service.methods %\x7d",
  "\x7b% if m.description %\x7d",
  "\t// \x7b\x7b m.name \x7d\x7d \x7b\x7b m.description \x7d\x7d",
  "\x7b% endif %\x7d",
  "\t\x7b\x7b m.name \x7d\x7d(\x7b\x7b m.port_signature.params \x7d\x7d) \x7b\x7b m.port_signature.results \x7d\x7d",
  "\x7b% endfor %\x7d",
  "\x7d",
  "\x7b% if service.needs_tx %\x7d",
  "",
  "// \x7b\x7b service.name \x7d\x7dTx scopes a unit of work of \x7b\x7b service.name \x7d\x7d. End commits",
  "// when err is nil and rolls back otherwise.",
  "type \x7b\x7b service.name \x7d\x7dTx interface \x7b",
  "\tBegin(ctx context.Context) (context.Context, error)",
  "\tEnd(ctx context.Context, err error) error",
  "\x7d",
  "\x7b% endif %\x7d"]

end GoScaffold.Bundled
