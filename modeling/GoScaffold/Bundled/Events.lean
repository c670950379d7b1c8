import GoScaffold.Text.Line

/-! The events of the domain. -/

namespace GoScaffold.Bundled

def events : String := Text.unlines [
  "// Code generated by ang \x7b\x7b ang_version \x7d\x7d. DO NOT EDIT.",
  "// input: \x7b\x7b input_hash \x7d\x7d compiler: \x7b\x7b compiler_hash \x7d\x7d",
  "",
  "package domain",
  "",
  "import (",
  "\x7b% for path in imports.std %\x7d",
  "\t\"\x7b\x7b path \x7d\x7d\"",
  "\x7b% endfor %\x7d",
  "\x7b% if imports.std and imports.external %\x7d",
  "",
  "\x7b% endif %\x7d",
  "\x7b% for path in imports.external %\x7d",
  "\t\"\x7b\x7b path \x7d\x7d\"",
  "\x7b% endfor %\x7d",
  ")",
  "",
  "// Publisher delivers domain events to subscribers.",
  "type Publisher interface \x7b",
  "\tPublish(ctx context.Context, event string, payload any) error",
  "\x7d",
  "\x7b% for ev in events %\x7d",
  "",
  "// \x7b\x7b ev.name \x7d\x7d event.",
  "type \x7b\x7b ev.name \x7d\x7d struct \x7b",
  "\x7b% for f in ev.fields %\x7d",
  "\t\x7b\x7b f.go_name \x7d\x7d \x7b\x7b f.go_type | unqualify \x7d\x7d \x60json:\"\x7b\x7b f.json_name \x7d\x7d\x7b% if f.optional %\x7d,omitempty\x7b% endif %\x7d\"\x60",
  "\x7b% endfor %\x7d",
  "\x7d",
  "",
  "// EventName returns the topic \x7b\x7b ev.name \x7d\x7d is published on.",
  "func (\x7b\x7b ev.name \x7d\x7d) EventName() string \x7b return \x7b\x7b ev.name | go_quote \x7d\x7d \x7d",
  "\x7b% endfor %\x7d"]

end GoScaffold.Bundled
