import GoScaffold.Text.Line

/-! A repository whose methods are set by tests. -/

namespace GoScaffold.Bundled

def mockRepo : String := Text.unlines [
  "// Code generated by ang \x7b\x7b ang_version \x7d\x7d. DO NOT EDIT.",
  "// input: \x7b\x7b input_hash \x7d\x7d compiler: \x7b\x7b compiler_hash \x7d\x7d",
  "",
  "package port",
  "",
  "import (",
  "\x7b% for path in imports.std %\x7d",
  "\t\"\x7b\x7b path \x7d\x7d\"",
  "\x7b% endfor %\x7d",
  "\x7b% if imports.std and imports.external %\x7d",
  "",
  "\x7b% endif %\x7d",
  "\x7b% for path in imports.external %\x7d",
  "\t\"\x7b\x7b path \x7d\x7d\"",
  "\x7b% endfor %\x7d",
  ")",
  "\x7b% set name = repo.entity | export %\x7d",
  "",
  "// Mock\x7b\x7b name \x7d\x7dRepository is a \x7b\x7b name \x7d\x7dRepository whose methods are set per test.",
  "// Unset methods return zero values.",
  "type Mock\x7b\x7b name \x7d\x7dRepository struct \x7b",
  "\x7b% for m in methods %\x7d",
  "\t\x7b\x7b m.name \x7d\x7dFunc func(\x7b\x7b m.call_params \x7d\x7d) \x7b\x7b m.results \x7d\x7d",
  "\x7b% endfor %\x7d",
  "\x7d",
  "",
  "var _ \x7b\x7b name \x7d\x7dRepository = (*Mock\x7b\x7b name \x7d\x7dRepository)(nil)",
  "\x7b% for m in methods %\x7d",
  "",
  "func (m *Mock\x7b\x7b name \x7d\x7dRepository) \x7b\x7b m.name \x7d\x7d(\x7b\x7b m.call_params \x7d\x7d) \x7b\x7b m.results \x7d\x7d \x7b",
  "\tif m.\x7b\x7b m.name \x7d\x7dFunc == nil \x7b",
  "\t\treturn \x7b% if m.return_type %\x7d\x7b\x7b m.return_zero \x7d\x7d, \x7b% endif %\x7dnil",
  "\t\x7d",
  "\treturn m.\x7b\x7b m.name \x7d\x7dFunc(\x7b\x7b m.call_args \x7d\x7d)",
  "\x7d",
  "\x7b% endfor %\x7d"]

end GoScaffold.Bundled
