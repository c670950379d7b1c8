import GoScaffold.Text.Line

/-! The port of a repository. -/

namespace GoScaffold.Bundled

def repoPort : String := Text.unlines [
  "// Code generated by ang \x7b\x7b ang_version \x7d\x7d. DO NOT EDIT.",
  "// input: \x7b\x7b input_hash \x7d\x7d compiler: \x7b\x7b compiler_hash \x7d\x7d",
  "",
  "package port",
  "",
  "import (",
  "\x7b% for path in imports.std %\x7d",
  "\t\"\x7b\x7b path \x7d\x7d\"",
  "\x7b% endfor %\x7d",
  "\x7b% if imports.std and imports.external %\x7d",
  "",
  "\x7b% endif %\x7d",
  "\x7b% for path in imports.external %\x7d",
  "\t\"\x7b\x7b path \x7d\x7d\"",
  "\x7b% endfor %\x7d",
  ")",
  "",
  "// \x7b\x7b repo.entity | export \x7d\x7dRepository persists domain.\x7b\x7b repo.entity | export \x7d\x7d.",
  "type \x7b\x7b repo.entity | export \x7d\x7dRepository interface \x7b",
  "\x7b% for m in methods %\x7d",
  "\t\x7b\x7b m.name \x7d\x7d(\x7b\x7b m.call_params \x7d\x7d) \x7b\x7b m.results \x7d\x7d",
  "\x7b% endfor %\x7d",
  "\x7d"]

end GoScaffold.Bundled
