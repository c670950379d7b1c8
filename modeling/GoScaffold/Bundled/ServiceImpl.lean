import GoScaffold.Text.Line

/-! The implementation of a service. -/

namespace GoScaffold.Bundled

def serviceImpl : String := Text.unlines [
  "// Code generated by ang \x7b\x7b ang_version \x7d\x7d. DO NOT EDIT outside custom regions.",
  "// input: \x7b\x7b input_hash \x7d\x7d compiler: \x7b\x7b compiler_hash \x7d\x7d",
  "",
  "package service",
  "",
  "import (",
  "\x7b% for path in imports.std %\x7d",
  "\t\"\x7b\x7b path \x7d\x7d\"",
  "\x7b% endfor %\x7d",
  "\x7b% if imports.std and imports.external %\x7d",
  "",
  "\x7b% endif %\x7d",
  "\x7b% for path in imports.external %\x7d",
  "\t\"\x7b\x7b path \x7d\x7d\"",
  "\x7b% endfor %\x7d",
  ")",
  "\x7b% if overrides %\x7d",
  "",
  "// Implemented by hand in \x7b\x7b service.name | lower \x7d\x7d.manual.go:",
  "\x7b% for name in overrides %\x7d",
  "//   - \x7b\x7b name \x7d\x7d",
  "\x7b% endfor %\x7d",
  "\x7b% endif %\x7d",
  "",
  "// \x7b\x7b service.name \x7d\x7dImpl implements port.\x7b\x7b service.name \x7d\x7d.",
  "type \x7b\x7b service.name \x7d\x7dImpl struct \x7b",
  "\x7b% for e in service.repo_entities %\x7d",
  "\t\x7b\x7b e \x7d\x7dRepo port.\x7b\x7b e \x7d\x7dRepository",
  "\x7b% endfor %\x7d",
  "\x7b% if service.needs_tx %\x7d",
  "\ttx port.\x7b\x7b service.name \x7d\x7dTx",
  "\x7b% endif %\x7d",
  "\x7b% if service.publishes_events %\x7d",
  "\tpublisher domain.Publisher",
  "\x7b% endif %\x7d",
  "\x7d",
  "",
  "var _ port.\x7b\x7b service.name \x7d\x7d = (*\x7b\x7b service.name \x7d\x7dImpl)(nil)",
  "",
  "// New\x7b\x7b service.name \x7d\x7dImpl wires \x7b\x7b service.name \x7d\x7dImpl to its dependencies.",
  "func New\x7b\x7b service.name \x7d\x7dImpl(",
  "\x7b% for e in service.repo_entities %\x7d",
  "\t\x7b\x7b e | lower_first \x7d\x7dRepo port.\x7b\x7b e \x7d\x7dRepository,",
  "\x7b% endfor %\x7d",
  "\x7b% if service.needs_tx %\x7d",
  "\ttx port.\x7b\x7b service.name \x7d\x7dTx,",
  "\x7b% endif %\x7d",
  "\x7b% if service.publishes_events %\x7d",
  "\tpublisher domain.Publisher,",
  "\x7b% endif %\x7d",
  ") *\x7b\x7b service.name \x7d\x7dImpl \x7b",
  "\treturn &\x7b\x7b service.name \x7d\x7dImpl\x7b",
  "\x7b% for e in service.repo_entities %\x7d",
  "\t\t\x7b\x7b e \x7d\x7dRepo: \x7b\x7b e | lower_first \x7d\x7dRepo,",
  "\x7b% endfor %\x7d",
  "\x7b% if service.needs_tx %\x7d",
  "\t\ttx: tx,",
  "\x7b% endif %\x7d",
  "\x7b% if service.publishes_events %\x7d",
  "\t\tpublisher: publisher,",
  "\x7b% endif %\x7d",
  "\t\x7d",
  "\x7d",
  "\x7b% for im in methods %\x7d",
  "\x7b% set m = im.method %\x7d",
  "",
  "\x7b% if m.description %\x7d",
  "// \x7b\x7b m.name \x7d\x7d \x7b\x7b m.description \x7d\x7d",
  "\x7b% endif %\x7d",
  "func (s *\x7b\x7b service.name \x7d\x7dImpl) \x7b\x7b m.name \x7d\x7d(\x7b\x7b m.impl_signature.params \x7d\x7d) \x7b\x7b m.impl_signature.named_results \x7d\x7d \x7b",
  "\x7b% if m.requires_tx %\x7d",
  "\tctx, err = s.tx.Begin(ctx)",
  "\tif err != nil \x7b",
  "\t\treturn \x7b% if m.output %\x7dresp, \x7b% endif %\x7derr",
  "\t\x7d",
  "\tdefer func() \x7b",
  "\t\terr = s.tx.End(ctx, err)",
  "\t\x7d()",
  "",
  "\x7b% endif %\x7d",
  "\x7b% if im.body == \"custom\" %\x7d",
  "\t// ANG:BEGIN_CUSTOM \x7b\x7b im.qualifier \x7d\x7d",
  "\x7b\x7b im.code | indent_go(1) \x7d\x7d",
  "\t// ANG:END_CUSTOM \x7b\x7b im.qualifier \x7d\x7d",
  "\x7b% else %\x7d",
  "\x7b\x7b im.code | indent_go(1) \x7d\x7d",
  "\x7b% endif %\x7d",
  "\x7d",
  "\x7b% endfor %\x7d"]

end GoScaffold.Bundled
