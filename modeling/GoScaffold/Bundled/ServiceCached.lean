import GoScaffold.Text.Line

/-! A service behind a cache. -/

namespace GoScaffold.Bundled

def serviceCached : String := Text.unlines [
  "// Code generated by ang \x7b\x7b ang_version \x7d\x7d. DO NOT EDIT.",
  "// input: \x7b\x7b input_hash \x7d\x7d compiler: \x7b\x7b compiler_hash \x7d\x7d",
  "",
  "package service",
  "",
  "import (",
  "\x7b% for path in imports.std %\x7d",
  "\t\"\x7b\x7b path \x7d\x7d\"",
  "\x7b% endfor %\x7d",
  "\x7b% if imports.std and imports.external %\x7d",
  "",
  "\x7b% endif %\x7d",
  "\x7b% for path in imports.external %\x7d",
  "\t\"\x7b\x7b path \x7d\x7d\"",
  "\x7b% endfor %\x7d",
  ")",
  "",
  "// \x7b\x7b service.name \x7d\x7dCache stores responses of \x7b\x7b service.name \x7d\x7d keyed by call.",
  "type \x7b\x7b service.name \x7d\x7dCache interface \x7b",
  "\tGet(ctx context.Context, key string, dst any) (bool, error)",
  "\tSet(ctx context.Context, key string, value any, ttl time.Duration) error",
  "\x7d",
  "",
  "// Cached\x7b\x7b service.name \x7d\x7d serves methods with a cache TTL from \x7b\x7b service.name \x7d\x7dCache",
  "// and passes everything else through.",
  "type Cached\x7b\x7b service.name \x7d\x7d struct \x7b",
  "\tnext  port.\x7b\x7b service.name \x7d\x7d",
  "\tcache \x7b\x7b service.name \x7d\x7dCache",
  "\tttl   map[string]time.Duration",
  "\x7d",
  "",
  "var _ port.\x7b\x7b service.name \x7d\x7d = (*Cached\x7b\x7b service.name \x7d\x7d)(nil)",
  "",
  "func NewCached\x7b\x7b service.name \x7d\x7d(next port.\x7b\x7b service.name \x7d\x7d, cache \x7b\x7b service.name \x7d\x7dCache) *Cached\x7b\x7b service.name \x7d\x7d \x7b",
  "\tc := &Cached\x7b\x7b service.name \x7d\x7d\x7bnext: next, cache: cache, ttl: make(map[string]time.Duration)\x7d",
  "\x7b% for m in service.methods if m.cache_ttl and m.output %\x7d",
  "\tif d, err := time.ParseDuration(\x7b\x7b m.cache_ttl | go_quote \x7d\x7d); err == nil \x7b",
  "\t\tc.ttl[\x7b\x7b m.name | go_quote \x7d\x7d] = d",
  "\t\x7d",
  "\x7b% endfor %\x7d",
  "\treturn c",
  "\x7d",
  "\x7b% for m in service.methods %\x7d",
  "\x7b% set sig = m.impl_signature %\x7d",
  "",
  "func (c *Cached\x7b\x7b service.name \x7d\x7d) \x7b\x7b m.name \x7d\x7d(\x7b\x7b sig.params \x7d\x7d) \x7b\x7b sig.results \x7d\x7d \x7b",
  "\x7b% if m.cache_ttl and m.output %\x7d",
  "\x7b% if m.input %\x7d",
  "\tkey := fmt.Sprintf(\"\x7b\x7b service.name \x7d\x7d.\x7b\x7b m.name \x7d\x7d:%+v\", req)",
  "\x7b% else %\x7d",
  "\tkey := \"\x7b\x7b service.name \x7d\x7d.\x7b\x7b m.name \x7d\x7d\"",
  "\x7b% endif %\x7d",
  "\tvar cached \x7b\x7b sig.output_type \x7d\x7d",
  "\tif hit, err := c.cache.Get(ctx, key, &cached); err == nil && hit \x7b",
  "\t\treturn cached, nil",
  "\t\x7d",
  "\tresp, err := c.next.\x7b\x7b m.name \x7d\x7d(\x7b\x7b sig.args \x7d\x7d)",
  "\tif err != nil \x7b",
  "\t\treturn resp, err",
  "\t\x7d",
  "\t_ = c.cache.Set(ctx, key, resp, c.ttl[\x7b\x7b m.name | go_quote \x7d\x7d])",
  "\treturn resp, nil",
  "\x7b% else %\x7d",
  "\treturn c.next.\x7b\x7b m.name \x7d\x7d(\x7b\x7b sig.args \x7d\x7d)",
  "\x7b% endif %\x7d",
  "\x7d",
  "\x7b% endfor %\x7d"]

end GoScaffold.Bundled
