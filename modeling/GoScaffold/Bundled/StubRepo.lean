import GoScaffold.Text.Line

/-! A repository in memory. -/

namespace GoScaffold.Bundled

def stubRepo : String := Text.unlines [
  "// Code generated by ang \x7b\x7b ang_version \x7d\x7d. DO NOT EDIT.",
  "// input: \x7b\x7b input_hash \x7d\x7d compiler: \x7b\x7b compiler_hash \x7d\x7d",
  "",
  "package memory",
  "",
  "import (",
  "\x7b% for path in imports.std %\x7d",
  "\t\"\x7b\x7b path \x7d\x7d\"",
  "\x7b% endfor %\x7d",
  "\x7b% if imports.std and imports.external %\x7d",
  "",
  "\x7b% endif %\x7d",
  "\x7b% for path in imports.external %\x7d",
  "\t\"\x7b\x7b path \x7d\x7d\"",
  "\x7b% endfor %\x7d",
  ")",
  "\x7b% set name = repo.entity | export %\x7d",
  "\x7b% set pk = entity.primary_key or \"ID\" %\x7d",
  "",
  "// \x7b\x7b name \x7d\x7dRepository keeps domain.\x7b\x7b name \x7d\x7d values in process memory.",
  "type \x7b\x7b name \x7d\x7dRepository struct \x7b",
  "\tmu    sync.RWMutex",
  "\titems map[string]domain.\x7b\x7b name \x7d\x7d",
  "\x7d",
  "",
  "func New\x7b\x7b name \x7d\x7dRepository() *\x7b\x7b name \x7d\x7dRepository \x7b",
  "\treturn &\x7b\x7b name \x7d\x7dRepository\x7bitems: make(map[string]domain.\x7b\x7b name \x7d\x7d)\x7d",
  "\x7d",
  "\x7b% for m in repo.methods %\x7d",
  "",
  "\x7b% if m.kind == \"save\" %\x7d",
  "func (r *\x7b\x7b name \x7d\x7dRepository) Save(\x7b\x7b m.call_params \x7d\x7d) error \x7b",
  "\tr.mu.Lock()",
  "\tdefer r.mu.Unlock()",
  "\tr.items[fmt.Sprint(entity.\x7b\x7b pk \x7d\x7d)] = *entity",
  "\treturn nil",
  "\x7d",
  "\x7b% elif m.kind == \"find_by_id\" %\x7d",
  "func (r *\x7b\x7b name \x7d\x7dRepository) FindByID(\x7b\x7b m.call_params \x7d\x7d) \x7b\x7b m.results \x7d\x7d \x7b",
  "\tr.mu.RLock()",
  "\tdefer r.mu.RUnlock()",
  "\tv, ok := r.items[id]",
  "\tif !ok \x7b",
  "\t\treturn nil, nil",
  "\t\x7d",
  "\treturn &v, nil",
  "\x7d",
  "\x7b% elif m.kind == \"list_all\" %\x7d",
  "func (r *\x7b\x7b name \x7d\x7dRepository) ListAll(\x7b\x7b m.call_params \x7d\x7d) \x7b\x7b m.results \x7d\x7d \x7b",
  "\tr.mu.RLock()",
  "\tdefer r.mu.RUnlock()",
  "\tout := make([]domain.\x7b\x7b name \x7d\x7d, 0, len(r.items))",
  "\tfor _, v := range r.items \x7b",
  "\t\tout = append(out, v)",
  "\t\x7d",
  "\treturn out, nil",
  "\x7d",
  "\x7b% elif m.kind == \"delete\" %\x7d",
  "func (r *\x7b\x7b name \x7d\x7dRepository) Delete(\x7b\x7b m.call_params \x7d\x7d) error \x7b",
  "\tr.mu.Lock()",
  "\tdefer r.mu.Unlock()",
  "\tdelete(r.items, id)",
  "\treturn nil",
  "\x7d",
  "\x7b% endif %\x7d",
  "\x7b% endfor %\x7d",
  "\x7b% for sf in finders %\x7d",
  "\x7b% set sig = sf.sig %\x7d",
  "\x7b% set cond = sf.conds | join(\" && \") %\x7d",
  "",
  "func (r *\x7b\x7b name \x7d\x7dRepository) \x7b\x7b sig.name \x7d\x7d(\x7b\x7b sig.call_params \x7d\x7d) \x7b\x7b sig.results \x7d\x7d \x7b",
  "\x7b% if sf.mode == \"\" %\x7d",
  "\treturn \x7b% if sig.return_type %\x7d\x7b\x7b sig.return_zero \x7d\x7d, \x7b% endif %\x7dnil",
  "\x7b% elif sf.mode == \"one\" %\x7d",
  "\tr.mu.RLock()",
  "\tdefer r.mu.RUnlock()",
  "\tfor _, v := range r.items \x7b",
  "\x7b% if cond %\x7d",
  "\t\tif \x7b\x7b cond \x7d\x7d \x7b",
  "\t\t\treturn &v, nil",
  "\t\t\x7d",
  "\x7b% else %\x7d",
  "\t\treturn &v, nil",
  "\x7b% endif %\x7d",
  "\t\x7d",
  "\treturn nil, nil",
  "\x7b% elif sf.mode == \"many\" %\x7d",
  "\tr.mu.RLock()",
  "\tdefer r.mu.RUnlock()",
  "\tvar out []domain.\x7b\x7b name \x7d\x7d",
  "\tfor _, v := range r.items \x7b",
  "\x7b% if cond %\x7d",
  "\t\tif \x7b\x7b cond \x7d\x7d \x7b",
  "\t\t\tout = append(out, v)",
  "\t\t\x7d",
  "\x7b% else %\x7d",
  "\t\tout = append(out, v)",
  "\x7b% endif %\x7d",
  "\t\x7d",
  "\treturn out, nil",
  "\x7b% elif sf.mode == \"count\" %\x7d",
  "\tr.mu.RLock()",
  "\tdefer r.mu.RUnlock()",
  "\x7b% if cond %\x7d",
  "\tvar n int64",
  "\tfor _, v := range r.items \x7b",
  "\t\tif \x7b\x7b cond \x7d\x7d \x7b",
  "\t\t\tn++",
  "\t\t\x7d",
  "\t\x7d",
  "\treturn n, nil",
  "\x7b% else %\x7d",
  "\treturn int64(len(r.items)), nil",
  "\x7b% endif %\x7d",
  "\x7b% elif sf.mode == \"delete\" %\x7d",
  "\tr.mu.Lock()",
  "\tdefer r.mu.Unlock()",
  "\tvar n int64",
  "\x7b% if cond %\x7d",
  "\tfor k, v := range r.items \x7b",
  "\t\tif \x7b\x7b cond \x7d\x7d \x7b",
  "\t\t\tdelete(r.items, k)",
  "\t\t\tn++",
  "\t\t\x7d",
  "\t\x7d",
  "\x7b% else %\x7d",
  "\tn = int64(len(r.items))",
  "\tclear(r.items)",
  "\x7b% endif %\x7d",
  "\treturn n, nil",
  "\x7b% endif %\x7d",
  "\x7d",
  "\x7b% endfor %\x7d"]

end GoScaffold.Bundled
