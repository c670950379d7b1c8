import GoScaffold.Text.Line

/-! A repository that stores documents. -/

namespace GoScaffold.Bundled

def mongoRepo : String := Text.unlines [
  "// Code generated by ang \x7b\x7b ang_version \x7d\x7d. DO NOT EDIT.",
  "// input: \x7b\x7b input_hash \x7d\x7d compiler: \x7b\x7b compiler_hash \x7d\x7d",
  "",
  "package mongo",
  "",
  "import (",
  "\x7b% for path in imports.std %\x7d",
  "\t\"\x7b\x7b path \x7d\x7d\"",
  "\x7b% endfor %\x7d",
  "\x7b% if imports.std and imports.external %\x7d",
  "",
  "\x7b% endif %\x7d",
  "\x7b% for path in imports.external %\x7d",
  "\t\"\x7b\x7b path \x7d\x7d\"",
  "\x7b% endfor %\x7d",
  ")",
  "\x7b% set name = repo.entity | export %\x7d",
  "\x7b% set pk = entity.primary_key or \"ID\" %\x7d",
  "",
  "// \x7b\x7b name \x7d\x7dRepository stores domain.\x7b\x7b name \x7d\x7d documents.",
  "type \x7b\x7b name \x7d\x7dRepository struct \x7b",
  "\tcoll *mongo.Collection",
  "\x7d",
  "",
  "func New\x7b\x7b name \x7d\x7dRepository(db *mongo.Database) *\x7b\x7b name \x7d\x7dRepository \x7b",
  "\treturn &\x7b\x7b name \x7d\x7dRepository\x7bcoll: db.Collection(\x7b\x7b name \x7d\x7dCollection)\x7d",
  "\x7d",
  "\x7b% for m in repo.methods %\x7d",
  "",
  "\x7b% if m.kind == \"save\" %\x7d",
  "// Save upserts entity by primary key.",
  "func (r *\x7b\x7b name \x7d\x7dRepository) Save(\x7b\x7b m.call_params \x7d\x7d) error \x7b",
  "\tdoc := bson.M\x7b",
  "\x7b% for f in entity.fields %\x7d",
  "\t\t\x7b\x7b f.name | mongo_bson_name | go_quote \x7d\x7d: \x7b\x7b f | mongo_value_expr \x7d\x7d,",
  "\x7b% endfor %\x7d",
  "\t\x7d",
  "\t_, err := r.coll.ReplaceOne(ctx, bson.M\x7b\"_id\": entity.\x7b\x7b pk \x7d\x7d\x7d, doc, options.Replace().SetUpsert(true))",
  "\treturn err",
  "\x7d",
  "\x7b% elif m.kind == \"find_by_id\" %\x7d",
  "// FindByID returns nil when no document matches.",
  "func (r *\x7b\x7b name \x7d\x7dRepository) FindByID(\x7b\x7b m.call_params \x7d\x7d) \x7b\x7b m.results \x7d\x7d \x7b",
  "\tvar out domain.\x7b\x7b name \x7d\x7d",
  "\terr := r.coll.FindOne(ctx, bson.M\x7b\"_id\": id\x7d).Decode(&out)",
  "\tif errors.Is(err, mongo.ErrNoDocuments) \x7b",
  "\t\treturn nil, nil",
  "\t\x7d",
  "\tif err != nil \x7b",
  "\t\treturn nil, err",
  "\t\x7d",
  "\treturn &out, nil",
  "\x7d",
  "\x7b% elif m.kind == \"list_all\" %\x7d",
  "func (r *\x7b\x7b name \x7d\x7dRepository) ListAll(\x7b\x7b m.call_params \x7d\x7d) \x7b\x7b m.results \x7d\x7d \x7b",
  "\tcur, err := r.coll.Find(ctx, bson.M\x7b\x7d)",
  "\tif err != nil \x7b",
  "\t\treturn nil, err",
  "\t\x7d",
  "\tvar out []domain.\x7b\x7b name \x7d\x7d",
  "\tif err := cur.All(ctx, &out); err != nil \x7b",
  "\t\treturn nil, err",
  "\t\x7d",
  "\treturn out, nil",
  "\x7d",
  "\x7b% elif m.kind == \"delete\" %\x7d",
  "func (r *\x7b\x7b name \x7d\x7dRepository) Delete(\x7b\x7b m.call_params \x7d\x7d) error \x7b",
  "\t_, err := r.coll.DeleteOne(ctx, bson.M\x7b\"_id\": id\x7d)",
  "\treturn err",
  "\x7d",
  "\x7b% endif %\x7d",
  "\x7b% endfor %\x7d",
  "\x7b% for mf in finders %\x7d",
  "\x7b% set sig = mf.sig %\x7d",
  "\x7b% set sort_expr %\x7dbson.D\x7bbson.E\x7bKey: \x7b\x7b mf.sort_key | go_quote \x7d\x7d, Value: \x7b% if mf.sort_desc %\x7d-1\x7b% else %\x7d1\x7b% endif %\x7d\x7d\x7d\x7b% endset %\x7d",
  "",
  "func (r *\x7b\x7b name \x7d\x7dRepository) \x7b\x7b sig.name \x7d\x7d(\x7b\x7b sig.call_params \x7d\x7d) \x7b\x7b sig.results \x7d\x7d \x7b",
  "\tfilter := bson.M\x7b\x7d",
  "\x7b% for f in mf.filters %\x7d",
  "\tfilter[\x7b\x7b f.key | go_quote \x7d\x7d] = mongoCond(\x7b\x7b f.op | go_quote \x7d\x7d, \x7b\x7b f.param \x7d\x7d)",
  "\x7b% endfor %\x7d",
  "\x7b% if mf.mode == \"one\" %\x7d",
  "\x7b% if mf.sort_key %\x7d",
  "\topts := options.FindOne().SetSort(\x7b\x7b sort_expr \x7d\x7d)",
  "\tres := r.coll.FindOne(ctx, filter, opts)",
  "\x7b% else %\x7d",
  "\tres := r.coll.FindOne(ctx, filter)",
  "\x7b% endif %\x7d",
  "\tvar out \x7b\x7b mf.elem_type \x7d\x7d",
  "\tif err := res.Decode(&out); err != nil \x7b",
  "\t\tif errors.Is(err, mongo.ErrNoDocuments) \x7b",
  "\t\t\treturn nil, nil",
  "\t\t\x7d",
  "\t\treturn nil, err",
  "\t\x7d",
  "\treturn &out, nil",
  "\x7b% elif mf.mode == \"many\" %\x7d",
  "\x7b% if mf.sort_key or mf.finder.limit > 0 %\x7d",
  "\topts := options.Find()",
  "\x7b% if mf.sort_key %\x7d",
  "\topts.SetSort(\x7b\x7b sort_expr \x7d\x7d)",
  "\x7b% endif %\x7d",
  "\x7b% if mf.finder.limit > 0 %\x7d",
  "\topts.SetLimit(\x7b\x7b mf.finder.limit \x7d\x7d)",
  "\x7b% endif %\x7d",
  "\tcur, err := r.coll.Find(ctx, filter, opts)",
  "\x7b% else %\x7d",
  "\tcur, err := r.coll.Find(ctx, filter)",
  "\x7b% endif %\x7d",
  "\tif err != nil \x7b",
  "\t\treturn nil, err",
  "\t\x7d",
  "\tvar out []\x7b\x7b mf.elem_type \x7d\x7d",
  "\tif err := cur.All(ctx, &out); err != nil \x7b",
  "\t\treturn nil, err",
  "\t\x7d",
  "\treturn out, nil",
  "\x7b% elif mf.mode == \"count\" %\x7d",
  "\treturn r.coll.CountDocuments(ctx, filter)",
  "\x7b% elif mf.mode == \"delete\" %\x7d",
  "\tres, err := r.coll.DeleteMany(ctx, filter)",
  "\tif err != nil \x7b",
  "\t\treturn 0, err",
  "\t\x7d",
  "\treturn res.DeletedCount, nil",
  "\x7b% endif %\x7d",
  "\x7d",
  "\x7b% endfor %\x7d"]

end GoScaffold.Bundled
