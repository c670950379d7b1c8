import GoScaffold.Bundled
import GoScaffold.Proofs.Template.Parsing

/-! The bundled templates of repositories, put together from parts: every file begins with the same
preamble, and every method is declared by its name, its parameters and its results. Texts are
divided where a declaration ends and a body begins. -/

namespace GoScaffold.Bundled

open Template

def importNodes : List Node := [.text "\t\"", .print (.var "path"), .text "\"\n"]

def stampNodes (next : String) : List Node := [
  .text "// Code generated by ang ", .print (.var "ang_version"),
  .text ". DO NOT EDIT.\n// input: ", .print (.var "input_hash"),
  .text " compiler: ", .print (.var "compiler_hash"), .text ("\n\n" ++ next)]

def importGroupNodes : List Node := [
  .loop ["path"] (.attr (.var "imports") "std") none importNodes [],
  .branch (.and (.attr (.var "imports") "std") (.attr (.var "imports") "external")) [.text "\n"] [],
  .loop ["path"] (.attr (.var "imports") "external") none importNodes []]

def preambleNodes (package : String) : List Node :=
  stampNodes ("package " ++ package ++ "\n\nimport (\n") ++ importGroupNodes

def entityName : Expr := .filter (.attr (.var "repo") "entity") "export" []

def signatureNodes (e : Expr) : List Node := [
  .print (.attr e "name"), .text "(", .print (.attr e "call_params"), .text ") ",
  .print (.attr e "results")]

def zeroNode (e : Expr) : Node :=
  .branch (.attr e "return_type") [.print (.attr e "return_zero"), .text ", "] []

def repoPortNodes : Template := preambleNodes "port" ++ [
  Node.text ")\n\n// ", .print entityName, .text "Repository persists domain.", .print entityName,
  .text ".\ntype ", .print entityName, .text "Repository interface \x7b\n",
  .loop ["m"] (.var "methods") none (.text "\t" :: signatureNodes (.var "m") ++
    [Node.text "\n"]) [],
  .text "\x7d\n"]

def mockFieldNodes : List Node := [
  .text "\t", .print (.attr (.var "m") "name"), .text "Func func(",
  .print (.attr (.var "m") "call_params"), .text ") ", .print (.attr (.var "m") "results"),
  .text "\n"]

def mockMethodNodes : List Node :=
  [Node.text ("\n" ++ "func (" ++ "m *Mock"), .print (.var "name"), .text "Repository) "] ++
  signatureNodes (.var "m") ++ [
  Node.text (" \x7b\n" ++ "\tif m."), .print (.attr (.var "m") "name"),
  .text "Func == nil \x7b\n\t\treturn ", zeroNode (.var "m"), .text "nil\n\t\x7d\n\treturn m.",
  .print (.attr (.var "m") "name"), .text "Func(", .print (.attr (.var "m") "call_args"),
  .text (")\n" ++ "\x7d\n")]

def mockRepoNodes : Template := preambleNodes "port" ++ [
  Node.text ")\n", .set "name" entityName, .text "\n// Mock", .print (.var "name"),
  .text "Repository is a ", .print (.var "name"),
  .text ("Repository whose methods are set per test.\n// Unset methods return zero values.\n" ++
    "type Mock"),
  .print (.var "name"), .text "Repository struct \x7b\n",
  .loop ["m"] (.var "methods") none mockFieldNodes [], .text "\x7d\n\nvar _ ", .print (.var "name"),
  .text "Repository = (*Mock", .print (.var "name"), .text "Repository)(nil)\n",
  .loop ["m"] (.var "methods") none mockMethodNodes []]

def isKind (kind : String) : Expr := .binary .equal (.attr (.var "m") "kind") (.const (.str kind))

def standardNodes (remark name : String) : List Node := [
  .text (remark ++ "func (" ++ "r *"), .print (.var "name"), .text ("Repository) " ++ name ++ "("),
  .print (.attr (.var "m") "call_params")]

/-- A standard method of an adapter, chosen by its kind, with the nodes of its body. -/
def standardMethodNodes (remark : String → String) (save find list delete : List Node) :
    List Node := [
  .text "\n",
  .branch (isKind "save") (standardNodes (remark "Save") "Save" ++ save) [
  .branch (isKind "find_by_id") (standardNodes (remark "FindByID") "FindByID" ++ find) [
  .branch (isKind "list_all") (standardNodes (remark "ListAll") "ListAll" ++ list) [
  .branch (isKind "delete") (standardNodes (remark "Delete") "Delete" ++ delete) []]]]]

def resultsNodes (body : String) : List Node :=
  [.text ") ", .print (.attr (.var "m") "results"), .text (" \x7b\n" ++ body)]

def errorNode (body : String) : Node := .text (") " ++ "error" ++ " \x7b\n" ++ body)

def memoryStandardNodes : List Node := standardMethodNodes (fun _ => "")
  [errorNode "\tr.mu.Lock()\n\tdefer r.mu.Unlock()\n\tr.items[fmt.Sprint(entity.",
    .print (.var "pk"), .text (")] = *entity\n\treturn nil\n" ++ "\x7d\n")]
  (resultsNodes
    (("\tr.mu.RLock()\n\tdefer r.mu.RUnlock()\n\tv, ok := r.items[id]\n\tif !ok \x7b\n" ++
    "\t\treturn nil, nil\n\t\x7d\n\treturn &v, nil\n") ++ "\x7d\n"))
  (resultsNodes "\tr.mu.RLock()\n\tdefer r.mu.RUnlock()\n\tout := make([]domain." ++
    [Node.print (.var "name"),
      .text ((", 0, len(r.items))\n\tfor _, v := range r.items \x7b\n\t\tout = append(out, v)\n" ++
        "\t\x7d\n\treturn out, nil\n") ++ "\x7d\n")])
  [errorNode ("\tr.mu.Lock()\n\tdefer r.mu.Unlock()\n\tdelete(r.items, id)\n\treturn nil\n" ++
    "\x7d\n")]

def finderNodes (body : String) : List Node :=
  [Node.text ("\n" ++ "func (" ++ "r *"), .print (.var "name"), .text "Repository) "] ++
  signatureNodes (.var "sig") ++ [Node.text (" \x7b\n" ++ body)]

def isMode (finder mode : String) : Expr :=
  .binary .equal (.attr (.var finder) "mode") (.const (.str mode))

def conditionalNode (before after otherwise : String) : Node :=
  .branch (.var "cond") [.text before, .print (.var "cond"), .text after] [.text otherwise]

def memoryModeNodes : List Node := [
  .branch (isMode "sf" "") [.text "\treturn ", zeroNode (.var "sig"), .text "nil\n"] [
  .branch (isMode "sf" "one")
    [.text "\tr.mu.RLock()\n\tdefer r.mu.RUnlock()\n\tfor _, v := range r.items \x7b\n",
      conditionalNode "\t\tif " " \x7b\n\t\t\treturn &v, nil\n\t\t\x7d\n" "\t\treturn &v, nil\n",
      .text "\t\x7d\n\treturn nil, nil\n"] [
  .branch (isMode "sf" "many")
    [.text "\tr.mu.RLock()\n\tdefer r.mu.RUnlock()\n\tvar out []domain.", .print (.var "name"),
      .text "\n\tfor _, v := range r.items \x7b\n",
      conditionalNode "\t\tif " " \x7b\n\t\t\tout = append(out, v)\n\t\t\x7d\n"
        "\t\tout = append(out, v)\n",
      .text "\t\x7d\n\treturn out, nil\n"] [
  .branch (isMode "sf" "count")
    [.text "\tr.mu.RLock()\n\tdefer r.mu.RUnlock()\n",
      conditionalNode "\tvar n int64\n\tfor _, v := range r.items \x7b\n\t\tif "
        " \x7b\n\t\t\tn++\n\t\t\x7d\n\t\x7d\n\treturn n, nil\n"
        "\treturn int64(len(r.items)), nil\n"] [
  .branch (isMode "sf" "delete")
    [.text "\tr.mu.Lock()\n\tdefer r.mu.Unlock()\n\tvar n int64\n",
      conditionalNode "\tfor k, v := range r.items \x7b\n\t\tif "
        " \x7b\n\t\t\tdelete(r.items, k)\n\t\t\tn++\n\t\t\x7d\n\t\x7d\n"
        "\tn = int64(len(r.items))\n\tclear(r.items)\n",
      .text "\treturn n, nil\n"] []]]]]]

def memoryFinderNodes : List Node :=
  [Node.set "sig" (.attr (.var "sf") "sig"),
    .set "cond" (.filter (.attr (.var "sf") "conds") "join" [.const (.str " && ")])] ++
  finderNodes "" ++ memoryModeNodes ++ [Node.text "\x7d\n"]

def adapterNames : List Node := [
  .text ")\n", .set "name" entityName,
  .set "pk" (.or (.attr (.var "entity") "primary_key") (.const (.str "ID")))]

def stubRepoNodes : Template := preambleNodes "memory" ++ adapterNames ++ [
  Node.text "\n// ", .print (.var "name"), .text "Repository keeps domain.", .print (.var "name"),
  .text " values in process memory.\ntype ", .print (.var "name"),
  .text "Repository struct \x7b\n\tmu    sync.RWMutex\n\titems map[string]domain.",
  .print (.var "name"), .text "\n\x7d\n\nfunc New", .print (.var "name"), .text "Repository() *",
  .print (.var "name"), .text "Repository \x7b\n\treturn &", .print (.var "name"),
  .text "Repository\x7bitems: make(map[string]domain.", .print (.var "name"),
  .text ")\x7d\n\x7d\n",
  .loop ["m"] (.attr (.var "repo") "methods") none memoryStandardNodes [],
  .loop ["sf"] (.var "finders") none memoryFinderNodes []]

def documentFieldNodes : List Node := [
  .text "\t\t", .print (.filter (.filter (.attr (.var "f") "name") "mongo_bson_name" [])
    "go_quote" []),
  .text ": ", .print (.filter (.var "f") "mongo_value_expr" []), .text ",\n"]

def mongoRemark (method : String) : String :=
  if method = "Save" then "// Save upserts entity by primary key.\n"
  else if method = "FindByID" then "// FindByID returns nil when no document matches.\n"
  else ""

def mongoStandardNodes : List Node := standardMethodNodes mongoRemark
  [errorNode "\tdoc := bson.M\x7b\n",
    .loop ["f"] (.attr (.var "entity") "fields") none documentFieldNodes [],
    .text "\t\x7d\n\t_, err := r.coll.ReplaceOne(ctx, bson.M\x7b\"_id\": entity.",
    .print (.var "pk"), .text ("\x7d, doc, options.Replace().SetUpsert(true))\n\treturn err\n" ++
      "\x7d\n")]
  (resultsNodes "\tvar out domain." ++ [Node.print (.var "name"),
    .text (("\n\terr := r.coll.FindOne(ctx, bson.M\x7b\"_id\": id\x7d).Decode(&out)\n" ++
      "\tif errors.Is(err, mongo.ErrNoDocuments) \x7b\n\t\treturn nil, nil\n\t\x7d\n" ++
      "\tif err != nil \x7b\n\t\treturn nil, err\n\t\x7d\n\treturn &out, nil\n") ++ "\x7d\n")])
  (resultsNodes ("\tcur, err := r.coll.Find(ctx, bson.M\x7b\x7d)\n\tif err != nil \x7b\n" ++
      "\t\treturn nil, err\n\t\x7d\n\tvar out []domain.") ++ [Node.print (.var "name"),
    .text (("\n\tif err := cur.All(ctx, &out); err != nil \x7b\n\t\treturn nil, err\n\t\x7d\n" ++
      "\treturn out, nil\n") ++ "\x7d\n")])
  [errorNode ("\t_, err := r.coll.DeleteOne(ctx, bson.M\x7b\"_id\": id\x7d)\n\treturn err\n" ++
    "\x7d\n")]

def sortNodes : List Node := [
  .text "bson.D\x7bbson.E\x7bKey: ", .print (.filter (.attr (.var "mf") "sort_key") "go_quote" []),
  .text ", Value: ", .branch (.attr (.var "mf") "sort_desc") [.text "-1"] [.text "1"],
  .text "\x7d\x7d"]

def mongoFilterNodes : List Node := [
  .text "\tfilter[", .print (.filter (.attr (.var "f") "key") "go_quote" []),
  .text "] = mongoCond(", .print (.filter (.attr (.var "f") "op") "go_quote" []), .text ", ",
  .print (.attr (.var "f") "param"), .text ")\n"]

def isLimited : Expr :=
  .binary .greater (.attr (.attr (.var "mf") "finder") "limit") (.const (.int 0))

def findOptionsNodes : List Node := [
  .text "\topts := options.Find()\n",
  .branch (.attr (.var "mf") "sort_key")
    [.text "\topts.SetSort(", .print (.var "sort_expr"), .text ")\n"] [],
  .branch isLimited
    [.text "\topts.SetLimit(", .print (.attr (.attr (.var "mf") "finder") "limit"),
      .text ")\n"] [],
  .text "\tcur, err := r.coll.Find(ctx, filter, opts)\n"]

def mongoModeNodes : List Node := [
  .branch (isMode "mf" "one")
    [.branch (.attr (.var "mf") "sort_key")
        [.text "\topts := options.FindOne().SetSort(", .print (.var "sort_expr"),
          .text ")\n\tres := r.coll.FindOne(ctx, filter, opts)\n"]
        [.text "\tres := r.coll.FindOne(ctx, filter)\n"],
      .text "\tvar out ", .print (.attr (.var "mf") "elem_type"),
      .text ("\n\tif err := res.Decode(&out); err != nil \x7b\n" ++
        "\t\tif errors.Is(err, mongo.ErrNoDocuments) \x7b\n\t\t\treturn nil, nil\n\t\t\x7d\n" ++
        "\t\treturn nil, err\n\t\x7d\n\treturn &out, nil\n")] [
  .branch (isMode "mf" "many")
    [.branch (.or (.attr (.var "mf") "sort_key") isLimited)
        findOptionsNodes [.text "\tcur, err := r.coll.Find(ctx, filter)\n"],
      .text "\tif err != nil \x7b\n\t\treturn nil, err\n\t\x7d\n\tvar out []",
      .print (.attr (.var "mf") "elem_type"),
      .text ("\n\tif err := cur.All(ctx, &out); err != nil \x7b\n\t\treturn nil, err\n\t\x7d\n" ++
        "\treturn out, nil\n")] [
  .branch (isMode "mf" "count") [.text "\treturn r.coll.CountDocuments(ctx, filter)\n"] [
  .branch (isMode "mf" "delete")
    [.text ("\tres, err := r.coll.DeleteMany(ctx, filter)\n\tif err != nil \x7b\n" ++
      "\t\treturn 0, err\n\t\x7d\n\treturn res.DeletedCount, nil\n")] []]]]]

def mongoFinderNodes : List Node :=
  [Node.set "sig" (.attr (.var "mf") "sig"), .capture "sort_expr" sortNodes] ++
  finderNodes "\tfilter := bson.M\x7b\x7d\n" ++
  Node.loop ["f"] (.attr (.var "mf") "filters") none mongoFilterNodes [] ::
  mongoModeNodes ++ [Node.text "\x7d\n"]

def mongoRepoNodes : Template := preambleNodes "mongo" ++ adapterNames ++ [
  Node.text "\n// ", .print (.var "name"), .text "Repository stores domain.", .print (.var "name"),
  .text " documents.\ntype ", .print (.var "name"),
  .text "Repository struct \x7b\n\tcoll *mongo.Collection\n\x7d\n\nfunc New", .print (.var "name"),
  .text "Repository(db *mongo.Database) *", .print (.var "name"),
  .text "Repository \x7b\n\treturn &", .print (.var "name"),
  .text "Repository\x7bcoll: db.Collection(", .print (.var "name"), .text "Collection)\x7d\n\x7d\n",
  .loop ["m"] (.attr (.var "repo") "methods") none mongoStandardNodes [],
  .loop ["mf"] (.var "finders") none mongoFinderNodes []]

theorem parse?_repoPort : parse? repoPort = some repoPortNodes := by
  apply parse?_unlines
  · repeat' first | exact Text.Spelled.nil | apply Text.Spelled.cons | rfl
  · decide +kernel

theorem parse?_mockRepo : parse? mockRepo = some mockRepoNodes := by
  apply parse?_unlines
  · repeat' first | exact Text.Spelled.nil | apply Text.Spelled.cons | rfl
  · decide +kernel

theorem parse?_stubRepo : parse? stubRepo = some stubRepoNodes := by
  apply parse?_unlines
  · repeat' first | exact Text.Spelled.nil | apply Text.Spelled.cons | rfl
  · decide +kernel

theorem parse?_mongoRepo : parse? mongoRepo = some mongoRepoNodes := by
  apply parse?_unlines
  · repeat' first | exact Text.Spelled.nil | apply Text.Spelled.cons | rfl
  · decide +kernel

end GoScaffold.Bundled
