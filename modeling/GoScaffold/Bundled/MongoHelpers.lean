import GoScaffold.Text.Line

/-! What all repositories of documents share. -/

namespace GoScaffold.Bundled

def mongoHelpers : String := Text.unlines [
  "// Code generated by ang \x7b\x7b ang_version \x7d\x7d. DO NOT EDIT.",
  "// input: \x7b\x7b input_hash \x7d\x7d compiler: \x7b\x7b compiler_hash \x7d\x7d",
  "",
  "package mongo",
  "",
  "import (",
  "\t\"regexp\"",
  "\t\"time\"",
  "",
  "\t\"go.mongodb.org/mongo-driver/bson\"",
  ")",
  "",
  "// Collection names.",
  "const (",
  "\x7b% for e in entities %\x7d",
  "\t\x7b\x7b e.name \x7d\x7dCollection = \x7b\x7b e.collection | go_quote \x7d\x7d",
  "\x7b% endfor %\x7d",
  ")",
  "",
  "// normalizeTime rewrites RFC 3339 timestamps to UTC so string comparisons",
  "// order correctly. Unparseable values are stored as given.",
  "func normalizeTime(value string) string \x7b",
  "\tif value == \"\" \x7b",
  "\t\treturn value",
  "\t\x7d",
  "\tt, err := time.Parse(time.RFC3339Nano, value)",
  "\tif err != nil \x7b",
  "\t\treturn value",
  "\t\x7d",
  "\treturn t.UTC().Format(time.RFC3339Nano)",
  "\x7d",
  "",
  "// mongoCond maps a finder operator to a query condition.",
  "func mongoCond(op string, value any) any \x7b",
  "\tswitch op \x7b",
  "\tcase \"\", \"eq\":",
  "\t\treturn value",
  "\tcase \"ne\":",
  "\t\treturn bson.M\x7b\"$ne\": value\x7d",
  "\tcase \"gt\":",
  "\t\treturn bson.M\x7b\"$gt\": value\x7d",
  "\tcase \"gte\":",
  "\t\treturn bson.M\x7b\"$gte\": value\x7d",
  "\tcase \"lt\":",
  "\t\treturn bson.M\x7b\"$lt\": value\x7d",
  "\tcase \"lte\":",
  "\t\treturn bson.M\x7b\"$lte\": value\x7d",
  "\tcase \"in\":",
  "\t\treturn bson.M\x7b\"$in\": value\x7d",
  "\tcase \"like\":",
  "\t\tif s, ok := value.(string); ok \x7b",
  "\t\t\treturn bson.M\x7b\"$regex\": regexp.QuoteMeta(s), \"$options\": \"i\"\x7d",
  "\t\t\x7d",
  "\t\treturn value",
  "\tdefault:",
  "\t\treturn value",
  "\t\x7d",
  "\x7d"]

end GoScaffold.Bundled
