import GoScaffold.Text.Line

/-! Tests of the endpoints. -/

namespace GoScaffold.Bundled

def contractTests : String := Text.unlines [
  "// Code generated by ang \x7b\x7b ang_version \x7d\x7d. DO NOT EDIT.",
  "// input: \x7b\x7b input_hash \x7d\x7d compiler: \x7b\x7b compiler_hash \x7d\x7d",
  "",
  "package contract",
  "",
  "import (",
  "\x7b% if has_auth_bootstrap %\x7d",
  "\t\"encoding/json\"",
  "\t\"fmt\"",
  "\x7b% endif %\x7d",
  "\t\"io\"",
  "\t\"net/http\"",
  "\t\"os\"",
  "\t\"regexp\"",
  "\t\"strings\"",
  "\t\"testing\"",
  "\t\"time\"",
  ")",
  "",
  "type contractCase struct \x7b",
  "\tname   string",
  "\tmethod string",
  "\tpath   string",
  "\tquery  string",
  "\tbody   string",
  "\tauth   bool",
  "\tws     bool",
  "\x7d",
  "",
  "// One minimal valid request per endpoint.",
  "var cases = []contractCase\x7b",
  "\x7b% for c in suite.cases %\x7d",
  "\t\x7b",
  "\t\tname:   \x7b\x7b c.name | go_quote \x7d\x7d,",
  "\t\tmethod: \x7b\x7b c.method | go_quote \x7d\x7d,",
  "\t\tpath:   \x7b\x7b c.path | go_quote \x7d\x7d,",
  "\x7b% if c.query %\x7d",
  "\t\tquery:  \x7b\x7b c.query | go_quote \x7d\x7d,",
  "\x7b% endif %\x7d",
  "\x7b% if c.has_body %\x7d",
  "\t\tbody:   \x7b\x7b c.body_json | go_quote \x7d\x7d,",
  "\x7b% endif %\x7d",
  "\x7b% if c.has_auth %\x7d",
  "\t\tauth:   true,",
  "\x7b% endif %\x7d",
  "\x7b% if c.is_ws %\x7d",
  "\t\tws:     true,",
  "\x7b% endif %\x7d",
  "\t\x7d,",
  "\x7b% endfor %\x7d",
  "\x7d",
  "",
  "var pathParam = regexp.MustCompile(\x60\\\x7b[^/]+\\\x7d\x60)",
  "",
  "func baseURL() string \x7b",
  "\tif v := os.Getenv(\"ANG_BASE_URL\"); v != \"\" \x7b",
  "\t\treturn strings.TrimRight(v, \"/\")",
  "\t\x7d",
  "\treturn \"http://localhost:8080\"",
  "\x7d",
  "",
  "func send(client *http.Client, method, path, body, token string) (*http.Response, error) \x7b",
  "\tvar reader io.Reader",
  "\tif body != \"\" \x7b",
  "\t\treader = strings.NewReader(body)",
  "\t\x7d",
  "\treq, err := http.NewRequest(method, baseURL()+pathParam.ReplaceAllString(path, \"test\"), reader)",
  "\tif err != nil \x7b",
  "\t\treturn nil, err",
  "\t\x7d",
  "\treq.Header.Set(\"Content-Type\", \"application/json\")",
  "\tif token != \"\" \x7b",
  "\t\treq.Header.Set(\"Authorization\", \"Bearer \"+token)",
  "\t\x7d",
  "\treturn client.Do(req)",
  "\x7d",
  "\x7b% if has_auth_bootstrap %\x7d",
  "\x7b% set login_method = suite.auth.login_method or suite.auth.register_method %\x7d",
  "\x7b% set login_path = suite.auth.login_path or suite.auth.register_path %\x7d",
  "",
  "// registerAndLogin creates a throwaway account and returns its access token.",
  "func registerAndLogin(t *testing.T, client *http.Client) string \x7b",
  "\tt.Helper()",
  "\tcreds, err := json.Marshal(map[string]string\x7b",
  "\t\t\"email\":    fmt.Sprintf(\"contract-%d@example.com\", time.Now().UnixNano()),",
  "\t\t\"password\": \"test1234\",",
  "\t\x7d)",
  "\tif err != nil \x7b",
  "\t\tt.Fatal(err)",
  "\t\x7d",
  "\x7b% if suite.auth.register_path and suite.auth.login_path %\x7d",
  "\tif resp, err := send(client, \x7b\x7b suite.auth.register_method | go_quote \x7d\x7d, \x7b\x7b suite.auth.register_path | go_quote \x7d\x7d, string(creds), \"\"); err == nil \x7b",
  "\t\tresp.Body.Close()",
  "\t\x7d",
  "\x7b% endif %\x7d",
  "\tresp, err := send(client, \x7b\x7b login_method | go_quote \x7d\x7d, \x7b\x7b login_path | go_quote \x7d\x7d, string(creds), \"\")",
  "\tif err != nil \x7b",
  "\t\tt.Fatalf(\"login: %v\", err)",
  "\t\x7d",
  "\tdefer resp.Body.Close()",
  "\tvar out struct \x7b",
  "\t\tAccessToken string \x60json:\"accessToken\"\x60",
  "\t\tToken       string \x60json:\"token\"\x60",
  "\t\x7d",
  "\tif err := json.NewDecoder(resp.Body).Decode(&out); err != nil \x7b",
  "\t\tt.Fatalf(\"login response: %v\", err)",
  "\t\x7d",
  "\tif out.AccessToken != \"\" \x7b",
  "\t\treturn out.AccessToken",
  "\t\x7d",
  "\treturn out.Token",
  "\x7d",
  "\x7b% endif %\x7d",
  "",
  "func TestContract(t *testing.T) \x7b",
  "\tclient := &http.Client\x7bTimeout: 10 * time.Second\x7d",
  "\x7b% if has_auth_bootstrap %\x7d",
  "\ttoken := registerAndLogin(t, client)",
  "\x7b% else %\x7d",
  "\ttoken := \"\"",
  "\x7b% endif %\x7d",
  "\tfor _, tc := range cases \x7b",
  "\t\tt.Run(tc.name, func(t *testing.T) \x7b",
  "\t\t\tif tc.ws \x7b",
  "\t\t\t\tt.Skip(\"websocket endpoints are exercised by hand\")",
  "\t\t\t\x7d",
  "\t\t\tbearer := \"\"",
  "\t\t\tif tc.auth \x7b",
  "\t\t\t\tbearer = token",
  "\t\t\t\x7d",
  "\t\t\tresp, err := send(client, tc.method, tc.path+tc.query, tc.body, bearer)",
  "\t\t\tif err != nil \x7b",
  "\t\t\t\tt.Fatalf(\"%s %s: %v\", tc.method, tc.path, err)",
  "\t\t\t\x7d",
  "\t\t\tdefer resp.Body.Close()",
  "\t\t\tif resp.StatusCode == http.StatusBadRequest || resp.StatusCode >= 500 \x7b",
  "\t\t\t\tt.Fatalf(\"%s %s: unexpected status %d\", tc.method, tc.path, resp.StatusCode)",
  "\t\t\t\x7d",
  "\t\t\x7d)",
  "\t\x7d",
  "\x7d"]

end GoScaffold.Bundled
