import GoScaffold.Document.Reading
import GoScaffold.Schema.Basic

/-! Schemas as documents: which keys each record has, in order of declaration, and how it is
read. -/

namespace GoScaffold

def TypeKind.ofName : String → TypeKind
  | "string" => .string
  | "int" => .int
  | "int64" => .int64
  | "float" => .float
  | "bool" => .bool
  | "time" => .time
  | "uuid" => .uuid
  | "json" => .json
  | "any" => .any
  | "list" => .list
  | "map" => .map
  | "entity" => .entity
  | "enum" => .enum
  | "file" => .file
  | _ => .unknown

def TypeKind.read : Reading TypeKind := fun depth d => (Reading.name depth d).map ofName

def Constraints.keys : List FieldKey := ["min", "max", "minLen", "maxLen", "regex", "enum"]

def Constraints.read : Reading Constraints := fun depth d => do
  let f ← Fields.open? keys depth d
  return {
    min := ← f.optional "min" .float
    max := ← f.optional "max" .float
    minLen := ← f.optional "minLen" .int64
    maxLen := ← f.optional "maxLen" .int64
    regex := ← f.text "regex"
    values := ← f.texts "enum" }

def Attribute.keys : List FieldKey := ["name", "args"]

def Attribute.read : Reading Attribute := fun depth d => do
  let f ← Fields.open? keys depth d
  return { name := ← f.text "name", args := ← f.metadata "args" }

def TypeRef.keys : List FieldKey := ["kind", "name", "itemType", "keyType", "inlineFields"]

def Field.keys : List FieldKey :=
  ["name", "type", "optional", "default", "isSecret", ⟨"isPII", ["isPii"]⟩, "skipDomain",
    "validateTag", "envVar", "constraints", "attributes", "ui", "metadata", "source"]

mutual

def TypeRef.readWithin : (levels : Nat) → Reading TypeRef
  | 0, _, _ => none
  | levels + 1, depth, d => do
    let f ← Fields.open? TypeRef.keys depth d
    return {
      kind := ← f.read "kind" TypeKind.read .any
      name := ← f.text "name"
      item := ← f.optional "itemType" (TypeRef.readWithin levels)
      key := ← f.optional "keyType" (TypeRef.readWithin levels)
      inlineFields := ← f.list "inlineFields" (Field.readWithin levels) }

def Field.readWithin : (levels : Nat) → Reading Field
  | 0, _, _ => none
  | levels + 1, depth, d => do
    let f ← Fields.open? Field.keys depth d
    return {
      name := ← f.text "name"
      type := ← f.read "type" (TypeRef.readWithin levels) .any
      optional := ← f.bool "optional"
      default := ← f.optional "default" .free
      isSecret := ← f.bool "isSecret"
      isPersonal := ← f.bool "isPII"
      skipDomain := ← f.bool "skipDomain"
      validateTag := ← f.text "validateTag"
      envVar := ← f.text "envVar"
      constraints := ← f.optional "constraints" Constraints.read
      attributes := ← f.list "attributes" Attribute.read
      ui := ← f.optional "ui" .free
      metadata := ← f.metadata "metadata"
      source := ← f.text "source" }

end

/-- Every nested type or field opens a level, so the depth bounds their nesting. -/
def TypeRef.read : Reading TypeRef := fun depth d => TypeRef.readWithin (depth + 1) depth d

def Field.read : Reading Field := fun depth d => Field.readWithin (depth + 1) depth d

def StateMachine.keys : List FieldKey := ["field", "states", "transitions"]

def StateMachine.read : Reading StateMachine := fun depth d => do
  let f ← Fields.open? keys depth d
  return {
    field := ← f.text "field"
    states := ← f.texts "states"
    transitions := ← f.dict "transitions" (.list .text) }

def Index.keys : List FieldKey := ["fields", "unique", "name"]

def Index.read : Reading Index := fun depth d => do
  let f ← Fields.open? keys depth d
  return { fields := ← f.texts "fields", unique := ← f.bool "unique", name := ← f.text "name" }

def Entity.keys : List FieldKey :=
  ["name", "description", "owner", "fields", "metadata", "indexes", "ui", "fsm", "source"]

def Entity.read : Reading Entity := fun depth d => do
  let f ← Fields.open? keys depth d
  return {
    name := ← f.text "name"
    description := ← f.text "description"
    owner := ← f.text "owner"
    fields := ← f.list "fields" Field.read
    metadata := ← f.metadata "metadata"
    indexes := ← f.list "indexes" Index.read
    ui := ← f.optional "ui" .free
    machine := ← f.optional "fsm" StateMachine.read
    source := ← f.text "source" }

def Source.keys : List FieldKey := ["name", "kind", "entity", "collection"]

def Source.read : Reading Source := fun depth d => do
  let f ← Fields.open? keys depth d
  return {
    name := ← f.text "name"
    kind := ← f.text "kind"
    entity := ← f.text "entity"
    collection := ← f.text "collection" }

def Pagination.keys : List FieldKey := ["type", "defaultLimit", "maxLimit"]

def Pagination.read : Reading Pagination := fun depth d => do
  let f ← Fields.open? keys depth d
  return {
    kind := ← f.text "type"
    defaultLimit := ← f.int64 "defaultLimit"
    maxLimit := ← f.int64 "maxLimit" }

def Snippet.keys : List FieldKey := ["lang", "code", "imports", "requiresTx"]

def Snippet.read : Reading Snippet := fun depth d => do
  let f ← Fields.open? keys depth d
  return {
    lang := ← f.text "lang"
    code := ← f.text "code"
    imports := ← f.texts "imports"
    requiresTx := ← f.bool "requiresTx" }

def FlowStep.keys : List FieldKey :=
  ["action", "params", "args", "steps", "ifNew", "ifExists", "then", "else", "cases", "default"]

def FlowStep.readWithin : (levels : Nat) → Reading FlowStep
  | 0, _, _ => none
  | levels + 1, depth, d => do
    let f ← Fields.open? keys depth d
    let branch key := f.list key (readWithin levels)
    return {
      action := ← f.text "action"
      params := ← f.texts "params"
      args := ← f.metadata "args"
      steps := ← branch "steps"
      ifNew := ← branch "ifNew"
      ifExists := ← branch "ifExists"
      thenSteps := ← branch "then"
      elseSteps := ← branch "else"
      cases := ← f.dict "cases" (.list (readWithin levels))
      defaultSteps := ← branch "default" }

def FlowStep.read : Reading FlowStep := fun depth d => FlowStep.readWithin (depth + 1) depth d

def Method.keys : List FieldKey :=
  ["name", "description", "input", "output", "sources", "flow", "impl", "pagination",
    ⟨"cacheTTL", ["cacheTtl"]⟩, "cacheTags", "throws", "publishes", "broadcasts", "idempotent",
    "dedupeKey", "outbox", "metadata", "source"]

def Method.read : Reading Method := fun depth d => do
  let f ← Fields.open? keys depth d
  return {
    name := ← f.text "name"
    description := ← f.text "description"
    input := ← f.optional "input" Entity.read
    output := ← f.optional "output" Entity.read
    sources := ← f.list "sources" Source.read
    flow := ← f.list "flow" FlowStep.read
    impl := ← f.optional "impl" Snippet.read
    pagination := ← f.optional "pagination" Pagination.read
    cacheTTL := ← f.text "cacheTTL"
    cacheTags := ← f.texts "cacheTags"
    throws := ← f.texts "throws"
    publishes := ← f.texts "publishes"
    broadcasts := ← f.texts "broadcasts"
    idempotent := ← f.bool "idempotent"
    dedupeKey := ← f.text "dedupeKey"
    outbox := ← f.bool "outbox"
    metadata := ← f.metadata "metadata"
    source := ← f.text "source" }

def Requirements.keys : List FieldKey := ["sql", "mongo", "redis", "nats", "s3"]

def Requirements.read : Reading Requirements := fun depth d => do
  let f ← Fields.open? keys depth d
  return {
    sql := ← f.bool "sql"
    mongo := ← f.bool "mongo"
    redis := ← f.bool "redis"
    nats := ← f.bool "nats"
    s3 := ← f.bool "s3" }

def Service.keys : List FieldKey :=
  ["name", "description", "methods", "publishes", "subscribes", "uses", "requires", "metadata",
    "source"]

def Service.read : Reading Service := fun depth d => do
  let f ← Fields.open? keys depth d
  return {
    name := ← f.text "name"
    description := ← f.text "description"
    methods := ← f.list "methods" Method.read
    publishes := ← f.texts "publishes"
    subscribes := ← f.dict "subscribes" .text
    uses := ← f.texts "uses"
    requires := ← f.read "requires" Requirements.read {}
    metadata := ← f.metadata "metadata"
    source := ← f.text "source" }

def Event.keys : List FieldKey := ["name", "fields", "metadata", "source"]

def Event.read : Reading Event := fun depth d => do
  let f ← Fields.open? keys depth d
  return {
    name := ← f.text "name"
    fields := ← f.list "fields" Field.read
    metadata := ← f.metadata "metadata"
    source := ← f.text "source" }

def BusinessError.keys : List FieldKey := ["name", "code", "httpStatus", "message"]

def BusinessError.read : Reading BusinessError := fun depth d => do
  let f ← Fields.open? keys depth d
  return {
    name := ← f.text "name"
    code := ← f.int64 "code"
    httpStatus := ← f.int64 "httpStatus"
    message := ← f.text "message" }

def EndpointAuth.keys : List FieldKey := ["type", "permission", "roles", "check", "inject"]

def EndpointAuth.read : Reading EndpointAuth := fun depth d => do
  let f ← Fields.open? keys depth d
  return {
    kind := ← f.text "type"
    permission := ← f.text "permission"
    roles := ← f.texts "roles"
    check := ← f.texts "check"
    inject := ← f.texts "inject" }

def RateLimit.keys : List FieldKey := ["rps", "burst"]

def RateLimit.read : Reading RateLimit := fun depth d => do
  let f ← Fields.open? keys depth d
  return { rps := ← f.int64 "rps", burst := ← f.int64 "burst" }

def CircuitBreaker.keys : List FieldKey := ["threshold", "timeout", "halfOpenMax"]

def CircuitBreaker.read : Reading CircuitBreaker := fun depth d => do
  let f ← Fields.open? keys depth d
  return {
    threshold := ← f.int64 "threshold"
    timeout := ← f.text "timeout"
    halfOpenMax := ← f.int64 "halfOpenMax" }

def Retry.keys : List FieldKey := ["attempts", "backoff"]

def Retry.read : Reading Retry := fun depth d => do
  let f ← Fields.open? keys depth d
  return { attempts := ← f.int64 "attempts", backoff := ← f.text "backoff" }

def TestHints.keys : List FieldKey := ["happyPath", "errorCases"]

def TestHints.read : Reading TestHints := fun depth d => do
  let f ← Fields.open? keys depth d
  return { happyPath := ← f.text "happyPath", errorCases := ← f.texts "errorCases" }

def Endpoint.keys : List FieldKey :=
  ["method", "path", "service", "rpc", "description", "messages", "roomParam", "auth", "rateLimit",
    "circuitBreaker", "retry", "pagination", "cache", "cacheTags", "invalidate", "timeout",
    "errors", "testHints", "metadata"]

def Endpoint.read : Reading Endpoint := fun depth d => do
  let f ← Fields.open? keys depth d
  return {
    method := ← f.text "method"
    path := ← f.text "path"
    service := ← f.text "service"
    rpc := ← f.text "rpc"
    description := ← f.text "description"
    messages := ← f.texts "messages"
    roomParam := ← f.text "roomParam"
    auth := ← f.optional "auth" EndpointAuth.read
    rateLimit := ← f.optional "rateLimit" RateLimit.read
    circuitBreaker := ← f.optional "circuitBreaker" CircuitBreaker.read
    retry := ← f.optional "retry" Retry.read
    pagination := ← f.optional "pagination" Pagination.read
    cache := ← f.text "cache"
    cacheTags := ← f.texts "cacheTags"
    invalidate := ← f.texts "invalidate"
    timeout := ← f.text "timeout"
    errors := ← f.texts "errors"
    testHints := ← f.optional "testHints" TestHints.read
    metadata := ← f.metadata "metadata" }

def Condition.keys : List FieldKey := ["field", "op", "param", "paramType"]

def Condition.read : Reading Condition := fun depth d => do
  let f ← Fields.open? keys depth d
  return {
    field := ← f.text "field"
    op := ← f.text "op"
    param := ← f.text "param"
    paramType := ← f.text "paramType" }

def Finder.keys : List FieldKey :=
  ["name", "action", "returns", "returnType", "where", "orderBy", "limit", "forUpdate",
    ⟨"customSQL", ["customSql"]⟩, "source"]

def Finder.read : Reading Finder := fun depth d => do
  let f ← Fields.open? keys depth d
  return {
    name := ← f.text "name"
    action := ← f.text "action"
    returns := ← f.text "returns"
    returnType := ← f.text "returnType"
    conditions := ← f.list "where" Condition.read
    orderBy := ← f.text "orderBy"
    limit := ← f.int64 "limit"
    forUpdate := ← f.bool "forUpdate"
    customSQL := ← f.text "customSQL"
    source := ← f.text "source" }

def Repository.keys : List FieldKey := ["name", "entity", "finders", "source"]

def Repository.read : Reading Repository := fun depth d => do
  let f ← Fields.open? keys depth d
  return {
    name := ← f.text "name"
    entity := ← f.text "entity"
    finders := ← f.list "finders" Finder.read
    source := ← f.text "source" }

def Auth.keys : List FieldKey := ["type", "service", "issuer", "accessTtl", "refreshTtl"]

def Auth.read : Reading Auth := fun depth d => do
  let f ← Fields.open? keys depth d
  return {
    kind := ← f.text "type"
    service := ← f.text "service"
    issuer := ← f.text "issuer"
    accessTtl := ← f.text "accessTtl"
    refreshTtl := ← f.text "refreshTtl" }

def Schedule.keys : List FieldKey := ["name", "service", "action", "at", "every", "publish"]

def Schedule.read : Reading Schedule := fun depth d => do
  let f ← Fields.open? keys depth d
  return {
    name := ← f.text "name"
    service := ← f.text "service"
    action := ← f.text "action"
    atTime := ← f.text "at"
    every := ← f.text "every"
    publish := ← f.text "publish" }

def Project.keys : List FieldKey := ["name", "version"]

def Project.read : Reading Project := fun depth d => do
  let f ← Fields.open? keys depth d
  return { name := ← f.text "name", version := ← f.text "version" }

def Schema.keys : List FieldKey :=
  ["irVersion", "project", "entities", "services", "events", "errors", "endpoints",
    ⟨"repos", ["repositories"]⟩, "auth", "schedules", "metadata"]

def Schema.read : Reading Schema := fun depth d => do
  let f ← Fields.open? keys depth d
  return {
    version := ← f.text "irVersion"
    project := ← f.read "project" Project.read {}
    entities := ← f.list "entities" Entity.read
    services := ← f.list "services" Service.read
    events := ← f.list "events" Event.read
    errors := ← f.list "errors" BusinessError.read
    endpoints := ← f.list "endpoints" Endpoint.read
    repos := ← f.list "repos" Repository.read
    auth := ← f.optional "auth" Auth.read
    schedules := ← f.list "schedules" Schedule.read
    metadata := ← f.metadata "metadata" }

end GoScaffold
