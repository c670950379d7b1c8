import GoScaffold.Proofs.Artifact.RepositoryTexts

/-! The texts of the adapters that implement a repository, word for word, and that their templates
write just that. The standard methods are told apart by their kind and the finders by their mode;
both are declared by their signatures all the same. -/

namespace GoScaffold.Artifact

def memoryBody (name pk : String) : QueryKind → String
  | .save => "\tr.mu.Lock()\n\tdefer r.mu.Unlock()\n\tr.items[fmt.Sprint(entity." ++ pk ++
      ")] = *entity\n\treturn nil\n"
  | .findById =>
    "\tr.mu.RLock()\n\tdefer r.mu.RUnlock()\n\tv, ok := r.items[id]\n\tif !ok \x7b\n" ++
      "\t\treturn nil, nil\n\t\x7d\n\treturn &v, nil\n"
  | .listAll => "\tr.mu.RLock()\n\tdefer r.mu.RUnlock()\n\tout := make([]domain." ++ name ++
      (", 0, len(r.items))\n\tfor _, v := range r.items \x7b\n\t\tout = append(out, v)\n" ++
        "\t\x7d\n\treturn out, nil\n")
  | .delete => "\tr.mu.Lock()\n\tdefer r.mu.Unlock()\n\tdelete(r.items, id)\n\treturn nil\n"
  | .finder => ""

def memoryStandard (name pk : String) (m : QuerySignature) : Declaration where
  signature := m
  body := memoryBody name pk m.kind

def conditionalText (before after otherwise condition : String) : String :=
  if !condition.isEmpty then before ++ condition ++ after else otherwise

def memoryFinderBody (name : String) (m : QuerySignature) (condition : String) :
    Option FinderMode → String
  | none => "\treturn " ++ m.zeroText ++ "nil\n"
  | some .one => "\tr.mu.RLock()\n\tdefer r.mu.RUnlock()\n\tfor _, v := range r.items \x7b\n" ++
      conditionalText "\t\tif " " \x7b\n\t\t\treturn &v, nil\n\t\t\x7d\n" "\t\treturn &v, nil\n"
        condition ++
      "\t\x7d\n\treturn nil, nil\n"
  | some .many => "\tr.mu.RLock()\n\tdefer r.mu.RUnlock()\n\tvar out []domain." ++ name ++
      "\n\tfor _, v := range r.items \x7b\n" ++
      conditionalText "\t\tif " " \x7b\n\t\t\tout = append(out, v)\n\t\t\x7d\n"
        "\t\tout = append(out, v)\n" condition ++
      "\t\x7d\n\treturn out, nil\n"
  | some .count => "\tr.mu.RLock()\n\tdefer r.mu.RUnlock()\n" ++
      conditionalText "\tvar n int64\n\tfor _, v := range r.items \x7b\n\t\tif "
        " \x7b\n\t\t\tn++\n\t\t\x7d\n\t\x7d\n\treturn n, nil\n"
        "\treturn int64(len(r.items)), nil\n"
        condition
  | some .delete => "\tr.mu.Lock()\n\tdefer r.mu.Unlock()\n\tvar n int64\n" ++
      conditionalText "\tfor k, v := range r.items \x7b\n\t\tif "
        " \x7b\n\t\t\tdelete(r.items, k)\n\t\t\tn++\n\t\t\x7d\n\t\x7d\n"
        "\tn = int64(len(r.items))\n\tclear(r.items)\n" condition ++
      "\treturn n, nil\n"

def memoryFinder (name : String) (f : StubFinder) : Declaration where
  signature := f.signature
  body := memoryFinderBody name f.signature (Text.join " && " f.conditions) f.mode

def keyField (entity : Model.Entity) : String :=
  if !entity.primaryKey.isEmpty then entity.primaryKey else "ID"

def memoryDeclarations (p : StubPage) : List Declaration :=
  let name := Name.exported p.repo.entity
  p.repo.methods.map (memoryStandard name (keyField p.entity)) ++ p.finders.map (memoryFinder name)

def memoryText (h : Header) (i : Imports) (name : String) (methods : List Declaration) : String :=
  preamble h "memory" i ++ ")\n" ++ "\n// " ++ name ++ "Repository keeps domain." ++ name ++
    " values in process memory.\ntype " ++ name ++
    "Repository struct \x7b\n\tmu    sync.RWMutex\n\titems map[string]domain." ++ name ++
    "\n\x7d\n\nfunc New" ++ name ++ "Repository() *" ++ name ++ "Repository \x7b\n\treturn &" ++
    name ++ "Repository\x7bitems: make(map[string]domain." ++ name ++ ")\x7d\n\x7d\n" ++
    String.join (methods.map (Declaration.text ("r *" ++ name)))

def documentField (f : Model.Field) : String :=
  "\t\t" ++ Text.goQuote (Name.documentKey f.name) ++ ": " ++
    Template.Helper.storedExpression (some f.toJson) ++ ",\n"

def mongoBody (name : String) (entity : Model.Entity) : QueryKind → String
  | .save => "\tdoc := bson.M\x7b\n" ++ String.join (entity.fields.map documentField) ++
      "\t\x7d\n\t_, err := r.coll.ReplaceOne(ctx, bson.M\x7b\"_id\": entity." ++ keyField entity ++
      "\x7d, doc, options.Replace().SetUpsert(true))\n\treturn err\n"
  | .findById => "\tvar out domain." ++ name ++
      ("\n\terr := r.coll.FindOne(ctx, bson.M\x7b\"_id\": id\x7d).Decode(&out)\n" ++
        "\tif errors.Is(err, mongo.ErrNoDocuments) \x7b\n\t\treturn nil, nil\n\t\x7d\n" ++
        "\tif err != nil \x7b\n\t\treturn nil, err\n\t\x7d\n\treturn &out, nil\n")
  | .listAll => ("\tcur, err := r.coll.Find(ctx, bson.M\x7b\x7d)\n\tif err != nil \x7b\n" ++
      "\t\treturn nil, err\n\t\x7d\n\tvar out []domain.") ++ name ++
      ("\n\tif err := cur.All(ctx, &out); err != nil \x7b\n\t\treturn nil, err\n\t\x7d\n" ++
        "\treturn out, nil\n")
  | .delete => "\t_, err := r.coll.DeleteOne(ctx, bson.M\x7b\"_id\": id\x7d)\n\treturn err\n"
  | .finder => ""

def mongoStandard (name : String) (entity : Model.Entity) (m : QuerySignature) : Declaration where
  remark := Bundled.mongoRemark m.name
  signature := m
  body := mongoBody name entity m.kind

namespace MongoFinder

def sortText (f : MongoFinder) : String :=
  "bson.D\x7bbson.E\x7bKey: " ++ Text.goQuote f.sortKey ++ ", Value: " ++
    (if f.sortDesc then "-1" else "1") ++ "\x7d\x7d"

def isLimited (f : MongoFinder) : Bool := 0 < f.finder.declared.limit

def optionsText (f : MongoFinder) : String :=
  "\topts := options.Find()\n" ++
    (if !f.sortKey.isEmpty then "\topts.SetSort(" ++ f.sortText ++ ")\n" else "") ++
    (if f.isLimited then "\topts.SetLimit(" ++ toString f.finder.declared.limit ++ ")\n" else "") ++
    "\tcur, err := r.coll.Find(ctx, filter, opts)\n"

def modeText (f : MongoFinder) : FinderMode → String
  | .one => (if !f.sortKey.isEmpty then "\topts := options.FindOne().SetSort(" ++ f.sortText ++
        ")\n\tres := r.coll.FindOne(ctx, filter, opts)\n"
      else "\tres := r.coll.FindOne(ctx, filter)\n") ++ "\tvar out " ++ f.elemType ++
      ("\n\tif err := res.Decode(&out); err != nil \x7b\n" ++
        "\t\tif errors.Is(err, mongo.ErrNoDocuments) \x7b\n\t\t\treturn nil, nil\n\t\t\x7d\n" ++
        "\t\treturn nil, err\n\t\x7d\n\treturn &out, nil\n")
  | .many => (if !f.sortKey.isEmpty || f.isLimited then f.optionsText
      else "\tcur, err := r.coll.Find(ctx, filter)\n") ++
      "\tif err != nil \x7b\n\t\treturn nil, err\n\t\x7d\n\tvar out []" ++ f.elemType ++
      ("\n\tif err := cur.All(ctx, &out); err != nil \x7b\n\t\treturn nil, err\n\t\x7d\n" ++
        "\treturn out, nil\n")
  | .count => "\treturn r.coll.CountDocuments(ctx, filter)\n"
  | .delete => "\tres, err := r.coll.DeleteMany(ctx, filter)\n\tif err != nil \x7b\n" ++
      "\t\treturn 0, err\n\t\x7d\n\treturn res.DeletedCount, nil\n"

def filterText (f : MongoFilter) : String :=
  "\tfilter[" ++ Text.goQuote f.key ++ "] = mongoCond(" ++ Text.goQuote f.op ++ ", " ++
    f.param ++ ")\n"

def declaration (f : MongoFinder) : Declaration where
  signature := f.finder.signature
  body := "\tfilter := bson.M\x7b\x7d\n" ++ String.join (f.filters.map filterText) ++
    f.modeText f.mode

end MongoFinder

def mongoDeclarations (p : MongoPage) : List Declaration :=
  let name := Name.exported p.repo.entity
  p.repo.methods.map (mongoStandard name p.entity) ++ p.finders.map MongoFinder.declaration

def mongoText (h : Header) (i : Imports) (name : String) (methods : List Declaration) : String :=
  preamble h "mongo" i ++ ")\n" ++ "\n// " ++ name ++ "Repository stores domain." ++ name ++
    " documents.\ntype " ++ name ++
    "Repository struct \x7b\n\tcoll *mongo.Collection\n\x7d\n\nfunc New" ++ name ++
    "Repository(db *mongo.Database) *" ++ name ++ "Repository \x7b\n\treturn &" ++ name ++
    "Repository\x7bcoll: db.Collection(" ++ name ++ "Collection)\x7d\n\x7d\n" ++
    String.join (methods.map (Declaration.text ("r *" ++ name)))

open Template Bundled

variable {kit : HelperKit} {call : Caller} {s : Scope} {name pk : String}

/-! What both adapters have in common. -/

def adapterScope (s : Scope) (name pk : String) : Scope :=
  (s.bind "name" (.value (some (.str name)))).bind "pk" (.value (some (.str pk)))

theorem value_adapterScope_name : (adapterScope s name pk).value "name" = some (.str name) := by
  rw [adapterScope, Scope.value_bind_of_ne (by decide), Scope.value_bind_self]

theorem value_adapterScope_pk : (adapterScope s name pk).value "pk" = some (.str pk) :=
  Scope.value_bind_self

theorem value_adapterScope {x : String} (hname : x ≠ "name") (hpk : x ≠ "pk") :
    (adapterScope s name pk).value x = s.value x := by
  rw [adapterScope, Scope.value_bind_of_ne hpk, Scope.value_bind_of_ne hname]

theorem writes_adapterNames {repo : Model.Repository} {entity : Model.Entity}
    (hrepo : s.value "repo" = some repo.toJson) (hentity : s.value "entity" = some entity.toJson) :
    Writes kit call s adapterNames ")\n"
      (adapterScope s (Name.exported repo.entity) (keyField entity)) := by
  let named := s.bind "name" (.value (some (.str (Name.exported repo.entity))))
  have hkey : (Expr.attr (.var "entity") "primary_key").eval kit call named =
      .ok (some (.str entity.primaryKey)) := by
    have hvalue : named.value "entity" = some entity.toJson := by
      rw [Scope.value_bind_of_ne (by decide), hentity]
    rw [Expr.eval_attr (eval_var_eq hvalue)]
    simp [Model.Entity.toJson, Json.get?_obj_cons]
  have hpk : (Expr.or (.attr (.var "entity") "primary_key") (.const (.str "ID"))).eval
      kit call named =
      .ok (some (.str (keyField entity))) := by
    rw [Expr.eval_or hkey, Expr.eval_const, keyField]
    show (if !entity.primaryKey.isEmpty then _ else _) = _
    split <;> rfl
  exact .of_eq (.text _ <| .set (eval_entityName hrepo) <| .set hpk .nil) String.append_empty

theorem eval_methods {repo : Model.Repository} (hrepo : s.value "repo" = some repo.toJson) :
    (Expr.attr (.var "repo") "methods").eval kit call s =
      .ok (some (.arr (repo.methods.map QuerySignature.toJson))) := by
  rw [Expr.eval_attr (eval_var_eq hrepo)]
  simp [Model.Repository.toJson, Json.get?_obj_cons]

theorem mem_standardMethods_of_mem {repo : Model.Repository} {m : QuerySignature}
    (hm : m ∈ repo.methods) : m ∈ QuerySignature.standardMethods repo.entity := by
  unfold Model.Repository.methods QuerySignature.standardBeside at hm
  exact List.mem_of_mem_filter hm

theorem kind_cases {entity : String} {m : QuerySignature}
    (hm : m ∈ QuerySignature.standardMethods entity) :
    (m.kind = .save ∧ m.name = "Save" ∧ m.results = "error") ∨
    (m.kind = .findById ∧ m.name = "FindByID") ∨ (m.kind = .listAll ∧ m.name = "ListAll") ∨
    (m.kind = .delete ∧ m.name = "Delete" ∧ m.results = "error") := by
  simp only [QuerySignature.standardMethods, List.mem_cons, List.not_mem_nil, or_false] at hm
  rcases hm with rfl | rfl | rfl | rfl
  · exact .inl ⟨rfl, rfl, rfl⟩
  · exact .inr (.inl ⟨rfl, rfl⟩)
  · exact .inr (.inr (.inl ⟨rfl, rfl⟩))
  · exact .inr (.inr (.inr ⟨rfl, rfl, rfl⟩))

/-- A standard method is declared by its signature, whatever its kind. The nodes after the
parameters may print the results or have them in their text. -/
theorem writes_standardMethod {entity : String} {m : QuerySignature}
    (hm : m ∈ QuerySignature.standardMethods entity) (remark : String → String)
    {body : QueryKind → String} {save find list delete : List Node}
    (hname : s.value "name" = some (.str name)) (hvalue : s.value "m" = some m.toJson)
    (hsave : Writes kit call s save
      (") " ++ "error" ++ " \x7b\n" ++ (body .save ++ "\x7d\n")) s)
    (hfind : Writes kit call s find
      (") " ++ m.results ++ " \x7b\n" ++ (body .findById ++ "\x7d\n")) s)
    (hlist : Writes kit call s list
      (") " ++ m.results ++ " \x7b\n" ++ (body .listAll ++ "\x7d\n")) s)
    (hdelete : Writes kit call s delete
      (") " ++ "error" ++ " \x7b\n" ++ (body .delete ++ "\x7d\n")) s) :
    Writes kit call s (standardMethodNodes remark save find list delete)
      (Declaration.text ("r *" ++ name)
        { remark := remark m.name, signature := m, body := body m.kind }) s := by
  have hsigned : Signed kit call s (.var "m") m := signed_of_value hvalue
  have hkind (kind : String) : (isKind kind).eval kit call s =
      .ok (some (.bool (m.kind.name == kind))) :=
    Expr.eval_equal hsigned.kind kind
  have hopening (before method : String) : Writes kit call s (standardNodes before method) _ s :=
    .text _ <| .print (eval_var_eq hname) <| .text _ <| .print hsigned.callParams .nil
  unfold Declaration.text
  -- The template asks for the kinds one after the other.
  rcases kind_cases hm with ⟨hk, hn, hr⟩ | ⟨hk, hn⟩ | ⟨hk, hn⟩ | ⟨hk, hn, hr⟩
  · have hwrites : Writes kit call s (standardMethodNodes remark save find list delete) _ s :=
      .text _ <| .chosen (hkind "save") (by rw [hk]; rfl) ((hopening _ _).append hsave)
    exact hwrites.of_eq (by simp only [QuerySignature.text, hn, hr, hk, Value.printed,
      String.append_assoc, String.empty_append])
  · have hwrites : Writes kit call s (standardMethodNodes remark save find list delete) _ s :=
      .text _ <| .otherwise (hkind "save") (by rw [hk]; rfl) <|
      .chosen (hkind "find_by_id") (by rw [hk]; rfl) ((hopening _ _).append hfind)
    exact hwrites.of_eq (by simp only [QuerySignature.text, hn, hk, Value.printed,
      String.append_assoc, String.empty_append])
  · have hwrites : Writes kit call s (standardMethodNodes remark save find list delete) _ s :=
      .text _ <| .otherwise (hkind "save") (by rw [hk]; rfl) <|
      .otherwise (hkind "find_by_id") (by rw [hk]; rfl) <|
      .chosen (hkind "list_all") (by rw [hk]; rfl) ((hopening _ _).append hlist)
    exact hwrites.of_eq (by simp only [QuerySignature.text, hn, hk, Value.printed,
      String.append_assoc, String.empty_append])
  · have hwrites : Writes kit call s (standardMethodNodes remark save find list delete) _ s :=
      .text _ <| .otherwise (hkind "save") (by rw [hk]; rfl) <|
      .otherwise (hkind "find_by_id") (by rw [hk]; rfl) <|
      .otherwise (hkind "list_all") (by rw [hk]; rfl) <|
      .chosen (hkind "delete") (by rw [hk]; rfl) ((hopening _ _).append hdelete)
    exact hwrites.of_eq (by simp only [QuerySignature.text, hn, hr, hk, Value.printed,
      String.append_assoc, String.empty_append])

theorem writes_results {m : QuerySignature} (hvalue : s.value "m" = some m.toJson) (body : String) :
    Writes kit call s (resultsNodes body) (") " ++ m.results ++ (" \x7b\n" ++ body)) s := by
  have hsigned : Signed kit call s (.var "m") m := signed_of_value hvalue
  have hwrites : Writes kit call s (resultsNodes body) _ s :=
    .text _ <| .print hsigned.results <| .text _ .nil
  exact hwrites.of_eq (by simp only [Value.printed, String.append_assoc, String.append_empty])

theorem writes_finderOpening {m : QuerySignature} (hsigned : Signed kit call s (.var "sig") m)
    (hname : s.value "name" = some (.str name)) (body : String) :
    Writes kit call s (finderNodes body)
      ("\n" ++ "func (" ++ ("r *" ++ name) ++ "Repository) " ++ m.text ++
        (" \x7b\n" ++ body)) s := by
  have hreceiver : Writes kit call s
      [.text ("\n" ++ "func (" ++ "r *"), .print (.var "name"), .text "Repository) "] _ s :=
    .text _ <| .print (eval_var_eq hname) <| .text _ .nil
  have hwrites : Writes kit call s (finderNodes body) _ s :=
    (hreceiver.append (writes_signature hsigned)).append (.text _ .nil)
  exact hwrites.of_eq (by simp only [Value.printed, String.append_assoc, String.append_empty])

/-! In memory. -/

theorem writes_memoryStandard {entity pk : String} {m : QuerySignature}
    (hm : m ∈ QuerySignature.standardMethods entity) (hname : s.value "name" = some (.str name))
    (hpk : s.value "pk" = some (.str pk)) (hvalue : s.value "m" = some m.toJson) :
    Writes kit call s memoryStandardNodes ((memoryStandard name pk m).text ("r *" ++ name)) s := by
  apply writes_standardMethod hm (fun _ => "") hname hvalue
  all_goals unfold memoryBody
  · refine Writes.of_eq (.text _ <| .print (eval_var_eq hpk) <| .text _ .nil) ?_
    simp only [Value.printed, String.append_assoc, String.append_empty]
  · refine (writes_results hvalue _).of_eq ?_
    simp only [String.append_assoc]
  · refine Writes.of_eq ((writes_results hvalue _).append <|
      .print (eval_var_eq hname) <| .text _ .nil) ?_
    simp only [Value.printed, String.append_assoc, String.append_empty]
  · refine Writes.of_eq (.text _ .nil) ?_
    simp only [String.append_assoc, String.append_empty]

theorem writes_conditional {condition : String} (hcond : s.value "cond" = some (.str condition))
    (before after otherwise : String) {nodes : List Node} {rest : String} {u : Scope}
    (hrest : Writes kit call s nodes rest u) :
    Writes kit call s (conditionalNode before after otherwise :: nodes)
      (conditionalText before after otherwise condition ++ rest) u := by
  have hyes : Writes kit call s [.text before, .print (.var "cond"), .text after]
      (before ++ condition ++ after) s :=
    .of_eq (.text _ <| .print (eval_var_eq hcond) <| .text _ .nil)
      (by simp only [Value.printed, String.append_assoc, String.append_empty])
  have hno : Writes kit call s [.text otherwise] otherwise s :=
    .of_eq (.text _ .nil) String.append_empty
  exact .either (eval_var_eq hcond) rfl hyes hno hrest

theorem writes_memoryMode {f : StubFinder} {condition : String}
    (hname : s.value "name" = some (.str name)) (hcond : s.value "cond" = some (.str condition))
    (hsigned : Signed kit call s (.var "sig") f.signature)
    (hfinder : s.value "sf" = some f.toJson) :
    Writes kit call s memoryModeNodes (memoryFinderBody name f.signature condition f.mode) s := by
  have hmode (mode : String) : (isMode "sf" mode).eval kit call s =
      .ok (some (.bool ((f.mode.map FinderMode.name).getD "" == mode))) := by
    apply Expr.eval_equal
    rw [Expr.eval_attr (eval_var_eq hfinder)]
    simp [StubFinder.toJson, Json.get?_obj_cons]
  have hprinted : (Expr.var "name").eval kit call s = _ := eval_var_eq hname
  unfold memoryFinderBody
  cases hf : f.mode with
  | none =>
    rw [hf] at hmode
    have hwrites : Writes kit call s memoryModeNodes _ s := .chosen (hmode "") rfl <|
      .text _ <| writes_zero hsigned <| .text _ .nil
    exact hwrites.of_eq (by simp only [String.append_assoc, String.append_empty])
  | some mode =>
    rw [hf] at hmode
    cases mode with
    | one =>
      have hwrites : Writes kit call s memoryModeNodes _ s := .otherwise (hmode "") rfl <|
        .chosen (hmode "one") rfl <| .text _ <| writes_conditional hcond _ _ _ <| .text _ .nil
      exact hwrites.of_eq (by simp only [String.append_assoc, String.append_empty])
    | many =>
      have hwrites : Writes kit call s memoryModeNodes _ s := .otherwise (hmode "") rfl <|
        .otherwise (hmode "one") rfl <| .chosen (hmode "many") rfl <|
        .text _ <| .print hprinted <| .text _ <| writes_conditional hcond _ _ _ <| .text _ .nil
      exact hwrites.of_eq (by simp only [Value.printed, String.append_assoc, String.append_empty])
    | count =>
      have hwrites : Writes kit call s memoryModeNodes _ s := .otherwise (hmode "") rfl <|
        .otherwise (hmode "one") rfl <| .otherwise (hmode "many") rfl <|
        .chosen (hmode "count") rfl <| .text _ <| writes_conditional hcond _ _ _ .nil
      exact hwrites.of_eq (by simp only [String.append_empty])
    | delete =>
      have hwrites : Writes kit call s memoryModeNodes _ s := .otherwise (hmode "") rfl <|
        .otherwise (hmode "one") rfl <| .otherwise (hmode "many") rfl <|
        .otherwise (hmode "count") rfl <| .chosen (hmode "delete") rfl <|
        .text _ <| writes_conditional hcond _ _ _ <| .text _ .nil
      exact hwrites.of_eq (by simp only [String.append_assoc, String.append_empty])

theorem writes_memoryFinder {f : StubFinder} (hname : s.value "name" = some (.str name))
    (hfinder : s.value "sf" = some f.toJson) : ∃ after,
    Writes kit call s memoryFinderNodes ((memoryFinder name f).text ("r *" ++ name)) after := by
  let signed := s.bind "sig" (.value (some f.signature.toJson))
  let ready := signed.bind "cond" (.value (some (.str (Text.join " && " f.conditions))))
  -- Two names are set before the declaration, and no other changes.
  have hkept {x : String} (hsig : x ≠ "sig") (hcond : x ≠ "cond") : ready.value x = s.value x := by
    rw [Scope.value_bind_of_ne hcond, Scope.value_bind_of_ne hsig]
  have hsignature : (Expr.attr (.var "sf") "sig").eval kit call s =
      .ok (some f.signature.toJson) := by
    rw [Expr.eval_attr (eval_var_eq hfinder)]
    simp [StubFinder.toJson, Json.get?_obj_cons]
  have hconditions : (Expr.attr (.var "sf") "conds").eval kit call signed =
      .ok (some (.strs f.conditions)) := by
    have hvalue : signed.value "sf" = some f.toJson := by
      rw [Scope.value_bind_of_ne (by decide), hfinder]
    rw [Expr.eval_attr (eval_var_eq hvalue)]
    simp [StubFinder.toJson, Json.get?_obj_cons]
  have hsigned : Signed kit call ready (.var "sig") f.signature := by
    apply signed_of_value
    rw [Scope.value_bind_of_ne (by decide), Scope.value_bind_self]
  have hready : ready.value "name" = some (.str name) := by
    rw [hkept (by decide) (by decide), hname]
  have hmode : Writes kit call ready memoryModeNodes _ ready :=
    writes_memoryMode hready Scope.value_bind_self hsigned
      (by rw [hkept (by decide) (by decide), hfinder])
  have hset : Writes kit call s _ "" ready :=
    .set hsignature <| .set (Expr.eval_filter_const hconditions "join" (.str " && ") |>.trans
      (HelperKit.filter_join " && " f.conditions)) .nil
  have hwrites : Writes kit call s memoryFinderNodes _ ready :=
    ((hset.append (writes_finderOpening hsigned hready "")).append hmode).append (.text _ .nil)
  refine ⟨ready, hwrites.of_eq ?_⟩
  unfold Declaration.text memoryFinder
  simp only [String.append_assoc, String.append_empty, String.empty_append]

theorem writes_memory {h : Header} {p : StubPage} (hs : Stamped s h p.imports)
    (hrepo : s.value "repo" = some p.repo.toJson)
    (hentity : s.value "entity" = some p.entity.toJson)
    (hfinders : s.value "finders" = some (.arr (p.finders.map StubFinder.toJson))) : ∃ after,
    Writes kit call s stubRepoNodes
      (memoryText h p.imports (Name.exported p.repo.entity) (memoryDeclarations p)) after := by
  let named := adapterScope s (Name.exported p.repo.entity) (keyField p.entity)
  have hprinted : (Expr.var "name").eval kit call named = _ := eval_var_eq value_adapterScope_name
  have hmethods : (Expr.attr (.var "repo") "methods").eval kit call named = _ :=
    eval_methods (by rw [value_adapterScope (by decide) (by decide), hrepo])
  have hlist : (Expr.var "finders").eval kit call named = _ :=
    eval_var_eq (by rw [value_adapterScope (by decide) (by decide), hfinders])
  have hstandard (m : QuerySignature) (hm : m ∈ p.repo.methods) (index length : Nat) : ∃ after,
      Writes kit call (named.enter (Loop.frame "m" m.toJson index length)) memoryStandardNodes
        ((memoryStandard (Name.exported p.repo.entity) (keyField p.entity) m).text
          ("r *" ++ Name.exported p.repo.entity)) after := by
    refine ⟨_, writes_memoryStandard (mem_standardMethods_of_mem hm) ?_ ?_
      (Loop.value_frame_name (by decide) _ _ _)⟩
    · rw [Loop.value_frame_of_ne (by decide) (by decide), value_adapterScope_name]
    · rw [Loop.value_frame_of_ne (by decide) (by decide), value_adapterScope_pk]
  have hfinder (f : StubFinder) (_ : f ∈ p.finders) (index length : Nat) : ∃ after,
      Writes kit call (named.enter (Loop.frame "sf" f.toJson index length)) memoryFinderNodes
        ((memoryFinder (Name.exported p.repo.entity) f).text
          ("r *" ++ Name.exported p.repo.entity)) after := by
    refine writes_memoryFinder ?_ (Loop.value_frame_name (by decide) _ _ _)
    rw [Loop.value_frame_of_ne (by decide) (by decide), value_adapterScope_name]
  have hwrites : Writes kit call s stubRepoNodes _ named :=
    ((writes_preamble hs "memory").append (writes_adapterNames hrepo hentity)).append <|
    .text _ <| .print hprinted <| .text _ <| .print hprinted <| .text _ <| .print hprinted <|
    .text _ <| .print hprinted <| .text _ <| .print hprinted <| .text _ <| .print hprinted <|
    .text _ <| .print hprinted <| .text _ <| .print hprinted <| .text _ <|
    .loop hmethods hstandard <| .loop hlist hfinder .nil
  refine ⟨named, hwrites.of_eq ?_⟩
  unfold memoryText memoryDeclarations
  simp only [Value.printed, List.map_append, List.map_map, Function.comp_def, String.join_append,
    String.append_assoc, String.append_empty]

/-! On documents. -/

theorem fieldsJson_eq_map (fields : List Model.Field) :
    Model.fieldsJson fields = fields.map Model.Field.toJson := by
  induction fields with
  | nil => rfl
  | cons f fields ih => rw [Model.fieldsJson, ih, List.map_cons]

theorem get?_toJson_name (f : Model.Field) : f.toJson.get? "name" = some (.str f.name) := by
  cases f
  rw [Model.Field.toJson, Json.get?_obj_cons, if_pos rfl]

theorem writes_documentField {f : Model.Field} (hf : s.value "f" = some f.toJson) :
    Writes .mongo call s documentFieldNodes (documentField f) s := by
  have hname : (Expr.attr (.var "f") "name").eval .mongo call s = .ok (some (.str f.name)) := by
    rw [Expr.eval_attr (eval_var_eq hf), get?_toJson_name]
  have hkey : (Expr.filter (.attr (.var "f") "name") "mongo_bson_name" []).eval .mongo call s =
      .ok (some (.str (Name.documentKey f.name))) := by
    rw [Expr.eval_filter hname, HelperKit.filter_documentKey]
  have hwrites : Writes .mongo call s documentFieldNodes _ s :=
    .text _ <| .print (Expr.eval_goQuote hkey) <|
    .text _ <| .print ((Expr.eval_filter (eval_var_eq hf) "mongo_value_expr").trans
      (HelperKit.filter_storedExpression _)) <| .text _ .nil
  unfold documentField
  exact hwrites.of_eq (by simp only [Value.printed, String.append_assoc, String.append_empty])

theorem writes_mongoStandard {declared : String} {entity : Model.Entity} {m : QuerySignature}
    (hm : m ∈ QuerySignature.standardMethods declared) (hname : s.value "name" = some (.str name))
    (hpk : s.value "pk" = some (.str (keyField entity)))
    (hentity : s.value "entity" = some entity.toJson) (hvalue : s.value "m" = some m.toJson) :
    Writes .mongo call s mongoStandardNodes
      ((mongoStandard name entity m).text ("r *" ++ name)) s := by
  have hfields : (Expr.attr (.var "entity") "fields").eval .mongo call s =
      .ok (some (.arr (entity.fields.map Model.Field.toJson))) := by
    rw [Expr.eval_attr (eval_var_eq hentity), ← fieldsJson_eq_map]
    simp [Model.Entity.toJson, Json.get?_obj_cons]
  have hfield (f : Model.Field) (_ : f ∈ entity.fields) (index length : Nat) : ∃ after,
      Writes .mongo call (s.enter (Loop.frame "f" f.toJson index length)) documentFieldNodes
        (documentField f) after :=
    ⟨_, writes_documentField (Loop.value_frame_name (by decide) _ _ _)⟩
  apply writes_standardMethod hm mongoRemark hname hvalue
  all_goals unfold mongoBody
  · refine Writes.of_eq (.text _ <| .loop hfields hfield <| .text _ <| .print (eval_var_eq hpk) <|
      .text _ .nil) ?_
    simp only [Value.printed, String.append_assoc, String.append_empty]
  · refine Writes.of_eq ((writes_results hvalue _).append <|
      .print (eval_var_eq hname) <| .text _ .nil) ?_
    simp only [Value.printed, String.append_assoc, String.append_empty]
  · refine Writes.of_eq ((writes_results hvalue _).append <|
      .print (eval_var_eq hname) <| .text _ .nil) ?_
    simp only [Value.printed, String.append_assoc, String.append_empty]
  · refine Writes.of_eq (.text _ .nil) ?_
    simp only [String.append_assoc, String.append_empty]

structure Described (call : Caller) (s : Scope) (f : MongoFinder) : Prop where
  mode (mode : String) : (isMode "mf" mode).eval .mongo call s =
    .ok (some (.bool (f.mode.name == mode)))
  elemType : (Expr.attr (.var "mf") "elem_type").eval .mongo call s = .ok (some (.str f.elemType))
  filters : (Expr.attr (.var "mf") "filters").eval .mongo call s =
    .ok (some (.arr (f.filters.map MongoFilter.toJson)))
  sortKey : (Expr.attr (.var "mf") "sort_key").eval .mongo call s = .ok (some (.str f.sortKey))
  sortDesc : (Expr.attr (.var "mf") "sort_desc").eval .mongo call s = .ok (some (.bool f.sortDesc))
  limit : (Expr.attr (.attr (.var "mf") "finder") "limit").eval .mongo call s =
    .ok (some (.int f.finder.declared.limit))

theorem described_of_value {f : MongoFinder} (hf : s.value "mf" = some f.toJson) :
    Described call s f := by
  have hattr (name : String) : (Expr.attr (.var "mf") name).eval .mongo call s =
      .ok (f.toJson.get? name) :=
    Expr.eval_attr (eval_var_eq hf) name
  have hfinder : (Expr.attr (.var "mf") "finder").eval .mongo call s =
      .ok (some f.finder.toJson) := by
    rw [hattr]
    simp [MongoFinder.toJson, Json.get?_obj_cons]
  constructor
  case mode =>
    intro mode
    apply Expr.eval_equal
    rw [hattr]
    simp [MongoFinder.toJson, Json.get?_obj_cons]
  case limit =>
    rw [Expr.eval_attr hfinder]
    simp [Model.Finder.toJson, Json.get?_obj_cons]
  all_goals
    rw [hattr]
    simp [MongoFinder.toJson, Json.get?_obj_cons]

theorem writes_sort {f : MongoFinder} (hf : Described call s f) :
    Writes .mongo call s sortNodes f.sortText s := by
  have hwrites : Writes .mongo call s sortNodes _ s :=
    .text _ <| .print (Expr.eval_goQuote hf.sortKey) <| .text _ <|
    .either hf.sortDesc rfl (.text _ .nil) (.text _ .nil) <| .text _ .nil
  unfold MongoFinder.sortText
  exact hwrites.of_eq (by simp only [Value.printed, Value.isTrue, String.append_assoc,
    String.append_empty])

theorem writes_filter {f : MongoFilter} (hf : s.value "f" = some f.toJson) :
    Writes .mongo call s mongoFilterNodes (MongoFinder.filterText f) s := by
  have hattr (name : String) : (Expr.attr (.var "f") name).eval .mongo call s =
      .ok (f.toJson.get? name) :=
    Expr.eval_attr (eval_var_eq hf) name
  have hkey : (Expr.attr (.var "f") "key").eval .mongo call s = .ok (some (.str f.key)) := by
    rw [hattr]
    simp [MongoFilter.toJson, Json.get?_obj_cons]
  have hop : (Expr.attr (.var "f") "op").eval .mongo call s = .ok (some (.str f.op)) := by
    rw [hattr]
    simp [MongoFilter.toJson, Json.get?_obj_cons]
  have hparam : (Expr.attr (.var "f") "param").eval .mongo call s = .ok (some (.str f.param)) := by
    rw [hattr]
    simp [MongoFilter.toJson, Json.get?_obj_cons]
  have hwrites : Writes .mongo call s mongoFilterNodes _ s :=
    .text _ <| .print (Expr.eval_goQuote hkey) <| .text _ <| .print (Expr.eval_goQuote hop) <|
    .text _ <| .print hparam <| .text _ .nil
  unfold MongoFinder.filterText
  exact hwrites.of_eq (by simp only [Value.printed, String.append_assoc, String.append_empty])

theorem writes_options {f : MongoFinder} (hf : Described call s f)
    (hsort : s.value "sort_expr" = some (.str f.sortText)) :
    Writes .mongo call s findOptionsNodes f.optionsText s := by
  have hlimited : Bundled.isLimited.eval .mongo call s = .ok (some (.bool f.isLimited)) :=
    Expr.eval_greater hf.limit 0
  have hprinted : Value.printed (.int f.finder.declared.limit) =
      toString f.finder.declared.limit := rfl
  have hwrites : Writes .mongo call s findOptionsNodes _ s :=
    .text _ <| .either hf.sortKey rfl (.text _ <| .print (eval_var_eq hsort) <|
      .text _ .nil) .nil <|
    .either hlimited rfl (.text _ <| .print hf.limit <| .text _ .nil) .nil <| .text _ .nil
  rw [hprinted] at hwrites
  unfold MongoFinder.optionsText
  exact hwrites.of_eq (by simp only [Value.printed, Value.isTrue, String.append_assoc,
    String.append_empty])

theorem writes_mongoMode {f : MongoFinder} (hf : Described call s f)
    (hsort : s.value "sort_expr" = some (.str f.sortText)) :
    Writes .mongo call s mongoModeNodes (f.modeText f.mode) s := by
  have hlimited : Bundled.isLimited.eval .mongo call s = .ok (some (.bool f.isLimited)) :=
    Expr.eval_greater hf.limit 0
  obtain ⟨asked, hasked, htrue⟩ := Expr.exists_eval_or hf.sortKey hlimited
  have hoptional : asked.isTrue = (!f.sortKey.isEmpty || f.isLimited) := htrue
  have hmode := hf.mode
  have hoptions : Writes .mongo call s findOptionsNodes f.optionsText s := writes_options hf hsort
  unfold MongoFinder.modeText
  cases hm : f.mode with
  | one =>
    rw [hm] at hmode
    have hwrites : Writes .mongo call s mongoModeNodes _ s := .chosen (hmode "one") rfl <|
      .either hf.sortKey rfl (.text _ <| .print (eval_var_eq hsort) <| .text _ .nil)
        (.text _ .nil) <|
      .text _ <| .print hf.elemType <| .text _ .nil
    exact hwrites.of_eq (by simp only [Value.printed, Value.isTrue, String.append_assoc,
      String.append_empty])
  | many =>
    rw [hm] at hmode
    have hwrites : Writes .mongo call s mongoModeNodes _ s := .otherwise (hmode "one") rfl <|
      .chosen (hmode "many") rfl <| .either hasked hoptional hoptions (.text _ .nil) <|
      .text _ <| .print hf.elemType <| .text _ .nil
    exact hwrites.of_eq (by simp only [Value.printed, String.append_assoc, String.append_empty])
  | count =>
    rw [hm] at hmode
    have hwrites : Writes .mongo call s mongoModeNodes _ s := .otherwise (hmode "one") rfl <|
      .otherwise (hmode "many") rfl <| .chosen (hmode "count") rfl <| .text _ .nil
    exact hwrites.of_eq (by simp only [String.append_empty])
  | delete =>
    rw [hm] at hmode
    have hwrites : Writes .mongo call s mongoModeNodes _ s := .otherwise (hmode "one") rfl <|
      .otherwise (hmode "many") rfl <| .otherwise (hmode "count") rfl <|
      .chosen (hmode "delete") rfl <| .text _ .nil
    exact hwrites.of_eq (by simp only [String.append_empty])

theorem writes_mongoFinder {f : MongoFinder} (hname : s.value "name" = some (.str name))
    (hfinder : s.value "mf" = some f.toJson) : ∃ after,
    Writes .mongo call s mongoFinderNodes (f.declaration.text ("r *" ++ name)) after := by
  let signed := s.bind "sig" (.value (some f.finder.signature.toJson))
  let ready := signed.bind "sort_expr" (.value (some (.str f.sortText)))
  have hkept {x : String} (hsig : x ≠ "sig") (hsort : x ≠ "sort_expr") :
      ready.value x = s.value x := by
    rw [Scope.value_bind_of_ne hsort, Scope.value_bind_of_ne hsig]
  have hsignature : (Expr.attr (.var "mf") "sig").eval .mongo call s =
      .ok (some f.finder.signature.toJson) := by
    rw [Expr.eval_attr (eval_var_eq hfinder)]
    simp [MongoFinder.toJson, Json.get?_obj_cons]
  have hsort : Writes .mongo call signed sortNodes f.sortText signed := by
    apply writes_sort
    apply described_of_value
    rw [Scope.value_bind_of_ne (by decide), hfinder]
  have hsigned : Signed .mongo call ready (.var "sig") f.finder.signature := by
    apply signed_of_value
    rw [Scope.value_bind_of_ne (by decide), Scope.value_bind_self]
  have hready : ready.value "name" = some (.str name) := by
    rw [hkept (by decide) (by decide), hname]
  have hdescribed : Described call ready f :=
    described_of_value (by rw [hkept (by decide) (by decide), hfinder])
  have hfilter (c : MongoFilter) (_ : c ∈ f.filters) (index length : Nat) : ∃ after,
      Writes .mongo call (ready.enter (Loop.frame "f" c.toJson index length)) mongoFilterNodes
        (MongoFinder.filterText c) after :=
    ⟨_, writes_filter (Loop.value_frame_name (by decide) _ _ _)⟩
  have hmode : Writes .mongo call ready mongoModeNodes _ ready :=
    writes_mongoMode hdescribed Scope.value_bind_self
  have hset : Writes .mongo call s _ "" ready := .set hsignature <| .capture hsort .nil
  have hwrites : Writes .mongo call s mongoFinderNodes _ ready :=
    ((hset.append (writes_finderOpening hsigned hready _)).append
      (.loop hdescribed.filters hfilter hmode)).append (.text _ .nil)
  refine ⟨ready, hwrites.of_eq ?_⟩
  unfold Declaration.text MongoFinder.declaration
  simp only [String.append_assoc, String.append_empty, String.empty_append]

theorem writes_mongo {h : Header} {p : MongoPage} (hs : Stamped s h p.imports)
    (hrepo : s.value "repo" = some p.repo.toJson)
    (hentity : s.value "entity" = some p.entity.toJson)
    (hfinders : s.value "finders" = some (.arr (p.finders.map MongoFinder.toJson))) : ∃ after,
    Writes .mongo call s mongoRepoNodes
      (mongoText h p.imports (Name.exported p.repo.entity) (mongoDeclarations p)) after := by
  let named := adapterScope s (Name.exported p.repo.entity) (keyField p.entity)
  have hprinted : (Expr.var "name").eval .mongo call named = _ :=
    eval_var_eq value_adapterScope_name
  have hmethods : (Expr.attr (.var "repo") "methods").eval .mongo call named = _ :=
    eval_methods (by rw [value_adapterScope (by decide) (by decide), hrepo])
  have hlist : (Expr.var "finders").eval .mongo call named = _ :=
    eval_var_eq (by rw [value_adapterScope (by decide) (by decide), hfinders])
  have hstandard (m : QuerySignature) (hm : m ∈ p.repo.methods) (index length : Nat) : ∃ after,
      Writes .mongo call (named.enter (Loop.frame "m" m.toJson index length)) mongoStandardNodes
        ((mongoStandard (Name.exported p.repo.entity) p.entity m).text
          ("r *" ++ Name.exported p.repo.entity)) after := by
    refine ⟨_, writes_mongoStandard (mem_standardMethods_of_mem hm) ?_ ?_ ?_
      (Loop.value_frame_name (by decide) _ _ _)⟩
    · rw [Loop.value_frame_of_ne (by decide) (by decide), value_adapterScope_name]
    · rw [Loop.value_frame_of_ne (by decide) (by decide), value_adapterScope_pk]
    · rw [Loop.value_frame_of_ne (by decide) (by decide),
        value_adapterScope (by decide) (by decide), hentity]
  have hfinder (f : MongoFinder) (_ : f ∈ p.finders) (index length : Nat) : ∃ after,
      Writes .mongo call (named.enter (Loop.frame "mf" f.toJson index length)) mongoFinderNodes
        (f.declaration.text ("r *" ++ Name.exported p.repo.entity)) after := by
    refine writes_mongoFinder ?_ (Loop.value_frame_name (by decide) _ _ _)
    rw [Loop.value_frame_of_ne (by decide) (by decide), value_adapterScope_name]
  have hwrites : Writes .mongo call s mongoRepoNodes _ named :=
    ((writes_preamble hs "mongo").append (writes_adapterNames hrepo hentity)).append <|
    .text _ <| .print hprinted <| .text _ <| .print hprinted <| .text _ <| .print hprinted <|
    .text _ <| .print hprinted <| .text _ <| .print hprinted <| .text _ <| .print hprinted <|
    .text _ <| .print hprinted <| .text _ <|
    .loop hmethods hstandard <| .loop hlist hfinder .nil
  refine ⟨named, hwrites.of_eq ?_⟩
  unfold mongoText mongoDeclarations
  simp only [Value.printed, List.map_append, List.map_map, Function.comp_def, String.join_append,
    String.append_assoc, String.append_empty]

end GoScaffold.Artifact
