import GoScaffold.Artifact.Repository
import GoScaffold.Proofs.Artifact.RepositoryTemplates
import GoScaffold.Proofs.Template.Execution

/-! The texts of a repository's interface and of its mock, word for word, and that their templates
write just that. -/

namespace GoScaffold

def QuerySignature.text (m : QuerySignature) : String :=
  m.name ++ "(" ++ m.callParams ++ ") " ++ m.results

def QuerySignature.zeroText (m : QuerySignature) : String :=
  if !m.returned.type.isEmpty then m.returned.zero ++ ", " else ""

theorem Json.get?_obj_cons (k key : String) (j : Json) (entries : List (String × Json)) :
    (Json.obj ((k, j) :: entries)).get? key = if key = k then some j
    else (Json.obj entries).get? key :=
  Dict.get?_cons k key j entries

namespace Artifact

structure Declaration where
  remark : String := ""
  signature : QuerySignature
  body : String

def Declaration.text (receiver : String) (d : Declaration) : String :=
  "\n" ++ d.remark ++ "func (" ++ receiver ++ "Repository) " ++ d.signature.text ++ " \x7b\n" ++
    d.body ++ "\x7d\n"

def importLines (paths : List String) : String :=
  String.join (paths.map fun path => "\t\"" ++ path ++ "\"\n")

def gapText (i : Imports) : String :=
  if !i.std.isEmpty && !i.external.isEmpty then "\n" else ""

def importGroups (i : Imports) : String :=
  importLines i.std ++ gapText i ++ importLines i.external

def stampText (h : Header) (next : String) : String :=
  "// Code generated by ang " ++ h.stamp.version ++ ". DO NOT EDIT.\n// input: " ++
    h.stamp.inputHash ++ " compiler: " ++ h.stamp.compilerHash ++ ("\n\n" ++ next)

def preamble (h : Header) (package : String) (i : Imports) : String :=
  stampText h ("package " ++ package ++ "\n\nimport (\n") ++ importGroups i

def portText (h : Header) (i : Imports) (name : String) (methods : List QuerySignature) : String :=
  preamble h "port" i ++ ")\n\n// " ++ name ++ "Repository persists domain." ++
    name ++ ".\ntype " ++ name ++ "Repository interface \x7b\n" ++
    String.join (methods.map fun m => "\t" ++ m.text ++ "\n") ++ "\x7d\n"

def mockMethod (m : QuerySignature) : Declaration where
  signature := m
  body := "\tif m." ++ m.name ++ "Func == nil \x7b\n\t\treturn " ++ m.zeroText ++
    "nil\n\t\x7d\n\treturn m." ++ m.name ++ "Func(" ++ m.callArgs ++ ")\n"

def mockText (h : Header) (i : Imports) (name : String) (methods : List QuerySignature) : String :=
  preamble h "port" i ++ ")\n" ++ "\n// Mock" ++ name ++ "Repository is a " ++ name ++
    ("Repository whose methods are set per test.\n// Unset methods return zero values.\n" ++
      "type Mock") ++ name ++ "Repository struct \x7b\n" ++
    String.join (methods.map fun m =>
      "\t" ++ m.name ++ "Func func(" ++ m.callParams ++ ") " ++ m.results ++ "\n") ++
    "\x7d\n\nvar _ " ++ name ++ "Repository = (*Mock" ++ name ++ "Repository)(nil)\n" ++
    String.join (methods.map fun m => (mockMethod m).text ("m *Mock" ++ name))

open Template Bundled

variable {kit : HelperKit} {call : Caller} {s : Scope} {name : String}

theorem eval_var_eq {x : String} {v : Value} (h : s.value x = v) :
    (Expr.var x).eval kit call s = .ok v := by
  rw [Expr.eval_var, h]

theorem eval_entityName {repo : Model.Repository} (h : s.value "repo" = some repo.toJson) :
    entityName.eval kit call s = .ok (some (.str (Name.exported repo.entity))) := by
  have hentity : (Expr.attr (.var "repo") "entity").eval kit call s =
      .ok (some (.str repo.entity)) := by
    rw [Expr.eval_attr (eval_var_eq h)]
    simp [Model.Repository.toJson, Json.get?_obj_cons]
  rw [entityName, Expr.eval_filter hentity, HelperKit.filter_export]

structure Signed (kit : HelperKit) (call : Caller) (s : Scope) (e : Expr) (m : QuerySignature) :
    Prop where
  name : (Expr.attr e "name").eval kit call s = .ok (some (.str m.name))
  kind : (Expr.attr e "kind").eval kit call s = .ok (some (.str m.kind.name))
  callParams : (Expr.attr e "call_params").eval kit call s = .ok (some (.str m.callParams))
  callArgs : (Expr.attr e "call_args").eval kit call s = .ok (some (.str m.callArgs))
  results : (Expr.attr e "results").eval kit call s = .ok (some (.str m.results))
  type : (Expr.attr e "return_type").eval kit call s = .ok (some (.str m.returned.type))
  zero : (Expr.attr e "return_zero").eval kit call s = .ok (some (.str m.returned.zero))

theorem signed_of_value {x : String} {m : QuerySignature} (h : s.value x = some m.toJson) :
    Signed kit call s (.var x) m := by
  constructor
  all_goals
    rw [Expr.eval_attr (eval_var_eq h)]
    simp [QuerySignature.toJson, Json.get?_obj_cons]

theorem writes_signature {e : Expr} {m : QuerySignature} (h : Signed kit call s e m) :
    Writes kit call s (signatureNodes e) m.text s := by
  have hwrites : Writes kit call s (signatureNodes e) _ s :=
    .print h.name <| .text _ <| .print h.callParams <| .text _ <| .print h.results .nil
  simpa only [QuerySignature.text, Value.printed, String.append_assoc, String.append_empty] using
    hwrites

theorem writes_zero {e : Expr} {m : QuerySignature} (h : Signed kit call s e m) {nodes : List Node}
    {rest : String} {u : Scope} (hrest : Writes kit call s nodes rest u) :
    Writes kit call s (zeroNode e :: nodes) (m.zeroText ++ rest) u := by
  have hzero : Writes kit call s [.print (.attr e "return_zero"), .text ", "] _ s :=
    .print h.zero <| .text _ .nil
  rw [Value.printed, String.append_empty] at hzero
  exact .either h.type rfl hzero .nil hrest

/-- A scope that knows the stamp and the imports of a file. -/
structure Stamped (s : Scope) (h : Header) (i : Imports) : Prop where
  version : s.value "ang_version" = some (.str h.stamp.version)
  inputHash : s.value "input_hash" = some (.str h.stamp.inputHash)
  compilerHash : s.value "compiler_hash" = some (.str h.stamp.compilerHash)
  imports : s.value "imports" = some i.toJson

theorem writes_imports {group : String} {paths : List String}
    (hpaths : (Expr.attr (.var "imports") group).eval kit call s = .ok (some (.strs paths)))
    {nodes : List Node} {rest : String} {u : Scope} (hrest : Writes kit call s nodes rest u) :
    Writes kit call s (.loop ["path"] (.attr (.var "imports") group) none importNodes [] :: nodes)
      (importLines paths ++ rest) u := by
  apply Writes.loop hpaths ?_ hrest
  intro path _ index length
  have hpath : (s.enter (Loop.frame "path" (.str path) index length)).value "path" = _ :=
    Loop.value_frame_name (by decide) (.str path) index length
  have hwrites : Writes kit call _ importNodes _ _ :=
    .text _ <| .print (eval_var_eq hpath) <| .text _ .nil
  exact ⟨_, hwrites.of_eq (by simp only [Value.printed, String.append_assoc, String.append_empty])⟩

theorem eval_imports (kit : HelperKit) (call : Caller) {h : Header} {i : Imports}
    (hs : Stamped s h i) :
    (Expr.attr (.var "imports") "std").eval kit call s = .ok (some (.strs i.std)) ∧
      (Expr.attr (.var "imports") "external").eval kit call s = .ok (some (.strs i.external)) := by
  constructor
  all_goals
    rw [Expr.eval_attr (eval_var_eq hs.imports)]
    simp [Imports.toJson, Json.get?_obj_cons]

theorem writes_importGroups {h : Header} {i : Imports} (hs : Stamped s h i) :
    Writes kit call s importGroupNodes (importGroups i) s := by
  obtain ⟨hstd, hexternal⟩ := eval_imports kit call hs
  obtain ⟨both, hboth, htrue⟩ := Expr.exists_eval_and hstd hexternal
  have hgap : both.isTrue = (!i.std.isEmpty && !i.external.isEmpty) := by
    rw [htrue]
    simp [Value.isTrue, Json.strs]
  have hwrites : Writes kit call s importGroupNodes _ s :=
    writes_imports hstd <| .either hboth hgap (.text _ .nil) .nil <| writes_imports hexternal .nil
  unfold importGroups gapText
  exact hwrites.of_eq (by simp only [String.append_assoc, String.append_empty])

theorem writes_stamp {h : Header} {i : Imports} (hs : Stamped s h i) (next : String) :
    Writes kit call s (stampNodes next) (stampText h next) s := by
  have hwrites : Writes kit call s (stampNodes next) _ s :=
    .text _ <| .print (eval_var_eq hs.version) <| .text _ <| .print (eval_var_eq hs.inputHash) <|
    .text _ <| .print (eval_var_eq hs.compilerHash) <| .text _ .nil
  -- Equation lemmas of texts this long are costly, so they are unfolded.
  unfold stampText
  exact hwrites.of_eq (by simp only [Value.printed, String.append_assoc, String.append_empty])

theorem writes_preamble {h : Header} {i : Imports} (hs : Stamped s h i) (package : String) :
    Writes kit call s (preambleNodes package) (preamble h package i) s :=
  (writes_stamp hs _).append (writes_importGroups hs)

theorem writes_port {h : Header} {i : Imports} {repo : Model.Repository}
    {methods : List QuerySignature} (hs : Stamped s h i) (hrepo : s.value "repo" = some repo.toJson)
    (hmethods : s.value "methods" = some (.arr (methods.map QuerySignature.toJson))) :
    Writes kit call s repoPortNodes (portText h i (Name.exported repo.entity) methods) s := by
  have hname : entityName.eval kit call s = _ := eval_entityName hrepo
  have hmethod (m : QuerySignature) (_ : m ∈ methods) (index length : Nat) : ∃ after,
      Writes kit call (s.enter (Loop.frame "m" m.toJson index length))
        (.text "\t" :: signatureNodes (.var "m") ++ [.text "\n"])
        ("\t" ++ m.text ++ "\n") after := by
    have hm := Loop.value_frame_name (s := s) (by decide : "m" ≠ "loop") m.toJson index length
    have hwrites : Writes kit call _ (.text "\t" :: signatureNodes (.var "m") ++
        [.text "\n"]) _ _ :=
      .append (.text _ (writes_signature (signed_of_value hm))) (.text _ .nil)
    exact ⟨_, hwrites.of_eq (by rw [String.append_empty])⟩
  have hwrites : Writes kit call s repoPortNodes _ s :=
    (writes_preamble hs "port").append <| .text _ <| .print hname <| .text _ <| .print hname <|
    .text _ <| .print hname <| .text _ <| .loop (eval_var_eq hmethods) hmethod <| .text _ .nil
  unfold portText
  simpa only [Value.printed, String.append_assoc, String.append_empty] using hwrites

theorem writes_mockMethod {m : QuerySignature} (hname : s.value "name" = some (.str name))
    (hm : s.value "m" = some m.toJson) :
    Writes kit call s mockMethodNodes ((mockMethod m).text ("m *Mock" ++ name)) s := by
  have hsigned : Signed kit call s (.var "m") m := signed_of_value hm
  have hopening : Writes kit call s
      [.text ("\n" ++ "func (" ++ "m *Mock"), .print (.var "name"), .text "Repository) "] _ s :=
    .text _ <| .print (eval_var_eq hname) <| .text _ .nil
  have hwrites : Writes kit call s mockMethodNodes _ s :=
    (hopening.append (writes_signature hsigned)).append <| .text _ <| .print hsigned.name <|
    .text _ <| writes_zero hsigned <| .text _ <| .print hsigned.name <| .text _ <|
    .print hsigned.callArgs <| .text _ .nil
  unfold Declaration.text mockMethod
  exact hwrites.of_eq (by simp only [Value.printed, String.append_assoc, String.append_empty])

theorem writes_mock {h : Header} {i : Imports} {repo : Model.Repository}
    {methods : List QuerySignature} (hs : Stamped s h i) (hrepo : s.value "repo" = some repo.toJson)
    (hmethods : s.value "methods" = some (.arr (methods.map QuerySignature.toJson))) :
    ∃ after, Writes kit call s mockRepoNodes
      (mockText h i (Name.exported repo.entity) methods) after := by
  let named := s.bind "name" (.value (some (.str (Name.exported repo.entity))))
  have hname : named.value "name" = some (.str (Name.exported repo.entity)) := Scope.value_bind_self
  have hmethods : named.value "methods" = some (.arr (methods.map QuerySignature.toJson)) := by
    rw [Scope.value_bind_of_ne (by decide), hmethods]
  have hfield (m : QuerySignature) (_ : m ∈ methods) (index length : Nat) : ∃ after,
      Writes kit call (named.enter (Loop.frame "m" m.toJson index length)) mockFieldNodes
        ("\t" ++ m.name ++ "Func func(" ++ m.callParams ++ ") " ++ m.results ++ "\n") after := by
    have hsigned : Signed kit call _ (.var "m") m := signed_of_value
      (Loop.value_frame_name (s := named) (by decide) m.toJson index length)
    have hwrites : Writes kit call _ mockFieldNodes _ _ :=
      .text _ <| .print hsigned.name <| .text _ <| .print hsigned.callParams <| .text _ <|
      .print hsigned.results <| .text _ .nil
    exact ⟨_,
      hwrites.of_eq (by simp only [Value.printed, String.append_assoc, String.append_empty])⟩
  have hmethod (m : QuerySignature) (_ : m ∈ methods) (index length : Nat) : ∃ after,
      Writes kit call (named.enter (Loop.frame "m" m.toJson index length)) mockMethodNodes
        ((mockMethod m).text ("m *Mock" ++ Name.exported repo.entity)) after := by
    refine ⟨_, writes_mockMethod ?_ (Loop.value_frame_name (by decide) _ _ _)⟩
    rw [Loop.value_frame_of_ne (by decide) (by decide), hname]
  have hprinted : (Expr.var "name").eval kit call named = _ := eval_var_eq hname
  have hwrites : Writes kit call s mockRepoNodes _ named :=
    (writes_preamble hs "port").append <| .text _ <| .set (eval_entityName hrepo) <| .text _ <|
    .print hprinted <| .text _ <| .print hprinted <| .text _ <| .print hprinted <| .text _ <|
    .loop (eval_var_eq hmethods) hfield <| .text _ <| .print hprinted <| .text _ <|
    .print hprinted <| .text _ <| .loop (eval_var_eq hmethods) hmethod .nil
  unfold mockText
  exact ⟨named,
    hwrites.of_eq (by simp only [Value.printed, String.append_assoc, String.append_empty])⟩

end Artifact

end GoScaffold
