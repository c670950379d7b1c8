import GoScaffold.Proofs.Dict
import GoScaffold.Template.Source

/-! What a template writes, construct by construct: a law for every node, and for a loop what
follows from what its body writes in every round. -/

namespace GoScaffold.Template

namespace Scope

variable {s : Scope} {name other : String} {v : Value}

theorem value_start (given : Json) (name : String) :
    (⟨[[]], given⟩ : Scope).value name = given.get? name := by
  have hbinding : (⟨[[]], given⟩ : Scope).binding? name =
      (given.get? name).map fun j => .value (some j) := rfl
  rw [value, hbinding]
  cases given.get? name <;> rfl

theorem value_enter_of_some {frame : Dict Binding} (h : frame.get? name = some (.value v)) :
    (s.enter frame).value name = v := by
  simp [value, binding?, enter, h]

theorem value_enter_of_none {frame : Dict Binding} (h : frame.get? name = none) :
    (s.enter frame).value name = s.value name := by
  simp [value, binding?, enter, h]

theorem value_bind_self : (s.bind name (.value v)).value name = v := by
  rcases s with ⟨_ | ⟨frame, frames⟩, given⟩
  · simp [value, binding?, bind, Dict.get?_cons]
  · simp [value, binding?, bind, Dict.get?_insert]

theorem value_bind_of_ne {b : Binding} (h : name ≠ other) :
    (s.bind other b).value name = s.value name := by
  rcases s with ⟨_ | ⟨frame, frames⟩, given⟩
  · simp [value, binding?, bind, h, Dict.get?]
  · simp [value, binding?, bind, List.findSome?_cons, Dict.get?_insert, h]

end Scope

variable {kit : HelperKit} {call : Caller} {s : Scope}

namespace HelperKit

theorem filter_onText {name : String} {f : String → String}
    (h : kit.filters.get? name = some (Helper.onText f)) (x : String) :
    kit.filter name [some (.str x)] = .ok (some (.str (f x))) := by
  rw [filter, h]
  rfl

theorem filter_export (x : String) :
    kit.filter "export" [some (.str x)] = .ok (some (.str (Name.exported x))) :=
  filter_onText (by cases kit <;> rfl) x

theorem filter_goQuote (x : String) :
    kit.filter "go_quote" [some (.str x)] = .ok (some (.str (Text.goQuote x))) :=
  filter_onText (by cases kit <;> rfl) x

theorem filter_join (separator : String) (xs : List String) :
    kit.filter "join" [some (.strs xs), some (.str separator)] =
      .ok (some (.str (Text.join separator xs))) := by
  have hjoined : kit.filters.get? "join" = some Helper.joined := by cases kit <;> rfl
  have hprinted : (xs.map Json.str).map Value.printed = xs := by
    simp [Function.comp_def, Value.printed]
  rw [filter, hjoined]
  show Helper.finish [] (.str (Text.join separator ((xs.map Json.str).map Value.printed))) = _
  rw [hprinted]
  rfl

theorem filter_documentKey (x : String) :
    mongo.filter "mongo_bson_name" [some (.str x)] = .ok (some (.str (Name.documentKey x))) :=
  filter_onText rfl x

theorem filter_storedExpression (v : Value) :
    mongo.filter "mongo_value_expr" [v] = .ok (some (.str (Helper.storedExpression v))) :=
  rfl

end HelperKit

namespace Expr

theorem eval_const (j : Json) : (const j).eval kit call s = .ok (some j) := rfl

theorem eval_var (name : String) : (var name).eval kit call s = .ok (s.value name) := rfl

theorem eval_attr {e : Expr} {j : Json} (h : e.eval kit call s = .ok (some j)) (name : String) :
    (attr e name).eval kit call s = .ok (j.get? name) := by
  show (e.eval kit call s).bind _ = _
  rw [h]
  rfl

theorem eval_and {a b : Expr} {v : Value} (h : a.eval kit call s = .ok v) :
    (and a b).eval kit call s = if v.isTrue then b.eval kit call s else .ok v := by
  show (a.eval kit call s).bind _ = _
  rw [h]
  rfl

theorem eval_or {a b : Expr} {v : Value} (h : a.eval kit call s = .ok v) :
    (or a b).eval kit call s = if v.isTrue then .ok v else b.eval kit call s := by
  show (a.eval kit call s).bind _ = _
  rw [h]
  rfl

theorem exists_eval_and {a b : Expr} {v w : Value} (hv : a.eval kit call s = .ok v)
    (hw : b.eval kit call s = .ok w) :
    ∃ r, (and a b).eval kit call s = .ok r ∧ r.isTrue = (v.isTrue && w.isTrue) := by
  rw [eval_and hv]
  cases htrue : v.isTrue with
  | true => exact ⟨w, hw, (Bool.true_and _).symm⟩
  | false => exact ⟨v, rfl, htrue⟩

theorem exists_eval_or {a b : Expr} {v w : Value} (hv : a.eval kit call s = .ok v)
    (hw : b.eval kit call s = .ok w) :
    ∃ r, (or a b).eval kit call s = .ok r ∧ r.isTrue = (v.isTrue || w.isTrue) := by
  rw [eval_or hv]
  cases htrue : v.isTrue with
  | true => exact ⟨v, rfl, htrue⟩
  | false => exact ⟨w, hw, (Bool.false_or _).symm⟩

theorem eval_binary {a b : Expr} {v w : Value} (hv : a.eval kit call s = .ok v)
    (hw : b.eval kit call s = .ok w) (op : BinaryOp) :
    (binary op a b).eval kit call s = op.eval v w := by
  show (a.eval kit call s).bind (fun _ => (b.eval kit call s).bind _) = _
  rw [hv, hw]
  rfl

theorem eval_equal {e : Expr} {x : String} (h : e.eval kit call s = .ok (some (.str x)))
    (y : String) :
    (binary .equal e (const (.str y))).eval kit call s = .ok (some (.bool (x == y))) := by
  rw [eval_binary h (eval_const (.str y))]
  simp [BinaryOp.eval, Value.equal, Value.same]

theorem eval_greater {e : Expr} {i : Int} (h : e.eval kit call s = .ok (some (.int i))) (j : Int) :
    (binary .greater e (const (.int j))).eval kit call s = .ok (some (.bool (j < i))) := by
  rw [eval_binary h (eval_const (.int j))]
  rfl

theorem eval_filter {e : Expr} {v : Value} (h : e.eval kit call s = .ok v) (name : String) :
    (filter e name []).eval kit call s = kit.filter name [v] := by
  show (e.eval kit call s).bind _ = _
  rw [h]
  rfl

theorem eval_goQuote {e : Expr} {x : String} (h : e.eval kit call s = .ok (some (.str x))) :
    (filter e "go_quote" []).eval kit call s = .ok (some (.str (Text.goQuote x))) := by
  rw [eval_filter h, HelperKit.filter_goQuote]

theorem eval_filter_const {e : Expr} {v : Value} (h : e.eval kit call s = .ok v) (name : String)
    (j : Json) : (filter e name [.const j]).eval kit call s = kit.filter name [v, some j] := by
  show (e.eval kit call s).bind _ = _
  rw [h]
  rfl

end Expr

/-- The nodes write the text, and leave the scope that is given last. -/
def Writes (kit : HelperKit) (call : Caller) (s : Scope) (nodes : List Node) (text : String)
    (after : Scope) : Prop :=
  Node.runAll kit call s nodes = .ok (after, text)

namespace Writes

variable {t u : Scope} {nodes more : List Node} {out rest : String} {e : Expr}
  {j : Json} {v : Value}

theorem nil : Writes kit call s [] "" s := rfl

theorem of_eq (h : Writes kit call s nodes out t) (hout : out = rest) :
    Writes kit call s nodes rest t :=
  hout ▸ h

theorem cons {n : Node} (hn : n.run kit call s = .ok (t, out))
    (h : Writes kit call t nodes rest u) :
    Writes kit call s (n :: nodes) (out ++ rest) u := by
  have hall : Node.runAll kit call t nodes = .ok (u, rest) := h
  show (n.run kit call s).bind _ = _
  rw [hn]
  show (Node.runAll kit call t nodes).bind _ = _
  rw [hall]
  rfl

theorem append (h : Writes kit call s nodes out t) (hmore : Writes kit call t more rest u) :
    Writes kit call s (nodes ++ more) (out ++ rest) u := by
  induction nodes generalizing s out with
  | nil =>
    obtain ⟨rfl, rfl⟩ := Prod.mk.inj (Except.ok.inj h)
    rwa [List.nil_append, String.empty_append]
  | cons n nodes ih =>
    have hrun : (n.run kit call s).bind (fun r => (Node.runAll kit call r.1 nodes).bind fun q =>
        .ok (q.1, r.2 ++ q.2)) = .ok (t, out) := h
    cases hn : n.run kit call s with
    | error f => rw [hn] at hrun; cases hrun
    | ok r =>
      rw [hn] at hrun
      cases hr : Node.runAll kit call r.1 nodes with
      | error f => simp [Except.bind, hr] at hrun
      | ok q =>
        simp only [Except.bind, hr, Except.ok.injEq, Prod.mk.injEq] at hrun
        obtain ⟨rfl, rfl⟩ := hrun
        rw [List.cons_append, String.append_assoc]
        exact cons hn (ih hr)

theorem text (x : String) (h : Writes kit call s nodes rest u) :
    Writes kit call s (.text x :: nodes) (x ++ rest) u :=
  cons rfl h

theorem print (he : e.eval kit call s = .ok (some j)) (h : Writes kit call s nodes rest u) :
    Writes kit call s (.print e :: nodes) (Value.printed j ++ rest) u := by
  refine cons (t := s) ?_ h
  show (e.eval kit call s).bind _ = _
  rw [he]
  rfl

theorem set {name : String} (he : e.eval kit call s = .ok v)
    (h : Writes kit call (s.bind name (.value v)) nodes rest u) :
    Writes kit call s (.set name e :: nodes) rest u := by
  have hset : (Node.set name e).run kit call s = .ok (s.bind name (.value v), "") := by
    show (e.eval kit call s).bind _ = _
    rw [he]
    rfl
  simpa using cons hset h

theorem capture {name : String} {body : List Node} (hbody : Writes kit call s body out t)
    (h : Writes kit call (t.bind name (.value (some (.str out)))) nodes rest u) :
    Writes kit call s (.capture name body :: nodes) rest u := by
  have hcapture : (Node.capture name body).run kit call s =
      .ok (t.bind name (.value (some (.str out))), "") := by
    show (Node.runAll kit call s body).bind _ = _
    rw [show Node.runAll kit call s body = .ok (t, out) from hbody]
    rfl
  simpa using cons hcapture h

theorem branch {yes no : List Node} (he : e.eval kit call s = .ok v)
    (hyes : v.isTrue = true → Writes kit call s yes out t)
    (hno : v.isTrue = false → Writes kit call s no out t) (h : Writes kit call t nodes rest u) :
    Writes kit call s (.branch e yes no :: nodes) (out ++ rest) u := by
  refine cons ?_ h
  show (e.eval kit call s).bind _ = _
  rw [he]
  show (if v.isTrue then _ else _) = _
  cases hv : v.isTrue with
  | true => exact hyes hv
  | false => exact hno hv

theorem either {yes no : List Node} {b : Bool} {x y : String} (he : e.eval kit call s = .ok v)
    (hv : v.isTrue = b) (hyes : Writes kit call s yes x s) (hno : Writes kit call s no y s)
    (h : Writes kit call s nodes rest u) :
    Writes kit call s (.branch e yes no :: nodes) ((if b then x else y) ++ rest) u := by
  cases b with
  | true => exact branch he (fun _ => hyes) (fun hfalse => absurd hv (by simp [hfalse])) h
  | false => exact branch he (fun htrue => absurd hv (by simp [htrue])) (fun _ => hno) h

theorem chosen {yes no : List Node} (he : e.eval kit call s = .ok v) (hv : v.isTrue = true)
    (hyes : Writes kit call s yes out t) : Writes kit call s [.branch e yes no] out t := by
  rw [← String.append_empty (s := out)]
  exact branch he (fun _ => hyes) (fun h => absurd hv (by simp [h])) nil

theorem otherwise {yes no : List Node} (he : e.eval kit call s = .ok v) (hv : v.isTrue = false)
    (hno : Writes kit call s no out t) : Writes kit call s [.branch e yes no] out t := by
  rw [← String.append_empty (s := out)]
  exact branch he (fun h => absurd hv (by simp [h])) (fun _ => hno) nil

end Writes

namespace Loop

def frame (name : String) (item : Json) (index length : Nat) : Dict Binding :=
  Dict.insert "loop" (.value (some (round index length))) [(name, .value (some item))]

theorem value_frame_name {name : String} (hname : name ≠ "loop") (item : Json)
    (index length : Nat) :
    (s.enter (frame name item index length)).value name = some item := by
  apply Scope.value_enter_of_some
  rw [frame, Dict.get?_insert, if_neg hname, Dict.get?_cons, if_pos rfl]

theorem value_frame_of_ne {name other : String} (hname : other ≠ name) (hloop : other ≠ "loop")
    (item : Json) (index length : Nat) :
    (s.enter (frame name item index length)).value other = s.value other := by
  apply Scope.value_enter_of_none
  rw [frame, Dict.get?_insert, if_neg hloop, Dict.get?_cons, if_neg hname]
  rfl

theorem frames_map (name : String) (items : List Json) :
    frames kit call s [name] none items = .ok (items.map fun j => [(name, .value (some j))]) := by
  have hmap : items.mapM (targetFrame [name]) =
      .ok (items.map fun j => [(name, Binding.value (some j))]) := by
    induction items with
    | nil => rfl
    | cons j items ih =>
      rw [List.mapM_cons, ih]
      rfl
  rw [frames, hmap]
  rfl

end Loop

theorem foldlM_rounds {α β : Type} {f : α → β} {g : α → String}
    {step : String → β × Nat → Except Fault String} {as : List α}
    (hstep : ∀ a ∈ as, ∀ index out, step out (f a, index) = .ok (out ++ g a)) (index : Nat)
    (out : String) :
    ((as.map f).zipIdx index).foldlM step out = .ok (out ++ String.join (as.map g)) := by
  induction as generalizing index out with
  | nil => simp [pure, Except.pure]
  | cons a as ih =>
    rw [List.map_cons, List.zipIdx_cons, List.foldlM_cons, hstep a List.mem_cons_self]
    show List.foldlM step (out ++ g a) _ = _
    rw [ih fun b hb => hstep b (List.mem_cons_of_mem a hb), List.map_cons, String.join_cons,
      String.append_assoc]

theorem Writes.loop {α : Type} {f : α → Json} {g : α → String} {as : List α} {name : String}
    {source : Expr} {body nodes : List Node} {rest : String} {u : Scope}
    (hsource : source.eval kit call s = .ok (some (.arr (as.map f))))
    (hbody : ∀ a ∈ as, ∀ index length, ∃ after,
      Writes kit call (s.enter (Loop.frame name (f a) index length)) body (g a) after)
    (h : Writes kit call s nodes rest u) :
    Writes kit call s (.loop [name] source none body [] :: nodes)
      (String.join (as.map g) ++ rest) u := by
  refine Writes.cons ?_ h
  show (source.eval kit call s).bind _ = _
  rw [hsource]
  simp only [bind, Except.bind, Loop.source, Value.items?, Loop.frames_map, List.map_map,
    List.isEmpty_map]
  split
  next hempty =>
    rw [List.isEmpty_iff.1 hempty]
    rfl
  next =>
    rw [foldlM_rounds (g := g)]
    · rw [String.empty_append]
    · intro a ha index out
      obtain ⟨after, hwrites⟩ := hbody a ha index as.length
      have hrun : Node.runAll kit call (s.enter (Dict.insert "loop"
          (.value (some (Loop.round index as.length))) [(name, .value (some (f a)))])) body =
          .ok (after, g a) := hwrites
      simp only [Function.comp_apply, List.length_map, hrun]

theorem renderNamed_of_writes {tree : FileTree} {overlay : Option String}
    {name path source out : String}
    {given : Json} {nodes : List Node} {after : Scope}
    (hload : load tree overlay name path = .ok source)
    (hparse : parse? source = some nodes)
    (hwrites : Writes kit (Routine.callWithin kit callLimit) ⟨[[]], given⟩ nodes out after) :
    renderNamed tree overlay name path kit given = .ok out := by
  have hrender : render kit nodes given = .ok out := by
    rw [render, show Node.runAll _ _ _ nodes = .ok (after, out) from hwrites]
    rfl
  unfold renderNamed
  simp only [hload, bind, Except.bind, hparse, hrender]

end GoScaffold.Template
