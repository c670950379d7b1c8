import GoScaffold.Proofs.Template.Execution

/-! Parts of a template that are called, loops that look at their rounds, take their items apart or
leave some of them out, and some more helpers. -/

namespace GoScaffold

theorem Dict.get?_ofEntries_pair {α : Type} (a b q : String) (v w : α) :
    (ofEntries [(a, v), (b, w)]).get? q =
      if q = b then some w else if q = a then some v else none := by
  show (insert b w (insert a v [])).get? q = _
  rw [get?_insert, get?_insert]
  rfl

theorem Dict.ofEntries_map {α β : Type} (f : α → β) (entries : List (String × α)) :
    ofEntries (entries.map fun e => (e.1, f e.2)) =
      (ofEntries entries).map fun e => (e.1, f e.2) := by
  have hfold (d : Dict α) : (entries.map fun e => (e.1, f e.2)).foldl (fun d e => insert e.1 e.2 d)
      (d.mapValues fun _ => f) = (entries.foldl (fun d e => insert e.1 e.2 d) d).mapValues fun _ =>
        f := by
    induction entries generalizing d with
    | nil => rfl
    | cons e entries ih =>
      rw [List.map_cons, List.foldl_cons, List.foldl_cons, ← ih, mapValues_insert]
  exact hfold []

namespace Template

namespace Scope

variable {s : Scope} {name other : String} {b : Binding}

theorem binding?_bind_self : (s.bind name b).binding? name = some b := by
  rcases s with ⟨_ | ⟨frame, frames⟩, given⟩
  · simp [binding?, bind, Dict.get?_cons]
  · simp [binding?, bind, Dict.get?_insert]

theorem binding?_bind_of_ne (h : name ≠ other) :
    (s.bind other b).binding? name = s.binding? name := by
  rcases s with ⟨_ | ⟨frame, frames⟩, given⟩
  · simp [binding?, bind, h, Dict.get?]
  · simp [binding?, bind, List.findSome?_cons, Dict.get?_insert, h]

theorem binding?_start {given : Json} (h : given.get? name = none) :
    (⟨[[]], given⟩ : Scope).binding? name = none := by
  show (given.get? name).map _ = none
  rw [h]
  rfl

theorem value_congr {t : Scope} (h : t.binding? name = s.binding? name) :
    t.value name = s.value name := by
  rw [value, value, h]

theorem binding?_enter_of_none {frame : Dict Binding} (h : frame.get? name = none) :
    (s.enter frame).binding? name = s.binding? name := by
  simp [binding?, enter, h]

theorem value_ofCall_of_some {frame : Dict Binding} {v : Value}
    (h : frame.get? name = some (.value v)) : (s.ofCall frame).value name = v := by
  simp [value, binding?, ofCall, h]

end Scope

namespace HelperKit

variable {kit : HelperKit}

theorem filter_unqualify (x : String) :
    kit.filter "unqualify" [some (.str x)] = .ok (some (.str (Helper.unqualify x))) :=
  filter_onText (by cases kit <;> rfl) x

theorem filter_lowerFirst (x : String) :
    kit.filter "lower_first" [some (.str x)] = .ok (some (.str (Text.lowerFirst x))) :=
  filter_onText (by cases kit <;> rfl) x

theorem filter_lower (x : String) : kit.filter "lower" [some (.str x)] =
    .ok (some (.str (Text.lower x))) := by
  have hlowered : kit.filters.get? "lower" = some Helper.lowered := by cases kit <;> rfl
  rw [filter, hlowered]
  rfl

theorem filter_items (entries : List (String × Json)) :
    kit.filter "items" [some (.obj entries)] =
      .ok (some (.arr ((Dict.ofEntries entries).map fun e => .arr [.str e.1, e.2]))) := by
  have hpairs : kit.filters.get? "items" = some Helper.pairs := by cases kit <;> rfl
  rw [filter, hpairs]
  rfl

end HelperKit

variable {kit : HelperKit} {call : Caller} {s : Scope}

theorem Expr.eval_not {e : Expr} {v : Value} (h : e.eval kit call s = .ok v) :
    (Expr.not e).eval kit call s = .ok (some (.bool (!v.isTrue))) := by
  show (e.eval kit call s).bind _ = _
  rw [h]
  rfl

theorem Expr.eval_equal_text {a b : Expr} {x y : String}
    (ha : a.eval kit call s = .ok (some (.str x)))
    (hb : b.eval kit call s = .ok (some (.str y))) :
    (Expr.binary .equal a b).eval kit call s = .ok (some (.bool (x == y))) := by
  rw [Expr.eval_binary ha hb]
  simp [BinaryOp.eval, Value.equal, Value.same]

theorem Expr.evalAll_cons {e : Expr} {es : List Expr} {v : Value} {vs : List Value}
    (h : e.eval kit call s = .ok v) (hs : Expr.evalAll kit call s es = .ok vs) :
    Expr.evalAll kit call s (e :: es) = .ok (v :: vs) := by
  show (e.eval kit call s).bind (fun _ => (Expr.evalAll kit call s es).bind _) = _
  rw [h, hs]
  rfl

theorem Expr.eval_call {name : String} {args : List Expr} {vs : List Value} {r : Routine}
    (hargs : Expr.evalAll kit call s args = .ok vs) (hr : s.binding? name = some (.routine r)) :
    (Expr.call (.var name) args).eval kit call s = call s r vs := by
  show (Expr.evalAll kit call s args).bind _ = _
  rw [hargs]
  simp only [Except.bind, hr]

theorem Expr.eval_function {name : String} {args : List Expr} {vs : List Value}
    (hargs : Expr.evalAll kit call s args = .ok vs) (hname : s.binding? name = none) :
    (Expr.call (.var name) args).eval kit call s = HelperKit.call name vs := by
  show (Expr.evalAll kit call s args).bind _ = _
  rw [hargs]
  simp only [Except.bind, hname]

theorem Routine.callWithin_eq {depth : Nat} {r : Routine} {vs : List Value} {text : String}
    {after : Scope} (hlength : vs.length = r.params.length)
    (hbody : Writes kit (callWithin kit depth)
      (s.ofCall (Dict.ofEntries (r.params.zip (vs.map Binding.value)))) r.body text after) :
    callWithin kit (depth + 1) s r vs = .ok (some (.str text)) := by
  have hrun : Node.runAll kit (callWithin kit depth)
      (s.ofCall (Dict.ofEntries (r.params.zip (vs.map Binding.value)))) r.body =
      .ok (after, text) :=
    hbody
  unfold callWithin
  rw [if_neg (by omega), hlength, Nat.sub_self, List.replicate_zero, List.append_nil]
  simp only [bind, Except.bind, hrun]

theorem Loop.value_frame_loop (name : String) (item : Json) (index length : Nat) :
    (s.enter (frame name item index length)).value "loop" = some (round index length) := by
  apply Scope.value_enter_of_some
  rw [frame, Dict.get?_insert, if_pos rfl]

def Loop.pairFrame (a b : String) (first second : Json) (index length : Nat) : Dict Binding :=
  Dict.insert "loop" (.value (some (round index length)))
    (Dict.ofEntries [(a, .value (some first)), (b, .value (some second))])

theorem Loop.get?_pairFrame {a b name : String} (hloop : name ≠ "loop") (first second : Json)
    (index length : Nat) : (pairFrame a b first second index length).get? name =
      if name = b then some (.value (some second)) else if name = a then some (.value (some first))
          else none := by
  rw [pairFrame, Dict.get?_insert, if_neg hloop, Dict.get?_ofEntries_pair]

theorem Loop.mapM_targetFrame {α : Type} {f : α → Json} {frame : α → Dict Binding}
    {targets : List String} {as : List α}
    (h : ∀ a ∈ as, targetFrame targets (f a) = .ok (frame a)) :
    (as.map f).mapM (targetFrame targets) = .ok (as.map frame) := by
  induction as with
  | nil => rfl
  | cons a as ih =>
    rw [List.forall_mem_cons] at h
    rw [List.map_cons, List.mapM_cons, h.1, ih h.2]
    rfl

theorem filterM_map {α β : Type} {f : α → β} {keep : α → Bool}
    {test : β → Except Fault Bool} {as : List α}
    (h : ∀ a ∈ as, test (f a) = .ok (keep a)) :
    (as.map f).filterM test = .ok ((as.filter keep).map f) := by
  have haux (kept : List β) :
      (as.map f).filterAuxM test kept = .ok (((as.filter keep).map f).reverse ++ kept) := by
    induction as generalizing kept with
    | nil => rfl
    | cons a as ih =>
      rw [List.forall_mem_cons] at h
      rw [List.map_cons, List.filterAuxM, h.1]
      show List.filterAuxM test (as.map f) (cond (keep a) (f a :: kept) kept) = _
      rw [ih h.2]
      cases hkeep : keep a <;> simp [hkeep]
  rw [List.filterM, haux]
  show Except.ok (((as.filter keep).map f).reverse ++ []).reverse = _
  rw [List.append_nil, List.reverse_reverse]

theorem Loop.frames_filter {α : Type} {f : α → Json} {keep : α → Bool} {name : String}
    {condition : Expr}
    {as : List α}
    (h : ∀ a ∈ as, ∃ v, condition.eval kit call (s.enter [(name, .value (some (f a)))]) = .ok v ∧
      v.isTrue = keep a) :
    frames kit call s [name] (some condition) (as.map f) =
      .ok ((as.filter keep).map fun a => [(name, .value (some (f a)))]) := by
  have hframe (a : α) (_ : a ∈ as) : targetFrame [name] (f a) = .ok [(name, .value (some (f a)))] :=
    rfl
  rw [frames, mapM_targetFrame hframe]
  refine filterM_map fun a ha => ?_
  obtain ⟨v, heval, hkeep⟩ := h a ha
  rw [heval, ← hkeep]
  rfl

theorem foldlM_zipIdx {α β : Type} {f : α → β} {g : α → Nat → String}
    {step : String → β × Nat → Except Fault String} {as : List α}
    (hstep : ∀ a ∈ as, ∀ index out, step out (f a, index) = .ok (out ++ g a index)) (index : Nat)
    (out : String) : ((as.map f).zipIdx index).foldlM step out =
      .ok (out ++ String.join ((as.zipIdx index).map fun p => g p.1 p.2)) := by
  induction as generalizing index out with
  | nil => simp [pure, Except.pure]
  | cons a as ih =>
    rw [List.map_cons, List.zipIdx_cons, List.foldlM_cons, hstep a List.mem_cons_self]
    show List.foldlM step (out ++ g a index) _ = _
    rw [ih fun b hb => hstep b (List.mem_cons_of_mem a hb), List.zipIdx_cons, List.map_cons,
      String.join_cons, String.append_assoc]

namespace Writes

variable {nodes body : List Node} {rest : String} {u : Scope}

theorem define {name : String} {params : List String}
    (h : Writes kit call (s.bind name (.routine ⟨params, body⟩)) nodes rest u) :
    Writes kit call s (.define name params body :: nodes) rest u := by
  have hdefine : (Node.define name params body).run kit call s =
      .ok (s.bind name (.routine ⟨params, body⟩), "") := rfl
  simpa using cons hdefine h

theorem framed {α : Type} {frame : α → Dict Binding} {g : α → Nat → String} {as : List α}
    {targets : List String} {source : Expr} {condition : Option Expr} {items : List Json}
    (hsource : source.eval kit call s = .ok (some (.arr items)))
    (hframes : Loop.frames kit call s targets condition items = .ok (as.map frame))
    (hbody : ∀ a ∈ as, ∀ index, ∃ after, Writes kit call
      (s.enter (Dict.insert "loop" (.value (some (Loop.round index as.length))) (frame a))) body
      (g a index) after)
    (h : Writes kit call s nodes rest u) :
    Writes kit call s (.loop targets source condition body [] :: nodes)
      (String.join (as.zipIdx.map fun p => g p.1 p.2) ++ rest) u := by
  refine Writes.cons ?_ h
  show (source.eval kit call s).bind _ = _
  rw [hsource]
  simp only [bind, Except.bind, Loop.source, Value.items?, hframes, List.isEmpty_map]
  split
  next hempty =>
    rw [List.isEmpty_iff.1 hempty]
    rfl
  next =>
    rw [foldlM_zipIdx (g := g)]
    · rw [String.empty_append]
    · intro a ha index out
      obtain ⟨after, hwrites⟩ := hbody a ha index
      have hrun : Node.runAll kit call (s.enter (Dict.insert "loop"
          (.value (some (Loop.round index as.length))) (frame a))) body = .ok (after, g a index) :=
        hwrites
      simp only [List.length_map, hrun]

theorem rounds {α : Type} {f : α → Json} {frame : α → Dict Binding} {g : α → Nat → String}
    {as : List α} {targets : List String} {source : Expr}
    (hsource : source.eval kit call s = .ok (some (.arr (as.map f))))
    (hframe : ∀ a ∈ as, Loop.targetFrame targets (f a) = .ok (frame a))
    (hbody : ∀ a ∈ as, ∀ index, ∃ after, Writes kit call
      (s.enter (Dict.insert "loop" (.value (some (Loop.round index as.length))) (frame a))) body
      (g a index) after)
    (h : Writes kit call s nodes rest u) :
    Writes kit call s (.loop targets source none body [] :: nodes)
      (String.join (as.zipIdx.map fun p => g p.1 p.2) ++ rest) u := by
  refine framed hsource ?_ hbody h
  rw [Loop.frames, Loop.mapM_targetFrame hframe]
  rfl

theorem pairs {α : Type} {first second : α → Json} {g : α → String} {as : List α} {a b : String}
    {source : Expr} (hsource : source.eval kit call s =
      .ok (some (.arr (as.map fun x => .arr [first x, second x]))))
    (hbody : ∀ x ∈ as, ∀ index, ∃ after, Writes kit call
      (s.enter (Loop.pairFrame a b (first x) (second x) index
      as.length)) body (g x) after)
    (h : Writes kit call s nodes rest u) :
    Writes kit call s (.loop [a, b] source none body [] :: nodes)
      (String.join (as.map g) ++ rest) u := by
  have htexts : as.zipIdx.map (g ∘ Prod.fst) = as.map g := by
    rw [← List.map_map, List.zipIdx_map_fst]
  rw [← htexts]
  exact rounds (g := fun x _ => g x) hsource (fun _ _ => rfl) hbody h

theorem selected {α : Type} {f : α → Json} {keep : α → Bool} {g : α → String} {as : List α}
    {name : String}
    {source condition : Expr} (hsource : source.eval kit call s = .ok (some (.arr (as.map f))))
    (hcondition : ∀ a ∈ as, ∃ v,
      condition.eval kit call (s.enter [(name, .value (some (f a)))]) = .ok v ∧ v.isTrue = keep a)
    (hbody : ∀ a ∈ as.filter keep, ∀ index length, ∃ after,
      Writes kit call (s.enter (Loop.frame name (f a) index length)) body (g a) after)
    (h : Writes kit call s nodes rest u) :
    Writes kit call s (.loop [name] source (some condition) body [] :: nodes)
      (String.join ((as.filter keep).map g) ++ rest) u := by
  have htexts : (as.filter keep).zipIdx.map (g ∘ Prod.fst) = (as.filter keep).map g := by
    rw [← List.map_map, List.zipIdx_map_fst]
  rw [← htexts]
  exact framed (g := fun a _ => g a) hsource (Loop.frames_filter hcondition)
    (fun a ha index => hbody a ha index _) h

end Writes

end Template

end GoScaffold
