import GoScaffold.Proofs.Flow.Normalization
import GoScaffold.Proofs.Flow.Outline
import GoScaffold.Proofs.Text.Line
import GoScaffold.Proofs.Text.Nesting

/-! The blocks of a flow's code. The texts that the steps give are written into the code as they
stand, so their braces are braces of the code. As long as they are well nested in each text, they
are well nested in the code, and the indentation of each line counts the blocks that are open. -/

namespace GoScaffold

def StepArg.texts : StepArg → List String
  | .value (.str t) => [t]
  | .cases branches => branches.map Prod.fst
  | _ => []

namespace Step

def texts (s : Step) : List String := s.args.flatMap fun entry => entry.2.texts

/-- Each text of the step is within one line, and its braces are well nested. -/
def Fits (s : Step) : Prop := ∀ t ∈ s.texts, Text.Fits t

instance (s : Step) : Decidable s.Fits := inferInstanceAs (Decidable (∀ t ∈ s.texts, Text.Fits t))

variable {s : Step}

theorem texts_of_lookup {key : String} {arg : StepArg} (h : s.args.lookup key = some arg)
    {t : String}
    (ht : t ∈ arg.texts) : t ∈ s.texts := by
  obtain ⟨before, after, hargs, -⟩ := List.lookup_eq_some_iff.1 h
  have hmem : (key, arg) ∈ s.args := hargs ▸ List.mem_append_right _ List.mem_cons_self
  exact List.mem_flatMap.2 ⟨_, hmem, ht⟩

theorem arg_cases (s : Step) (name : String) :
    s.arg name = "" ∨ ∃ t ∈ s.texts, s.arg name = Text.trim t := by
  unfold arg
  split
  next t hvalue =>
    refine .inr ⟨t, ?_, rfl⟩
    unfold value? at hvalue
    split at hvalue
    next v hlookup =>
      cases hvalue
      exact texts_of_lookup hlookup (List.mem_singleton_self t)
    next => cases hvalue
  next => exact .inl rfl

theorem Fits.arg (h : s.Fits) (name : String) : Text.Fits (s.arg name) := by
  rcases s.arg_cases name with harg | ⟨t, ht, harg⟩
  · rw [harg]
    decide
  · rw [harg]
    exact (h t ht).trim

theorem Fits.label (h : s.Fits) {b : String × List Step} (hb : b ∈ s.cases?.getD []) :
    Text.Fits b.1 := by
  unfold cases? at hb
  split at hb
  next branches hlookup => exact h _ (texts_of_lookup hlookup (List.mem_map_of_mem hb))
  next => cases hb

theorem isBlank_head_arg {name : String} {c : Char} (h : (s.arg name).toList.head? = some c) :
    Text.isBlank c = false := by
  rcases s.arg_cases name with harg | ⟨t, -, harg⟩
  · rw [harg] at h
    cases h
  · rw [harg] at h
    exact Text.isBlank_head_trim h

end Step

namespace Flow

/-! Lines. The words of the lowering open and close blocks, and the texts between them do not. -/

namespace CodePart

def Fits : CodePart → Prop
  | words _ => True
  | given t => Text.Fits t
  | quoted t => Text.Fits t
  | number _ => True
  | repo entity => Text.Fits entity
  | publisher => True

@[simp] theorem fits_words (w : String) : (words w).Fits := trivial

@[simp] theorem fits_given_iff {t : String} : (given t).Fits ↔ Text.Fits t := Iff.rfl

@[simp] theorem fits_quoted_iff {t : String} : (quoted t).Fits ↔ Text.Fits t := Iff.rfl

@[simp] theorem fits_number (k : Int) : (number k).Fits := trivial

@[simp] theorem fits_repo_iff {entity : String} : (repo entity).Fits ↔ Text.Fits entity := Iff.rfl

@[simp] theorem fits_publisher : publisher.Fits := trivial

theorem fits_givenOr {t : String} (h : Text.Fits t) (other : String) : (givenOr t other).Fits := by
  unfold givenOr
  split
  · trivial
  · exact h

theorem fits_caseLabel {label : String} (h : Text.Fits label) : (caseLabel label).Fits := by
  unfold caseLabel
  split
  · exact h
  · exact h

end CodePart

def wordsDepth? : List CodePart → Nat → Option Nat
  | [], n => some n
  | .words w :: parts, n => (Text.depth? w.toList n).bind (wordsDepth? parts)
  | _ :: parts, n => wordsDepth? parts n

section

variable {p : CodePart} {parts : List CodePart} {n m : Nat}

theorem wordsDepth?_append {more : List CodePart} :
    wordsDepth? (parts ++ more) n = (wordsDepth? parts n).bind (wordsDepth? more) := by
  induction parts generalizing n with
  | nil => rfl
  | cons p parts ih =>
    cases p with
    | words w =>
      rw [List.cons_append, wordsDepth?, wordsDepth?, Option.bind_assoc]
      exact congrArg _ (funext fun _ => ih)
    | _ => exact ih

theorem depth?_render (h : p.Fits) : Text.depth? p.render.toList n = wordsDepth? [p] n := by
  cases p with
  | words w => exact (Option.bind_fun_some _).symm
  | given t => exact Text.Fits.depth?_eq (s := t) h n
  | quoted t => exact (Text.Fits.goQuote (s := t) h).depth?_eq n
  | number k => exact (Text.fits_toString k).depth?_eq n
  | repo entity =>
    have hrepo : Text.Fits ("s." ++ entity ++ "Repo") :=
      Text.fits_append (Text.fits_append (by decide) h) (by decide)
    exact hrepo.depth?_eq n
  | publisher => exact Text.Fits.depth?_eq (s := "s.publisher") (by decide) n

theorem depth?_text (h : ∀ p ∈ parts, p.Fits) :
    Text.depth? (text parts).toList n = wordsDepth? parts n := by
  induction parts generalizing n with
  | nil => rfl
  | cons p parts ih =>
    rw [List.forall_mem_cons] at h
    rw [text_cons, String.toList_append, Text.depth?_append, depth?_render h.1,
      show p :: parts = [p] ++ parts from rfl, wordsDepth?_append]
    exact congrArg _ (funext fun _ => ih h.2)

theorem wordsDepth?_words {w : String} (h : Text.Fits w) :
    wordsDepth? (.words w :: parts) n = wordsDepth? parts n := by
  rw [wordsDepth?, h.depth?_eq, Option.bind_some]

theorem wordsDepth?_givenOr {t other : String} (h : Text.Fits other) :
    wordsDepth? (.givenOr t other :: parts) n = wordsDepth? parts n := by
  unfold CodePart.givenOr
  split
  · exact wordsDepth?_words h
  · rfl

end

namespace CodeLine

def content (l : CodeLine) : String := String.ofList (List.replicate l.indent '\t') ++ text l.parts

/-- How far the line stands back from the blocks that are open before it: one level if it begins by
closing a block, or if it is a label of a switch. -/
def back (l : CodeLine) : Nat :=
  if (text l.parts).toList.head? = some '\x7d' ∨
    l.parts.head? ∈ [some (CodePart.words "case "), some (CodePart.words "default:")] then 1 else 0

def wordBack? (w : String) : Option Nat :=
  w.toList.head?.bind fun c =>
    if c = '\t' then none
    else if c = '\x7d' ∨ w ∈ ["case ", "default:"] then some 1
    else some 0

/-- The line is indented as it should be if `n` braces are open before it, and `m` are open after
it. -/
structure Goes (n : Nat) (l : CodeLine) (m : Nat) : Prop where
  depth_eq : Text.depth? (text l.parts).toList n = some m
  head_ne_tab : (text l.parts).toList.head? ≠ some '\t'
  indent_eq : l.indent + l.back = n

variable {l : CodeLine} {n m k indent : Nat} {parts : List CodePart}

theorem Goes.shift (h : l.Goes n m) (k : Nat) :
    Goes (k + n) { l with indent := k + l.indent } (k + m) where
  depth_eq := by
    rw [Nat.add_comm k n, Nat.add_comm k m]
    exact Text.depth?_add h.depth_eq k
  head_ne_tab := h.head_ne_tab
  indent_eq := by
    rw [← h.indent_eq, ← Nat.add_assoc]
    rfl

theorem toList_render (l : CodeLine) : l.render.toList = l.content.toList ++ ['\n'] :=
  String.toList_append

theorem toList_content (l : CodeLine) :
    l.content.toList = List.replicate l.indent '\t' ++ (text l.parts).toList := by
  rw [content, String.toList_append, String.toList_ofList]

theorem Goes.depth?_content (h : l.Goes n m) : Text.depth? l.content.toList n = some m := by
  have htabs : Text.depth? (List.replicate l.indent '\t') n = some n := by
    refine Text.depth?_of_plain fun c hc => ?_
    rw [List.eq_of_mem_replicate hc]
    decide
  rw [toList_content, Text.depth?_append, htabs]
  exact h.depth_eq

theorem goes_words {w : String} (hback : wordBack? w = some k) (hfits : ∀ p ∈ parts, p.Fits)
    (hdepth : wordsDepth? (.words w :: parts) (indent + k) = some m) :
    Goes (indent + k) ⟨indent, .words w :: parts⟩ m := by
  obtain ⟨c, hhead, hc⟩ := Option.bind_eq_some_iff.1 hback
  have hfirst : (text (.words w :: parts)).toList.head? = some c := by
    rw [text_cons, String.toList_append, List.head?_append,
      show (CodePart.words w).render = w from rfl, hhead]
    rfl
  obtain ⟨htab, hk⟩ :
      c ≠ '\t' ∧ (if c = '\x7d' ∨ w ∈ ["case ", "default:"] then 1 else 0) = k := by
    rw [ite_eq_iff] at hc
    rcases hc with ⟨-, hc⟩ | ⟨htab, hc⟩
    · cases hc
    · rw [← apply_ite] at hc
      exact ⟨htab, Option.some.inj hc⟩
  have hall : ∀ p ∈ CodePart.words w :: parts, p.Fits := List.forall_mem_cons.2 ⟨trivial, hfits⟩
  refine ⟨(depth?_text hall).trans hdepth, ?_, ?_⟩
  · rw [hfirst]
    exact fun heq => htab (Option.some.inj heq)
  · rw [back, hfirst, ← hk]
    simp

theorem goes_level {w : String} (hback : wordBack? w = some 0) (hfits : ∀ p ∈ parts, p.Fits)
    (hdepth : wordsDepth? (.words w :: parts) n = some m) : Goes n ⟨n, .words w :: parts⟩ m :=
  goes_words hback hfits hdepth

theorem goes_back {w : String} (hback : wordBack? w = some 1) (hfits : ∀ p ∈ parts, p.Fits)
    (hdepth : wordsDepth? (.words w :: parts) (n + 1) = some m) :
    Goes (n + 1) ⟨n, .words w :: parts⟩ m :=
  goes_words hback hfits hdepth

theorem goes_arg {s : Step} {name : String} (hs : s.Fits) (harg : (s.arg name).isEmpty = false)
    (hfits : ∀ p ∈ parts, p.Fits) (hdepth : wordsDepth? parts n = some m) :
    Goes n ⟨n, .given (s.arg name) :: parts⟩ m := by
  obtain ⟨c, cs, hcs⟩ : ∃ c cs, (s.arg name).toList = c :: cs := by
    refine List.exists_cons_of_ne_nil fun hnil => ?_
    rw [String.toList_eq_nil_iff.1 hnil] at harg
    cases harg
  have hfirst : (text (.given (s.arg name) :: parts)).toList.head? = some c := by
    rw [text_cons, String.toList_append, show (CodePart.given (s.arg name)).render =
      s.arg name from rfl, hcs]
    rfl
  refine ⟨?_, ?_, ?_⟩
  · have hall : ∀ p ∈ CodePart.given (s.arg name) :: parts, p.Fits :=
      List.forall_mem_cons.2 ⟨hs.arg name, hfits⟩
    rw [depth?_text hall]
    exact hdepth
  · rw [hfirst]
    rintro ⟨⟩
    have hblank : Text.isBlank '\t' = false := Step.isBlank_head_arg (congrArg List.head? hcs)
    exact absurd hblank (by decide)
  · -- a text whose braces are well nested does not begin by closing one
    have hclose : c ≠ '\x7d' := by
      rintro rfl
      have hdepth := (hs.arg name).depth?_eq 0
      rw [hcs] at hdepth
      cases hdepth
    rw [back, hfirst]
    simp [hclose]

end CodeLine

/-! Lists of lines. -/

inductive Goes : Nat → List CodeLine → Nat → Prop where
  | nil (n : Nat) : Goes n [] n
  | cons {n m k : Nat} {l : CodeLine} {ls : List CodeLine} (first : l.Goes n m)
      (rest : Goes m ls k) :
    Goes n (l :: ls) k

namespace Goes

variable {ls more : List CodeLine} {l : CodeLine} {n m k : Nat}

theorem append (h : Goes n ls m) (hmore : Goes m more k) : Goes n (ls ++ more) k := by
  induction h with
  | nil => exact hmore
  | cons first _ ih => exact .cons first (ih hmore)

theorem shift (h : Goes n ls m) (k : Nat) :
    Goes (k + n) (ls.map fun l => { l with indent := k + l.indent }) (k + m) := by
  induction h with
  | nil n => exact .nil _
  | cons first _ ih => exact .cons (first.shift k) ih

theorem exists_of_append (h : Goes n (ls ++ more) k) : ∃ m, Goes n ls m ∧ Goes m more k := by
  induction ls generalizing n with
  | nil => exact ⟨n, .nil n, h⟩
  | cons l ls ih =>
    cases h with
    | cons first rest =>
      obtain ⟨m, hls, hmore⟩ := ih rest
      exact ⟨m, .cons first hls, hmore⟩

theorem nests (h : Goes n ls m) : Text.Nests n (String.join (ls.map CodeLine.render)).toList m := by
  induction h with
  | nil n => exact Text.nests_nil.2 rfl
  | cons first _ ih =>
    rw [List.map_cons, String.join_cons, String.toList_append, CodeLine.toList_render,
      List.append_assoc]
    refine (Text.depth?_eq_some_iff.1 first.depth?_content).2.append ?_
    exact (Text.nests_other (by decide) (by decide)).2 ih

theorem splitChars_eq (h : Goes n ls m) :
    Text.splitChars '\n' (String.join (ls.map CodeLine.render)).toList =
      ls.map (fun l => l.content.toList) ++ [[]] := by
  induction h with
  | nil n => rfl
  | cons first _ ih =>
    rw [List.map_cons, String.join_cons, String.toList_append, CodeLine.toList_render,
      List.append_assoc, List.singleton_append, Text.splitChars_eq_splitOn]
    have hline := (Text.depth?_eq_some_iff.1 first.depth?_content).1
    rw [List.splitOn_append_cons_self_of_not_mem hline, ← Text.splitChars_eq_splitOn, ih]
    rfl

end Goes

/-! Code. -/

namespace Lowering

/-- Wherever the code stands, its lines are indented as they should be. Relative to that place, `n`
blocks are open before the code and `m` after it. -/
def Goes (n : Nat) (code : Lowering) (m : Nat) : Prop :=
  ∀ indent declared, Flow.Goes (indent + n) (code indent declared).1 (indent + m)

variable {a b code : Lowering} {n m k : Nat}

theorem goes_none : none.Goes n n := fun _ _ => .nil _

theorem Goes.seq (ha : a.Goes n m) (hb : b.Goes m k) : (seq a b).Goes n k :=
  fun indent declared => (ha indent declared).append (hb indent _)

theorem Goes.nested (h : code.Goes n m) : (nested code).Goes (n + 1) (m + 1) := by
  intro indent declared
  have hinside := h (indent + 1) declared
  rw [Nat.add_right_comm, Nat.add_right_comm indent 1 m] at hinside
  exact hinside

theorem goes_lines {ls : List CodeLine} (h : Flow.Goes n ls m) : (lines ls).Goes n m :=
  fun indent _ => h.shift indent

theorem goes_line {parts : List CodePart} (h : CodeLine.Goes n ⟨0, parts⟩ m) :
    (line parts).Goes n m :=
  goes_lines (.cons h (.nil m))

theorem goes_all_cons {codes : List Lowering} (h : code.Goes n m) (hcodes : (all codes).Goes m k) :
    (all (code :: codes)).Goes n k := h.seq hcodes

theorem goes_all_append {xs ys : List Lowering} (hx : (all xs).Goes n m) (hy : (all ys).Goes m k) :
    (all (xs ++ ys)).Goes n k := by
  rw [all_append]
  exact hx.seq hy

theorem goes_all {codes : List Lowering} (h : ∀ code ∈ codes, code.Goes n n) :
    (all codes).Goes n n := by
  induction codes with
  | nil => exact goes_none
  | cons code codes ih =>
    rw [List.forall_mem_cons] at h
    exact h.1.seq (ih h.2)

theorem goes_declaring {code : Bool → Lowering} (h : ∀ isNew, (code isNew).Goes n m)
    (name : String) :
    (declaring name code).Goes n m := by
  intro indent declared
  rw [declaring_eq]
  exact h _ indent _

theorem goes_needing {texts : List String} (h : (∀ t ∈ texts, t.isEmpty = false) → code.Goes n n) :
    (needing texts code).Goes n n := by
  unfold needing
  split
  · exact goes_none
  next hany =>
    refine h fun t ht => ?_
    rw [Bool.not_eq_true, List.any_eq_false] at hany
    exact Bool.not_eq_true _ ▸ hany t ht

end Lowering

/-! The code of each step. -/

section

open Lowering

variable {ret : String} {s : Step}

theorem goes_close (n : Nat) : CodeLine.Goes (n + 1) ⟨n, ["\x7d"]⟩ n :=
  CodeLine.goes_back rfl (List.forall_mem_nil _) rfl

theorem goes_returnError (hret : Text.Fits ret) {error : List CodePart}
    (hfits : ∀ p ∈ error, p.Fits)
    (hdepth : wordsDepth? error 1 = some 1) : CodeLine.Goes 1 (returnError ret error) 1 := by
  refine CodeLine.goes_level rfl (List.forall_mem_cons.2 ⟨trivial, hfits⟩) ?_
  show wordsDepth? (.words ret :: error) 1 = _
  rw [wordsDepth?_words hret, hdepth]

theorem goes_opening {w : String} {head : List CodePart} (hback : CodeLine.wordBack? w = some 0)
    (hfits : ∀ p ∈ head, p.Fits) (hdepth : wordsDepth? (.words w :: head) 0 = some 0) :
    CodeLine.Goes 0 ⟨0, (.words w :: head).concat " \x7b"⟩ 1 := by
  rw [List.concat_eq_append, List.cons_append]
  refine CodeLine.goes_level hback ?_ ?_
  · exact List.forall_mem_append.2 ⟨hfits, List.forall_mem_singleton.2 trivial⟩
  · rw [← List.cons_append, wordsDepth?_append, hdepth]
    rfl

theorem goes_failing (hret : Text.Fits ret) {head error : List CodePart}
    (hhead : CodeLine.Goes 0 ⟨0, head⟩ 1) (hfits : ∀ p ∈ error, p.Fits)
    (hdepth : wordsDepth? error 1 = some 1) :
    Goes 0 [⟨0, head⟩, returnError ret error, ⟨0, ["\x7d"]⟩] 0 :=
  .cons hhead (.cons (goes_returnError hret hfits hdepth) (.cons (goes_close 0) (.nil 0)))

theorem goes_guarded (hret : Text.Fits ret) {w : String} {head : List CodePart}
    (hback : CodeLine.wordBack? w = some 0) (hfits : ∀ p ∈ head, p.Fits)
    (hdepth : wordsDepth? (.words w :: head) 0 = some 0) :
    (guarded ret (.words w :: head)).Goes 0 0 :=
  goes_lines (goes_failing hret (goes_opening hback hfits hdepth)
    (List.forall_mem_singleton.2 trivial) rfl)

theorem goes_checkCode (hret : Text.Fits ret) (hs : s.Fits) : (checkCode ret s).Goes 0 0 := by
  have hmessage : Text.Fits (orElse (s.arg "throw") "validation failed") := by
    unfold orElse
    split
    · decide
    · exact hs.arg _
  refine goes_needing fun _ => goes_lines (goes_failing hret ?_ ?_ rfl)
  · exact CodeLine.goes_level rfl (by simp [hs.arg]) rfl
  · simp [hmessage]

theorem fits_repoCall (hs : s.Fits) (method : String) : ∀ p ∈ repoCall s method, p.Fits := by
  have hmethod := CodePart.fits_givenOr (hs.arg "method") method
  have hrepo := Name.fits_exported (hs.arg "source")
  unfold repoCall
  dsimp only
  split <;> simp [hmethod, hrepo, hs.arg]

theorem wordsDepth?_repoCall {method : String} (hmethod : Text.Fits method) (n : Nat) :
    wordsDepth? (repoCall s method) n = some n := by
  unfold repoCall
  show wordsDepth? (.givenOr _ method :: _) n = _
  rw [wordsDepth?_givenOr hmethod]
  split <;> rfl

theorem goes_guarded_repoCall (hret : Text.Fits ret) (hs : s.Fits) {method w : String}
    (hmethod : Text.Fits method) (hback : CodeLine.wordBack? w = some 0) (hw : Text.Fits w) :
    (guarded ret (.words w :: (repoCall s method).concat "; err != nil")).Goes 0 0 := by
  rw [List.concat_eq_append]
  refine goes_guarded hret hback ?_ ?_
  · exact List.forall_mem_append.2 ⟨fits_repoCall hs method, List.forall_mem_singleton.2 trivial⟩
  · rw [wordsDepth?_words hw, wordsDepth?_append, wordsDepth?_repoCall hmethod]
    rfl

theorem goes_fetchCode (hret : Text.Fits ret) (hs : s.Fits) {method : String}
    (hmethod : Text.Fits method) : (fetchCode ret s method).Goes 0 0 := by
  refine goes_needing fun _ => ?_
  split
  next => exact goes_guarded_repoCall hret hs hmethod rfl (by decide)
  next houtput =>
    refine goes_declaring (fun isNew => Goes.seq (m := 0) (goes_line ?_) ?_) _
    · refine CodeLine.goes_arg hs (Bool.not_eq_true _ ▸ houtput) ?_ ?_
      · cases isNew <;> simpa using fits_repoCall hs method
      · cases isNew <;> exact wordsDepth?_repoCall hmethod 0
    · exact goes_guarded hret rfl (List.forall_mem_nil _) rfl

theorem goes_storeCode (hret : Text.Fits ret) (hs : s.Fits) {method : String}
    (hmethod : Text.Fits method) : (storeCode ret s method).Goes 0 0 :=
  goes_needing fun _ => goes_guarded_repoCall hret hs hmethod rfl (by decide)

theorem goes_assignCode (hs : s.Fits) : (assignCode s).Goes 0 0 := by
  refine goes_needing fun hargs => ?_
  rw [List.forall_mem_cons, List.forall_mem_singleton] at hargs
  have hline (op : String) (hop : Text.Fits op) :
      (line [.given (s.arg "to"), " ", .words op, " ", .given (s.arg "value")]).Goes 0 0 := by
    refine goes_line (CodeLine.goes_arg hs hargs.1 (by simp [hs.arg]) ?_)
    exact wordsDepth?_words hop
  dsimp only
  split
  · refine goes_declaring (fun isNew => ?_) _
    cases isNew
    · exact hline "=" (by decide)
    · exact hline ":=" (by decide)
  · exact hline "=" (by decide)

theorem goes_filterCode (hs : s.Fits) : (filterCode s).Goes 0 0 := by
  have hitem := CodePart.fits_givenOr (hs.arg "as") "item"
  refine goes_needing fun hargs => goes_declaring (fun _ => goes_lines ?_) _
  have houtput : (s.arg "output").isEmpty = false := hargs _ (by simp)
  -- line by line, with the number of blocks that are open after it
  refine .cons (m := 0) (CodeLine.goes_arg hs houtput ?_ rfl) <|
    .cons (m := 1) (CodeLine.goes_level rfl ?_ ?_) <|
    .cons (m := 2) (CodeLine.goes_level rfl ?_ rfl) <|
    .cons (m := 2) (CodeLine.goes_arg hs houtput ?_ ?_) <|
    .cons (goes_close 1) <| .cons (goes_close 0) <| .nil 0
  · simp [hs.arg]
  · simp [hitem, hs.arg]
  · show wordsDepth? (.givenOr _ "item" :: _) 0 = _
    rw [wordsDepth?_givenOr (by decide)]
    rfl
  · simp [hs.arg]
  · simp [hitem, hs.arg]
  · show wordsDepth? (.givenOr _ "item" :: _) 2 = _
    rw [wordsDepth?_givenOr (by decide)]
    rfl

theorem goes_paginateCode (hs : s.Fits) : (paginateCode s).Goes 0 0 := by
  refine goes_needing fun hargs => goes_declaring (fun _ => goes_lines ?_) _
  have houtput : (s.arg "output").isEmpty = false := hargs _ (by simp)
  refine .cons (m := 0) (CodeLine.goes_level rfl ?_ rfl) <|
    .cons (m := 0) (CodeLine.goes_level rfl ?_ rfl) <|
    .cons (m := 0) (CodeLine.goes_level rfl ?_ rfl) <|
    .cons (m := 0) (CodeLine.goes_level rfl ?_ rfl) <|
    .cons (m := 0) (CodeLine.goes_level rfl ?_ rfl) <|
    .cons (m := 0) (CodeLine.goes_level rfl ?_ rfl) <|
    .cons (m := 0) (CodeLine.goes_level rfl ?_ rfl) <|
    .cons (m := 0) (CodeLine.goes_level rfl ?_ rfl) <|
    .cons (CodeLine.goes_arg hs houtput ?_ rfl) <| .nil 0
  all_goals simp [hs.arg]

theorem goes_appendCode (hs : s.Fits) : (appendCode s).Goes 0 0 := by
  refine goes_needing fun hargs => goes_line (CodeLine.goes_arg hs (hargs _ (by simp)) ?_ rfl)
  simp [hs.arg]

theorem goes_sortCode (hs : s.Fits) : (sortCode s).Goes 0 0 := by
  refine goes_needing fun hargs => goes_declaring (fun _ => goes_lines ?_) _
  have houtput : (s.arg "output").isEmpty = false := hargs _ (by simp)
  refine .cons (m := 0) (CodeLine.goes_arg hs houtput ?_ rfl) <|
    .cons (m := 0) (CodeLine.goes_level rfl ?_ ?_) <| .nil 0
  · simp [hs.arg]
  · simp [hs.arg]
  · cases Text.sameLetters (s.arg "order") "desc" <;> rfl

theorem goes_normalizeCode (hs : s.Fits) : (normalizeCode s).Goes 0 0 := by
  refine goes_needing fun hargs => goes_declaring (fun _ => ?_) _
  have houtput : (s.arg "output").isEmpty = false := hargs _ (by simp)
  split
  · exact goes_line (CodeLine.goes_arg hs houtput (by simp [hs.arg]) rfl)
  · exact goes_line (CodeLine.goes_arg hs houtput (by simp [hs.arg]) rfl)

theorem goes_publishCode (hret : Text.Fits ret) (hs : s.Fits) : (publishCode ret s).Goes 0 0 := by
  have hpayload := CodePart.fits_givenOr (hs.arg "payload") "nil"
  refine goes_needing fun _ => goes_guarded hret rfl ?_ ?_
  · simp [hs.arg, hpayload]
  · show wordsDepth? (.givenOr _ "nil" :: _) 0 = _
    rw [wordsDepth?_givenOr (by decide)]
    rfl

/-! Steps with branches. -/

theorem goes_ifElse {cond : List CodePart} (hfits : ∀ p ∈ cond, p.Fits)
    (hdepth : wordsDepth? cond 0 = some 0) {thenCode elseCode : Lowering}
    (hthen : thenCode.Goes 0 0)
    (helse : elseCode.Goes 0 0) (elseIsEmpty : Bool) :
    (ifElse cond thenCode elseIsEmpty elseCode).Goes 0 0 := by
  have hclose : (line ["\x7d"]).Goes 1 0 := goes_line (goes_close 0)
  have hbetween : (line ["\x7d else \x7b"]).Goes 1 1 :=
    goes_line (CodeLine.goes_back rfl (List.forall_mem_nil _) rfl)
  refine goes_all_cons (goes_line (goes_opening rfl hfits hdepth)) (goes_all_cons hthen.nested ?_)
  cases elseIsEmpty
  · exact goes_all_cons hbetween (goes_all_cons helse.nested (goes_all_cons hclose goes_none))
  · exact goes_all_cons hclose goes_none

theorem goes_lowerSteps {steps : List Step} (h : ∀ s ∈ steps, (lowerStep ret s).Goes 0 0) :
    (lowerSteps ret steps).Goes 0 0 := by
  rw [lowerSteps_eq_all]
  exact goes_all (List.forall_mem_map.2 h)

theorem goes_switch (hs : s.Fits) {cases : List (String × Lowering)} {default : List Lowering}
    (hcases : ∀ b ∈ cases, Text.Fits b.1 ∧ b.2.Goes 0 0)
    (hdefault : ∀ code ∈ default, code.Goes 1 1) :
    (all ([line ["switch ", .given (s.arg "value"), " \x7b"]] ++
      cases.flatMap (fun b => [line ["case ", caseLabel b.1, ":"], nested b.2]) ++
      default ++ [line ["\x7d"]])).Goes 0 0 := by
  have hopen : (line ["switch ", .given (s.arg "value"), " \x7b"]).Goes 0 1 :=
    goes_line (CodeLine.goes_level rfl (by simp [hs.arg]) rfl)
  refine goes_all_append (m := 1) (goes_all_append (goes_all_append hopen (goes_all ?_))
    (goes_all hdefault))
    (goes_all_cons (goes_line (goes_close 0)) goes_none)
  intro code hcode
  obtain ⟨b, hb, hcode⟩ := List.mem_flatMap.1 hcode
  obtain ⟨hlabel, hbranch⟩ := hcases b hb
  rw [List.mem_pair] at hcode
  rcases hcode with rfl | rfl
  · refine goes_line (CodeLine.goes_back rfl ?_ ?_)
    · simp [CodePart.fits_caseLabel hlabel]
    · unfold caseLabel
      split <;> rfl
  · exact hbranch.nested

theorem goes_each (hs : s.Fits) {body : Lowering} (hbody : body.Goes 0 0) :
    (all [line ["for _, ", .givenOr (s.arg "as") "item", " := range ",
      .given (s.arg "each"), " \x7b"], nested body, line ["\x7d"]]).Goes 0 0 := by
  have hitem := CodePart.fits_givenOr (hs.arg "as") "item"
  refine goes_all_cons (m := 1) (goes_line ?_) <|
    goes_all_cons hbody.nested (goes_all_cons (goes_line (goes_close 0)) goes_none)
  refine CodeLine.goes_level rfl (by simp [hs.arg, hitem]) ?_
  show wordsDepth? (.givenOr _ "item" :: _) 0 = _
  rw [wordsDepth?_givenOr (by decide)]
  rfl

theorem fits_method {action method : String} {a : Action}
    (ha : a = .fetch method ∨ a = .store method)
    (h : Action.ofName? action = some a) : Text.Fits method := by
  rcases ha with rfl | rfl <;> unfold Action.ofName? at h <;> split at h <;> cases h <;> decide

/-- What a step's branches keep, the step keeps. -/
theorem goes_lowerStep (hret : Text.Fits ret) (hs : s.Fits)
    (hbranch : ∀ key, (lowerSteps ret (s.branch key)).Goes 0 0)
    (hcases : ∀ b ∈ s.cases?.getD [], (lowerSteps ret b.2).Goes 0 0) :
    (lowerStep ret s).Goes 0 0 := by
  rw [lowerStep_eq]
  unfold stepCode
  simp only [codeAt_lowerArgs, isEmptyAt_lowerArgs, casesAt_lowerArgs]
  cases haction : Action.ofName? s.action with
  | none => exact goes_none
  | some action =>
    cases action with
    | check => exact goes_checkCode hret hs
    | fetch method => exact goes_fetchCode hret hs (fits_method (.inl rfl) haction)
    | store method => exact goes_storeCode hret hs (fits_method (.inr rfl) haction)
    | assign => exact goes_assignCode hs
    | conditional =>
      exact goes_needing fun _ => goes_ifElse (by simp [hs.arg]) rfl (hbranch _) (hbranch _) _
    | upsert =>
      exact goes_needing fun _ => goes_ifElse (by simp [hs.arg]) rfl (hbranch _) (hbranch _) _
    | switch =>
      refine goes_needing fun _ => goes_switch hs (List.forall_mem_map.2 fun b hb => ?_) ?_
      · exact ⟨hs.label hb, hcases b hb⟩
      · split
        · exact List.forall_mem_nil _
        · have hdefault : (line ["default:"]).Goes 1 1 :=
            goes_line (CodeLine.goes_back rfl (List.forall_mem_nil _) rfl)
          exact List.forall_mem_cons.2 ⟨hdefault, List.forall_mem_singleton.2 (hbranch _).nested⟩
    | each => exact goes_needing fun _ => goes_each hs (hbranch _)
    | block => exact hbranch _
    | filter => exact goes_filterCode hs
    | paginate => exact goes_paginateCode hs
    | append => exact goes_appendCode hs
    | sort => exact goes_sortCode hs
    | normalize => exact goes_normalizeCode hs
    | publish => exact goes_publishCode hret hs

theorem goes_lowerStep_of_tree (hret : Text.Fits ret) (s : Step) (h : ∀ t ∈ s.tree, t.Fits) :
    (lowerStep ret s).Goes 0 0 := by
  induction s using Step.branches_induction with
  | step s ihbranch ihcases =>
    have hs : s.Fits := by
      rw [Step.tree_eq] at h
      exact h s List.mem_cons_self
    refine goes_lowerStep hret hs (fun key => goes_lowerSteps fun t ht => ?_)
      (fun b hb => goes_lowerSteps fun t ht => ?_)
    · exact ihbranch key t ht fun u hu => h u (Step.mem_tree_of_mem_branch ht hu)
    · exact ihcases b hb t ht fun u hu => h u (Step.mem_tree_of_mem_cases hb ht hu)

theorem goes_code {flow : List Step} (h : ∀ s ∈ Step.stepsTree flow, s.Fits) (hasOutput : Bool) :
    Goes 0 (code flow hasOutput) 0 := by
  have hret : Text.Fits (if hasOutput then "resp, " else "") := by
    cases hasOutput <;> decide
  -- the flow stands at the margin, so relative and absolute levels are the same
  refine goes_lowerSteps (fun s hs => goes_lowerStep_of_tree hret s fun t ht => ?_) 0 _
  exact h t (Step.mem_stepsTree.2 ⟨s, hs, ht⟩)

end

def leadingTabs (line : String) : Nat := (line.toList.takeWhile (· = '\t')).length

theorem leadingTabs_content {l : CodeLine} {n m : Nat} (h : l.Goes n m) :
    leadingTabs l.content = l.indent := by
  have hstop : (text l.parts).toList.takeWhile (· = '\t') = [] := by
    cases hcs : (text l.parts).toList with
    | nil => rfl
    | cons c cs =>
      have hc : c ≠ '\t' := fun heq => h.head_ne_tab (by rw [hcs, heq]; rfl)
      exact List.takeWhile_cons_of_neg (by simpa using hc)
  rw [leadingTabs, CodeLine.toList_content, List.takeWhile_append_of_pos, hstop, List.append_nil,
    List.length_replicate]
  intro c hc
  simpa using List.eq_of_mem_replicate hc

def written (ls : List CodeLine) : List Char := (String.join (ls.map CodeLine.render)).toList

/-- The braces of a flow's code are well nested, and each line is indented by the number of blocks
that are open before it, less one for a line that begins by closing a block and for the labels of a
switch. -/
theorem render_wellNested {flow : List Step} (h : ∀ s ∈ Step.stepsTree flow, s.Fits)
    (hasOutput : Bool) :
    Text.WellNested (render flow hasOutput).toList ∧
      Text.split '\n' (render flow hasOutput) = (code flow hasOutput).map CodeLine.content ++ [""] ∧
      ∀ before l after, code flow hasOutput = before ++ l :: after →
        leadingTabs l.content + l.back + (written before).count '\x7d' =
        (written before).count '\x7b' := by
  have hgoes := goes_code h hasOutput
  refine ⟨Text.wellNested_iff.2 hgoes.nests, ?_, fun before l after hcode => ?_⟩
  · rw [Text.split, render, hgoes.splitChars_eq, List.map_append, List.map_map]
    simp [Function.comp_def]
  · rw [hcode] at hgoes
    obtain ⟨m, hbefore, hrest⟩ := hgoes.exists_of_append
    have hcount := hbefore.nests.2
    cases hrest with
    | cons first _ =>
      rw [leadingTabs_content first, first.indent_eq]
      simpa [written] using hcount.symm

def sortOut : List FlowStep :=
  [{ action := "mapping.Assign"
     args :=
       [("declare", .bool true), ("to", .str "seen"), ("value", .str "map[string]any\x7b\x7d")] },
   { action := "flow.For"
     args := [("as", .str "order"), ("each", .str "orders")]
     steps :=
      [{ action := "switch"
         args := [("value", .str "order.Kind")]
         cases := [("\x7bvoid\x7d", []),
          ("draft", [{ action := "repo.Save", args := [("source", .str "Order")] }])]
         defaultSteps :=
          [{ action := "flow.If"
             args := [("condition", .str "order.Valid")]
             elseSteps := [{ action := "event.Publish", args := [("event", .str "Bad")] }] }] }] }]

theorem render_wellNested_sortOut :
    (∀ s ∈ Step.stepsTree (normalizeSteps sortOut), s.Fits) ∧
      Text.WellNested (render (normalizeSteps sortOut) true).toList ∧
      ∀ before l after, code (normalizeSteps sortOut) true = before ++ l :: after →
        leadingTabs l.content + l.back + (written before).count '\x7d' =
        (written before).count '\x7b' := by
  have hfits : ∀ s ∈ Step.stepsTree (normalizeSteps sortOut), s.Fits := by decide +kernel
  obtain ⟨hnested, -, hindent⟩ := render_wellNested hfits true
  exact ⟨hfits, hnested, hindent⟩

end Flow

end GoScaffold
