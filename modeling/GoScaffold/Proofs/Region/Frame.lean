import GoScaffold.Proofs.Region.Merge

/-! What merging leaves of the generated text. The lines outside the bodies that are replaced should
all be there, in their order, and all others should come from disk. This holds unless a region that
closes somewhere is also begun without an end: merging then passes over the lines behind. -/

namespace GoScaffold.Region
open scoped List

/-! Lines as pieces. -/

/-- A part of a text: a line outside all complete regions, or a complete region. -/
inductive Piece where
  | line (l : String)
  | region (b q : String) (body : List String) (e : String)

namespace Piece

def lines : Piece → List String
  | line l => [l]
  | region b _ body e => b :: (body ++ [e])

def region? : Piece → Option Region
  | line _ => none
  | region _ q body _ => some ⟨q, body⟩

def outside (replaced : String → Bool) : Piece → List String
  | line l => [l]
  | region b q body e => if replaced q then [b, e] else b :: (body ++ [e])

end Piece

def enclose (q : String) : List Piece → Option (List String × String × List Piece)
  | .line l :: rest =>
    if (begins? l).isSome then none
    else if ends? l = some q then some ([], l, rest)
    else (enclose q rest).map fun (body, e, after) => (l :: body, e, after)
  | _ => none

def layout : List String → List Piece
  | [] => []
  | l :: ls =>
    match begins? l with
    | none => .line l :: layout ls
    | some q =>
      match enclose q (layout ls) with
      | some (body, e, after) => .region l q body e :: after
      | none => .line l :: layout ls

theorem layout_cons (l : String) (ls : List String) : layout (l :: ls) =
    match begins? l with
    | none => .line l :: layout ls
    | some q =>
      match enclose q (layout ls) with
      | some (body, e, after) => .region l q body e :: after
      | none => .line l :: layout ls := rfl

theorem layout_plain {l : String} {ls : List String} (hl : begins? l = none) :
    layout (l :: ls) = .line l :: layout ls := by
  rw [layout_cons, hl]

theorem layout_begin {b q : String} {ls : List String} (hb : begins? b = some q) :
    layout (b :: ls) = match enclose q (layout ls) with
      | some (body, e, after) => .region b q body e :: after
      | none => .line b :: layout ls := by
  rw [layout_cons, hb]

theorem layout_append {body ls : List String} (hbody : ∀ l ∈ body, begins? l = none) :
    layout (body ++ ls) = body.map Piece.line ++ layout ls := by
  induction body with
  | nil => rfl
  | cons l body ih =>
    rw [List.forall_mem_cons] at hbody
    rw [List.cons_append, layout_plain hbody.1, ih hbody.2, List.map_cons, List.cons_append]

theorem enclose_line (q l : String) (ps : List Piece) : enclose q (.line l :: ps) =
    if (begins? l).isSome then none
    else if ends? l = some q then some ([], l, ps)
    else (enclose q ps).map fun (body, e, after) => (l :: body, e, after) := rfl

theorem enclose_append {q : String} {body : List String} {ps : List Piece} (hbody : IsBody q body) :
    enclose q (body.map Piece.line ++ ps) =
      (enclose q ps).map fun found => (body ++ found.1, found.2.1, found.2.2) := by
  induction body with
  | nil => cases h : enclose q ps <;> simp [h]
  | cons l body ih =>
    obtain ⟨hb, he⟩ := hbody l List.mem_cons_self
    rw [List.map_cons, List.cons_append, enclose_line, hb, ih hbody.tail, if_neg he]
    cases enclose q ps <;> simp

theorem layout_region {b q e : String} {body ls : List String} (hb : begins? b = some q)
    (hbody : IsBody q body) (he : ends? e = some q) :
    layout (b :: (body ++ e :: ls)) = .region b q body e :: layout ls := by
  have hlines : layout (body ++ e :: ls) = body.map Piece.line ++ .line e :: layout ls := by
    rw [layout_append fun l hl => (hbody l hl).1, layout_plain (begins?_of_ends? he)]
  have hfound : enclose q (.line e :: layout ls) = some ([], e, layout ls) := by
    simp [enclose_line, begins?_of_ends? he, he]
  rw [layout_begin hb, hlines, enclose_append hbody, hfound]
  simp

theorem enclose_layout_of_begins {q b p : String} {ls : List String} (hb : begins? b = some p) :
    enclose q (layout (b :: ls)) = none := by
  rw [layout_begin hb]
  cases enclose p (layout ls) with
  | none => simp [enclose_line, hb]
  | some found => rfl

theorem enclose_layout_of_not_closes {q : String} {ls : List String} (h : ¬ Closes q ls) :
    enclose q (layout ls) = none := by
  rcases exists_begins_of_not_closes h with hbody | ⟨body, b, p, rest, rfl, hbody, hb⟩
  · have hlines : layout (ls ++ []) = ls.map Piece.line ++ [] :=
      layout_append fun l hl => (hbody l hl).1
    rw [← List.append_nil ls, hlines, enclose_append hbody]
    rfl
  · rw [layout_append fun l hl => (hbody l hl).1, enclose_append hbody, enclose_layout_of_begins hb]
    rfl

theorem layout_stray {b q : String} {ls : List String} (hb : begins? b = some q)
    (h : ¬ Closes q ls) :
    layout (b :: ls) = .line b :: layout ls := by
  rw [layout_begin hb, enclose_layout_of_not_closes h]

theorem flatMap_lines_layout (ls : List String) : (layout ls).flatMap Piece.lines = ls := by
  induction ls using region_induction with
  | nil => rfl
  | plain l ls hl ih => rw [layout_plain hl, List.flatMap_cons, ih]; rfl
  | region b q body e ls hb hbody he ih =>
    rw [layout_region hb hbody he, List.flatMap_cons, ih]
    simp [Piece.lines]
  | stray b q ls hb h ih => rw [layout_stray hb h, List.flatMap_cons, ih]; rfl

theorem filterMap_region?_layout (ls : List String) :
    (layout ls).filterMap Piece.region? = complete none ls := by
  induction ls using region_induction with
  | nil => rfl
  | plain l ls hl ih => rw [layout_plain hl, complete_plain hl, ← ih]; rfl
  | region b q body e ls hb hbody he ih =>
    rw [layout_region hb hbody he, complete_region hb hbody he, ← ih]; rfl
  | stray b q ls hb h ih => rw [layout_stray hb h, complete_stray hb h, ← ih]; rfl

/-- The lines that are not strictly inside a complete region with a qualifier of the given ones. -/
def exposed (replaced : String → Bool) (ls : List String) : List String :=
  (layout ls).flatMap (Piece.outside replaced)

section Exposed

variable {replaced : String → Bool}

theorem exposed_plain {l : String} {ls : List String} (hl : begins? l = none) :
    exposed replaced (l :: ls) = l :: exposed replaced ls := by
  rw [exposed, layout_plain hl]
  rfl

theorem exposed_region {b q e : String} {body ls : List String} (hb : begins? b = some q)
    (hbody : IsBody q body) (he : ends? e = some q) : exposed replaced (b :: (body ++ e :: ls)) =
      b :: ((if replaced q then [] else body) ++ e :: exposed replaced ls) := by
  rw [exposed, layout_region hb hbody he, List.flatMap_cons, Piece.outside]
  split <;> simp [exposed]

theorem exposed_stray {b q : String} {ls : List String} (hb : begins? b = some q)
    (h : ¬ Closes q ls) :
    exposed replaced (b :: ls) = b :: exposed replaced ls := by
  rw [exposed, layout_stray hb h]
  rfl

theorem exposed_of_no_begins {ls : List String} (h : ∀ l ∈ ls, begins? l = none) :
    exposed replaced ls = ls := by
  induction ls with
  | nil => rfl
  | cons l ls ih =>
    rw [List.forall_mem_cons] at h
    rw [exposed_plain h.1, ih h.2]

theorem filterMap_begins?_exposed (ls : List String) :
    (exposed replaced ls).filterMap begins? = ls.filterMap begins? := by
  induction ls using region_induction with
  | nil => rfl
  | plain l ls hl ih =>
    rw [exposed_plain hl, List.filterMap_cons_none hl, List.filterMap_cons_none hl, ih]
  | region b q body e ls hb hbody he ih =>
    have hskip : body.filterMap begins? = [] :=
      List.filterMap_eq_nil_iff.2 fun l hl => (hbody l hl).1
    rw [exposed_region hb hbody he, List.filterMap_cons_some hb, List.filterMap_cons_some hb,
      List.filterMap_append, List.filterMap_append, hskip,
      List.filterMap_cons_none (begins?_of_ends? he),
      List.filterMap_cons_none (begins?_of_ends? he), ih]
    split <;> simp [hskip]
  | stray b q ls hb h ih =>
    rw [exposed_stray hb h, List.filterMap_cons_some hb, List.filterMap_cons_some hb, ih]

end Exposed

/-! Lines woven together. -/

/-- The second list consists of the first, in its order, and of lines that may be copied. -/
inductive Woven (copied : String → Prop) : List String → List String → Prop where
  | nil : Woven copied [] []
  | keep {l : String} {kept ls : List String} : Woven copied kept ls →
      Woven copied (l :: kept) (l :: ls)
  | copy {l : String} {kept ls : List String} : copied l → Woven copied kept ls →
      Woven copied kept (l :: ls)

namespace Woven

variable {copied : String → Prop} {kept ls : List String}

theorem sublist (h : Woven copied kept ls) : kept <+ ls := by
  induction h with
  | nil => exact .slnil
  | keep _ ih => exact .cons_cons _ ih
  | copy _ _ ih => exact .cons _ ih

theorem of_sublist (h : kept <+ ls) (hc : ∀ l ∈ ls, copied l) : Woven copied kept ls := by
  induction h with
  | slnil => exact .nil
  | cons l _ ih =>
    rw [List.forall_mem_cons] at hc
    exact .copy hc.1 (ih hc.2)
  | cons_cons l _ ih =>
    rw [List.forall_mem_cons] at hc
    exact .keep (ih hc.2)

theorem filterMap_begins? (h : Woven copied kept ls) (hc : ∀ l, copied l → begins? l = none) :
    ls.filterMap begins? = kept.filterMap begins? := by
  induction h with
  | nil => rfl
  | @keep l _ _ _ ih => cases hl : begins? l <;> simp [hl, ih]
  | copy hl _ ih => rw [List.filterMap_cons_none (hc _ hl), ih]

theorem drop {l : String} (hl : copied l) (h : Woven copied (l :: kept) ls) :
    Woven copied kept ls := by
  induction ls with
  | nil => cases h
  | cons k ls ih =>
    cases h with
    | keep h => exact .copy hl h
    | copy hk h => exact .copy hk (ih h)

theorem cons_cons_iff {l : String} : Woven copied (l :: kept) (l :: ls) ↔ Woven copied kept ls := by
  constructor
  · intro h
    cases h with
    | keep h => exact h
    | copy hl h => exact h.drop hl
  · exact .keep

theorem append_append_iff (body : List String) :
    Woven copied (body ++ kept) (body ++ ls) ↔ Woven copied kept ls := by
  induction body with
  | nil => rfl
  | cons l body ih => rw [List.cons_append, List.cons_append, cons_cons_iff, ih]

theorem cons_append_iff {e : String} {body : List String} (hc : ∀ l ∈ body, copied l)
    (he : e ∉ body) :
    Woven copied (e :: kept) (body ++ e :: ls) ↔ Woven copied kept ls := by
  induction body with
  | nil => exact cons_cons_iff
  | cons l body ih =>
    rw [List.forall_mem_cons] at hc
    rw [List.mem_cons, not_or] at he
    rw [← ih hc.2 he.2]
    constructor
    · intro h
      cases h with
      | keep h => exact absurd rfl he.1
      | copy _ h => exact h
    · exact .copy hc.1

end Woven

/-! The lines that merging passes over. -/

/-- No generated line is lost where bodies are replaced: a region that is refilled closes, or else
what follows its beginning is in the body put there. -/
def NoneLost (replacement : String → Option (List String)) (ls : List String) : Prop :=
  ∀ b rest q body, b :: rest <:+ ls → begins? b = some q → replacement q = some body →
    Closes q rest ∨ ((∀ l ∈ rest, begins? l = none) ∧ rest <+ body)

section NoneLost

variable {replacement : String → Option (List String)}

theorem noneLost_cons {l : String} {ls : List String} : NoneLost replacement (l :: ls) ↔
    (∀ q body, begins? l = some q → replacement q = some body →
      Closes q ls ∨ ((∀ k ∈ ls, begins? k = none) ∧ ls <+ body)) ∧ NoneLost replacement ls := by
  constructor
  · intro h
    exact ⟨fun q body hl hq => h l ls q body List.suffix_rfl hl hq,
      fun b rest q body hs hb hq => h b rest q body (hs.trans (List.suffix_cons l ls)) hb hq⟩
  · rintro ⟨hl, hls⟩ b rest q body hs hb hq
    rcases List.suffix_cons_iff.1 hs with heq | hs
    · obtain ⟨rfl, rfl⟩ := List.cons.inj heq
      exact hl q body hb hq
    · exact hls b rest q body hs hb hq

theorem noneLost_plain {l : String} {ls : List String} (hl : begins? l = none) :
    NoneLost replacement (l :: ls) ↔ NoneLost replacement ls := by
  rw [noneLost_cons]
  exact and_iff_right fun q body hq => by rw [hl] at hq; cases hq

theorem noneLost_append {body ls : List String} (hbody : ∀ l ∈ body, begins? l = none) :
    NoneLost replacement (body ++ ls) ↔ NoneLost replacement ls := by
  induction body with
  | nil => rfl
  | cons l body ih =>
    rw [List.forall_mem_cons] at hbody
    rw [List.cons_append, noneLost_plain hbody.1, ih hbody.2]

theorem noneLost_of_no_begins {ls : List String} (h : ∀ l ∈ ls, begins? l = none) :
    NoneLost replacement ls := by
  intro b rest q body hs hb
  rw [h b (hs.subset List.mem_cons_self)] at hb
  cases hb

theorem noneLost_region {b q e : String} {body ls : List String} (hb : begins? b = some q)
    (hbody : IsBody q body) (he : ends? e = some q) :
    NoneLost replacement (b :: (body ++ e :: ls)) ↔ NoneLost replacement ls := by
  have hcloses : Closes q (body ++ e :: ls) := ⟨body, e, ls, rfl, fun l hl => (hbody l hl).1, he⟩
  rw [noneLost_cons, noneLost_append fun l hl => (hbody l hl).1,
    noneLost_plain (begins?_of_ends? he)]
  refine and_iff_right ?_
  intro p kept hp _
  rw [hb, Option.some.injEq] at hp
  exact .inl (hp ▸ hcloses)

theorem noneLost_stray {b q : String} {ls : List String} (hb : begins? b = some q)
    (h : ¬ Closes q ls) :
    NoneLost replacement (b :: ls) ↔
      (∀ body, replacement q = some body → (∀ l ∈ ls, begins? l = none) ∧ ls <+ body) ∧
        NoneLost replacement ls := by
  rw [noneLost_cons]
  refine and_congr_left' ⟨?_, ?_⟩
  · intro hl body hq
    exact (hl q body hb hq).resolve_left h
  · intro hl p body hp hq
    rw [hb, Option.some.injEq] at hp
    subst hp
    exact .inr (hl body hq)

theorem filterMap_begins?_left (hbody : ∀ q body, replacement q = some body → IsBody q body)
    (skipping : Option String) (l : String) :
    (left replacement skipping l).filterMap begins? <+ [l].filterMap begins? := by
  have hput : (((begins? l).bind replacement).getD []).filterMap begins? = [] := by
    cases hb : (begins? l).bind replacement with
    | none => rfl
    | some body =>
      obtain ⟨q, -, hq⟩ := Option.bind_eq_some_iff.1 hb
      exact List.filterMap_eq_nil_iff.2 fun k hk => (hbody q body hq k hk).1
  cases skipping with
  | some q => by_cases he : ends? l = some q <;> simp [left, he]
  | none =>
    rw [left, ← List.singleton_append, List.filterMap_append, hput, List.append_nil]

theorem filterMap_begins?_splice (hbody : ∀ q body, replacement q = some body → IsBody q body)
    (skipping : Option String) (ls : List String) :
    (splice replacement skipping ls).filterMap begins? <+ ls.filterMap begins? := by
  induction ls generalizing skipping with
  | nil => exact List.nil_sublist _
  | cons l ls ih =>
    rw [splice_cons, ← List.singleton_append, List.filterMap_append, List.filterMap_append]
    exact (filterMap_begins?_left hbody skipping l).append (ih _)

theorem not_woven_of_passed {replaced : String → Bool} {copied : String → Prop} {q b p : String}
    {kept passed rest : List String} (hbody : ∀ q body, replacement q = some body → IsBody q body)
    (hplain : ∀ l, copied l → begins? l = none) (hkept : IsBody q kept) (hpassed : IsBody q passed)
    (hb : begins? b = some p) : ¬ Woven copied (exposed replaced (passed ++ b :: rest))
      (kept ++ splice replacement (some q) (passed ++ b :: rest)) := by
  intro hw
  have hno : ∀ ls, IsBody q ls → ls.filterMap begins? = [] :=
    fun ls hls => List.filterMap_eq_nil_iff.2 fun l hl => (hls l hl).1
  have hb' : ∀ l ∈ [b], ends? l ≠ some q := by simp [ends?_of_begins? hb]
  have hpass : splice replacement (some q) (passed ++ ([b] ++ rest)) =
      splice replacement (some q) rest := by
    rw [splice_pass fun l hl => (hpassed l hl).2, splice_pass hb']
  -- there is one beginning more to be kept than replacing can leave
  have hcount := hw.filterMap_begins? hplain
  rw [← List.singleton_append, filterMap_begins?_exposed, hpass, List.filterMap_append,
    List.filterMap_append, hno kept hkept, hno passed hpassed, List.singleton_append,
    List.filterMap_cons_some hb] at hcount
  have hle := (filterMap_begins?_splice hbody (some q) rest).length_le
  rw [List.nil_append, List.nil_append] at hcount
  rw [hcount, List.length_cons] at hle
  omega

/-- Replacing bodies keeps the lines outside them exactly if no generated line is lost. The
induction is on the pieces of the lines; only a stray beginning that is refilled can lose any. -/
theorem woven_splice_iff {replaced : String → Bool} {copied : String → Prop} {ls : List String}
    (hbody : ∀ q body, replacement q = some body → IsBody q body)
    (hcopied : ∀ q body, replacement q = some body → ∀ l ∈ body, copied l)
    (hplain : ∀ l, copied l → begins? l = none)
    (hreplaced : ∀ r ∈ complete none ls, replaced r.qualifier = (replacement r.qualifier).isSome) :
    Woven copied (exposed replaced ls) (splice replacement none ls) ↔ NoneLost replacement ls := by
  induction ls using region_induction with
  | nil =>
    exact ⟨fun _ => noneLost_of_no_begins fun l hl => absurd hl List.not_mem_nil, fun _ => .nil⟩
  | plain l ls hl ih =>
    rw [complete_plain hl] at hreplaced
    rw [exposed_plain hl, splice_plain hl, Woven.cons_cons_iff, noneLost_plain hl, ih hreplaced]
  | region b q body e ls hb hb' he ih =>
    rw [complete_region hb hb' he, List.forall_mem_cons] at hreplaced
    rw [exposed_region hb hb' he, splice_region hb hb' he, Woven.cons_cons_iff,
      noneLost_region hb hb' he, ← ih hreplaced.2, hreplaced.1]
    cases hq : replacement q with
    | none => exact Woven.append_append_iff body |>.trans Woven.cons_cons_iff
    | some kept =>
      exact Woven.cons_append_iff (hcopied q kept hq) fun h => (hbody q kept hq e h).2 he
  | stray b q ls hb h ih =>
    rw [complete_stray hb h] at hreplaced
    rw [exposed_stray hb h, noneLost_stray hb h]
    cases hq : replacement q with
    | none => simp [splice_begin_none hb hq, Woven.cons_cons_iff, ih hreplaced]
    | some kept =>
      rw [splice_begin_some hb hq, Woven.cons_cons_iff]
      rcases exists_begins_of_not_closes h with hrest | ⟨passed, b', p, rest, rfl, hpassed, hb'⟩
      · -- nothing but plain lines is passed over: they are kept if the body put there has them
        have hno : ∀ l ∈ ls, begins? l = none := fun l hl => (hrest l hl).1
        have hend : splice replacement (some q) (ls ++ []) = splice replacement (some q) [] :=
          splice_pass fun l hl => (hrest l hl).2
        rw [List.append_nil] at hend
        rw [exposed_of_no_begins hno, hend, splice_nil, List.append_nil]
        constructor
        · intro hw
          exact ⟨fun kept' hk => ⟨hno, Option.some.inj hk ▸ hw.sublist⟩, noneLost_of_no_begins hno⟩
        · intro hn
          exact .of_sublist (hn.1 kept rfl).2 (hcopied q kept hq)
      · refine iff_of_false (not_woven_of_passed hbody hplain (hbody q kept hq) hpassed hb') ?_
        intro hn
        have hno := (hn.1 kept rfl).1 b' (List.mem_append_right _ List.mem_cons_self)
        rw [hb'] at hno
        cases hno

end NoneLost

theorem spells_merge (generated onDisk : String) :
    Text.Spells (mergedLines generated onDisk) (merge generated onDisk).toList := by
  unfold merge
  split
  next h =>
    rw [mergedLines_of_isEmpty h]
    exact Text.spells_lines generated
  next h =>
    exact Text.spells_ofLines (fun l hl => newline_not_mem_mergedLines hl)
      fun hended => mergedLines_ne_nil (Text.lines_ne_nil_of_ended hended)

def BodyLine (onDisk l : String) : Prop := ∃ q body, (extract onDisk).get? q = some body ∧ l ∈ body

/-- The merged text consists of the generated lines outside the bodies that are replaced, in their
order, and of lines from bodies on disk, exactly if no generated line is lost. -/
theorem merge_keeps_generated_iff (generated onDisk : String) :
    Text.Spells (mergedLines generated onDisk) (merge generated onDisk).toList ∧
      (Woven (BodyLine onDisk) (exposed (extract onDisk).contains (Text.lines generated))
          (mergedLines generated onDisk) ↔
        NoneLost (shared (extract generated) (extract onDisk)) (Text.lines generated)) := by
  refine ⟨spells_merge generated onDisk, woven_splice_iff (fun q body h => isBody_of_shared h) ?_ ?_
    ?_⟩
  · intro q body h l hl
    unfold shared at h
    split at h
    · exact ⟨q, body, h, hl⟩
    · cases h
  · rintro l ⟨q, body, h, hl⟩
    exact (isBody_of_get?_extract h l hl).1
  · intro r hr
    have hclosed : (extract generated).contains r.qualifier = true :=
      contains_bodies_iff.2 ⟨r, hr, rfl⟩
    rw [shared, if_pos hclosed, Dict.contains]

def reopened : String := "ANG:BEGIN_CUSTOM a\nANG:END_CUSTOM a\nANG:BEGIN_CUSTOM a\nz\n"

def emptied : String := "ANG:BEGIN_CUSTOM a\nANG:END_CUSTOM a\n"

/-- What follows the second beginning is lost. -/
theorem merge_loses_unclosed_tail :
    merge reopened emptied = "ANG:BEGIN_CUSTOM a\nANG:END_CUSTOM a\nANG:BEGIN_CUSTOM a\n" ∧
      "z" ∈ exposed (extract emptied).contains (Text.lines reopened) ∧
      ¬ Woven (BodyLine emptied) (exposed (extract emptied).contains (Text.lines reopened))
        (mergedLines reopened emptied) := by
  have hlines : Text.lines reopened = ["ANG:BEGIN_CUSTOM a", "ANG:END_CUSTOM a",
      "ANG:BEGIN_CUSTOM a", "z"] :=
    (Text.lines_ofList _).trans rfl
  have hlines' : Text.lines emptied = ["ANG:BEGIN_CUSTOM a", "ANG:END_CUSTOM a"] :=
    (Text.lines_ofList _).trans rfl
  have hold : extract emptied = [("a", [])] := by
    rw [extract, hlines']
    decide +kernel
  have hmerged : mergedLines reopened emptied =
      ["ANG:BEGIN_CUSTOM a", "ANG:END_CUSTOM a", "ANG:BEGIN_CUSTOM a"] := by
    rw [mergedLines, hold, extract, hlines]
    decide +kernel
  have hz : "z" ∈ exposed (extract emptied).contains (Text.lines reopened) := by
    rw [hold, hlines]
    decide +kernel
  refine ⟨?_, hz, fun h => ?_⟩
  · have hended : Text.endsWith reopened "\n" = true := by
      rw [Text.endsWith_newline_iff, reopened, String.toList_ofList]
      rfl
    rw [merge, hold, hmerged, hended]
    rfl
  · have hin : "z" ∈ mergedLines reopened emptied := h.sublist.subset hz
    rw [hmerged] at hin
    exact absurd hin (by decide)

end GoScaffold.Region
