import GoScaffold.Document.Reading
import GoScaffold.Proofs.Json.RoundTrip
import Mathlib.Data.String.Basic

/-! Readings that give a value back from its JSON form. A record is restored when each of its fields
is, so a reader and a writer are compared field by field. -/

namespace GoScaffold

namespace Dict

variable {α : Type}

def Ordered (d : Dict α) : Prop := d.Pairwise fun e e' => e.1 < e'.1

theorem ordered_nil : Ordered ([] : Dict α) := List.Pairwise.nil

theorem ordered_singleton (e : String × α) : Ordered [e] := List.pairwise_singleton _ e

theorem insert_last {d : Dict α} {key : String} {value : α} (h : ∀ e ∈ d, e.1 < key) :
    insert key value d = d ++ [(key, value)] := by
  induction d with
  | nil => rfl
  | cons e d ih =>
    have he : e.1 < key := h e List.mem_cons_self
    have hne : key ≠ e.1 := (ne_of_gt he)
    have hlt : ¬key < e.1 := not_lt_of_gt he
    rw [insert, if_neg hne, if_neg hlt, ih fun e' he' => h e' (List.mem_cons_of_mem e he')]
    rfl

theorem ofEntries_of_ordered {d : Dict α} (h : d.Ordered) : ofEntries d = d := by
  have hfold (done todo : Dict α) (hd : (done ++ todo).Pairwise fun e e' => e.1 < e'.1) :
      todo.foldl (fun d e => insert e.1 e.2 d) done = done ++ todo := by
    induction todo generalizing done with
    | nil => simp
    | cons e todo ih =>
      have hlast : ∀ e' ∈ done, e'.1 < e.1 := fun e' he' =>
        (List.pairwise_append.1 hd).2.2 e' he' e List.mem_cons_self
      rw [List.foldl_cons, insert_last hlast, ih (done ++ [e]) (by simpa using hd)]
      simp
  exact hfold [] d h

end Dict

namespace Json

theorem integralItems_iff {items : List Json} : IntegralItems items ↔ ∀ j ∈ items, j.Integral := by
  induction items with
  | nil => simp [IntegralItems]
  | cons j items ih => simp [IntegralItems, ih]

theorem integralEntries_iff {entries : List (String × Json)} :
    IntegralEntries entries ↔ ∀ e ∈ entries, e.2.Integral := by
  induction entries with
  | nil => simp [IntegralEntries]
  | cons e entries ih => simp [IntegralEntries, ih]

end Json

namespace Document

theorem ofItems_eq_map (items : List Json) : ofItems items = items.map ofJson := by
  induction items with
  | nil => rfl
  | cons j items ih => rw [ofItems, ih, List.map_cons]

theorem ofEntries_eq_map (entries : List (String × Json)) :
    ofEntries entries = entries.map fun e => (some e.1, ofJson e.2) := by
  induction entries with
  | nil => rfl
  | cons e entries ih => rw [ofEntries, ih, List.map_cons]

theorem height_item_lt {items : List Json} {j : Json} (hj : j ∈ items) :
    (ofJson j).height < (ofJson (.arr items)).height := by
  have hle : (ofJson j).height ≤ heightItems (ofItems items) := by
    induction items with
    | nil => cases hj
    | cons k items ih =>
      rw [ofItems, heightItems]
      obtain rfl | hj := List.mem_cons.1 hj
      · exact Nat.le_max_left _ _
      · exact (ih hj).trans (Nat.le_max_right _ _)
  exact Nat.lt_succ_of_le hle

theorem height_entry_lt {entries : List (String × Json)} {e : String × Json} (he : e ∈ entries) :
    (ofJson e.2).height < (ofJson (.obj entries)).height := by
  have hle : (ofJson e.2).height ≤ heightEntries (ofEntries entries) := by
    induction entries with
    | nil => cases he
    | cons f entries ih =>
      rw [ofEntries, heightEntries]
      obtain rfl | he := List.mem_cons.1 he
      · exact Nat.le_max_left _ _
      · exact (ih he).trans (Nat.le_max_right _ _)
  exact Nat.lt_succ_of_le hle

end Document

theorem mapM_map_eq_some {α β γ : Type} {f : α → β} {g : β → Option γ} {h : α → γ} {as : List α}
    (hg : ∀ a ∈ as, g (f a) = some (h a)) : (as.map f).mapM g = some (as.map h) := by
  induction as with
  | nil => rfl
  | cons a as ih =>
    rw [List.map_cons, List.mapM_cons, hg a List.mem_cons_self,
      ih fun b hb => hg b (List.mem_cons_of_mem a hb)]
    rfl

open Document

/-- The reading gives the value back from its JSON form, wherever there are fewer than `n` levels
left to open and they suffice. -/
structure Restores {α : Type} (n : Nat) (reading : Reading α) (j : Json) (a : α) : Prop where
  integral : j.Integral
  read_eq : ∀ depth < n, (ofJson j).height ≤ depth → reading depth (ofJson j) = some a

namespace Restores

variable {α : Type} {n : Nat} {reading : Reading α}

theorem text (s : String) : Restores n .text (.str s) s := ⟨trivial, fun _ _ _ => rfl⟩

theorem bool (b : Bool) : Restores n .bool (.bool b) b := ⟨trivial, fun _ _ _ => rfl⟩

theorem int64 {i : Int} (hi : Width.holdsInt 64 i = true) : Restores n .int64 (.int i) i := by
  refine ⟨Width.holdsEither_of_holdsInt hi, fun depth _ _ => ?_⟩
  change (some i).filter (Width.holdsInt 64) = some i
  rw [Option.filter_some, if_pos hi]

theorem absent : Restores n (.optional reading) .null none := ⟨trivial, fun _ _ _ => rfl⟩

theorem list {f : α → Json} {as : List α} (has : ∀ a ∈ as, Restores n reading (f a) a) :
    Restores n (.list reading) (.arr (as.map f)) as := by
  refine ⟨?_, fun depth hn hdepth => ?_⟩
  · show Json.IntegralItems (as.map f)
    rw [Json.integralItems_iff, List.forall_mem_map]
    exact fun a ha => (has a ha).integral
  · obtain _ | depth := depth
    · simp [ofJson, height] at hdepth
    · have hitem : ∀ a ∈ as, reading depth (ofJson (f a)) = some a := fun a ha => by
        have hlt := height_item_lt (List.mem_map_of_mem (f := f) ha)
        exact (has a ha).read_eq depth (by omega) (by omega)
      simp only [ofJson, Reading.list, ofItems_eq_map, List.map_map]
      rw [mapM_map_eq_some (h := id) (by simpa using hitem), List.map_id]

theorem texts (l : List String) : Restores n (.list .text) (.strs l) l := list fun s _ => text s

theorem within {readWithin : Nat → Reading α} {j : Json} {a : α}
    (h : ∀ n, Restores (n + 1) (readWithin (n + 1)) j a) (n : Nat) :
    Restores n (readWithin n) j a := by
  cases n with
  | zero => exact ⟨(h 0).integral, fun depth hdepth => absurd hdepth depth.not_lt_zero⟩
  | succ n => exact h n

theorem of_within {readWithin : Nat → Reading α} {j : Json} {a : α}
    (h : ∀ n, Restores n (readWithin n) j a) :
    Restores n (fun depth d => readWithin (depth + 1) depth d) j a :=
  ⟨(h 0).integral, fun depth _ hdepth => (h (depth + 1)).read_eq depth depth.lt_succ_self hdepth⟩

theorem entries {f : α → Json} {d : Dict α} (hd : ∀ e ∈ d, Restores n reading (f e.2) e.2)
    {depth : Nat} (hn : depth + 1 < n)
    (hdepth : (ofJson (.obj (d.map fun e => (e.1, f e.2)))).height ≤ depth + 1) :
    (ofEntries (d.map fun e => (e.1, f e.2))).mapM (Reading.entry (reading depth)) = some d := by
  rw [ofEntries_eq_map, List.map_map, mapM_map_eq_some (h := id), List.map_id]
  intro e he
  have hlt : (ofJson (f e.2)).height < _ :=
    height_entry_lt (List.mem_map_of_mem (f := fun e => (e.1, f e.2)) he)
  have hread := (hd e he).read_eq depth (by omega) (by omega)
  simp [Reading.entry, hread]

theorem integral_obj {f : α → Json} {d : Dict α} (hd : ∀ e ∈ d, (f e.2).Integral) :
    (Json.obj (d.map fun e => (e.1, f e.2))).Integral := by
  show Json.IntegralEntries _
  rw [Json.integralEntries_iff, List.forall_mem_map]
  exact hd

theorem dict {f : α → Json} {d : Dict α} (hordered : d.Ordered)
    (hd : ∀ e ∈ d, Restores n reading (f e.2) e.2) :
    Restores n (.dict reading) (.obj (d.map fun e => (e.1, f e.2))) d := by
  refine ⟨integral_obj fun e he => (hd e he).integral, fun depth hn hdepth => ?_⟩
  obtain _ | depth := depth
  · simp [ofJson, height] at hdepth
  · simp only [ofJson, Reading.dict]
    rw [entries hd hn hdepth, Option.map_some, Dict.ofEntries_of_ordered hordered]

theorem optional_ofJson {j : Json} (hj : j ≠ .null) (depth : Nat) :
    Reading.optional reading depth (ofJson j) = (reading depth (ofJson j)).map some := by
  rcases j with _ | _ | (_ | _) | _ | _ | _
  · exact absurd rfl hj
  all_goals rfl

theorem optional {f : α → Json} {o : Option α} (hf : ∀ a, f a ≠ .null)
    (ho : ∀ a ∈ o, Restores n reading (f a) a) :
    Restores n (.optional reading) (.ofOption f o) o := by
  cases o with
  | none => exact absent
  | some a =>
    have ha := ho a rfl
    refine ⟨ha.integral, fun depth hn hdepth => ?_⟩
    have hread := ha.read_eq depth hn hdepth
    rw [Json.ofOption, optional_ofJson (hf a), hread, Option.map_some]

end Restores

namespace Json

mutual

/-- The value is written as it is read: its numbers are integers of 64 bits, with or without sign,
and the keys of its objects are distinct and in order. -/
def Plain : Json → Prop
  | null => True
  | bool _ => True
  | num (.int i) => Width.holdsEither 64 i = true
  | num (.float _) => False
  | str _ => True
  | arr items => PlainItems items
  | obj entries => Dict.Ordered entries ∧ PlainEntries entries

def PlainItems : List Json → Prop
  | [] => True
  | j :: rest => j.Plain ∧ PlainItems rest

def PlainEntries : List (String × Json) → Prop
  | [] => True
  | (_, j) :: rest => j.Plain ∧ PlainEntries rest

end

end Json

namespace Restores

variable {n : Nat}

theorem free_scalar (s : Scalar) (depth : Nat) : Reading.free depth (.scalar s) = s.free := by
  cases depth <;> rfl

theorem arr {items : List Json} (h : ∀ j ∈ items, Restores n .free j j) :
    Restores n .free (.arr items) (.arr items) := by
  have hlist : Restores n (.list .free) (.arr items) items := by
    simpa using list (f := id) h
  refine ⟨hlist.integral, fun depth hn hdepth => ?_⟩
  have hfree : Reading.free depth (ofJson (.arr items)) =
      (Reading.list .free depth (ofJson (.arr items))).map .arr := by
    cases depth <;> rfl
  rw [hfree, hlist.read_eq depth hn hdepth, Option.map_some]

theorem metadata {d : Dict Json} (hordered : d.Ordered) (h : ∀ e ∈ d, Restores n .free e.2 e.2) :
    Restores n (.dict .free) (.obj d) d := by
  simpa using dict (f := id) hordered h

theorem obj {entries : List (String × Json)} (hordered : Dict.Ordered entries)
    (h : ∀ e ∈ entries, Restores n .free e.2 e.2) :
    Restores n .free (.obj entries) (.obj entries) := by
  have hdict := metadata hordered h
  refine ⟨hdict.integral, fun depth hn hdepth => ?_⟩
  have hfree : Reading.free depth (ofJson (.obj entries)) =
      (Reading.dict .free depth (ofJson (.obj entries))).map .obj := by
    cases depth with
    | zero => rfl
    | succ depth => exact (Option.map_map _ _ _).symm
  rw [hfree, hdict.read_eq depth hn hdepth, Option.map_some]

mutual

theorem free : ∀ {j : Json}, j.Plain → Restores n .free j j
  | .null, _ => ⟨trivial, fun depth _ _ => free_scalar _ depth⟩
  | .bool _, _ => ⟨trivial, fun depth _ _ => free_scalar _ depth⟩
  | .num (.int _), h => ⟨h, fun depth _ _ => free_scalar _ depth⟩
  | .num (.float _), h => h.elim
  | .str _, _ => ⟨trivial, fun depth _ _ => free_scalar _ depth⟩
  | .arr _, h => arr (free_items h)
  | .obj _, h => obj h.1 (free_entries h.2)

theorem free_items : ∀ {items : List Json}, Json.PlainItems items →
    ∀ j ∈ items, Restores n .free j j
  | [], _, _, hj => nomatch hj
  | _ :: _, h, _, .head _ => free h.1
  | _ :: _, h, _, .tail _ hj => free_items h.2 _ hj

theorem free_entries : ∀ {entries : List (String × Json)}, Json.PlainEntries entries →
    ∀ e ∈ entries, Restores n .free e.2 e.2
  | [], _, _, he => nomatch he
  | (_, _) :: _, h, _, .head _ => free h.1
  | (_, _) :: _, h, _, .tail _ he => free_entries h.2 _ he

end

end Restores

/-- Every key leads to the field that it is the key of, and no two fields have one key. -/
def SelfNamed (keys : List FieldKey) : Prop :=
  (keys.map FieldKey.key).Nodup ∧ ∀ f ∈ keys,
    (keys.find? fun g => g.key == f.key || g.aliases.contains f.key).map FieldKey.key = some f.key

instance (keys : List FieldKey) : Decidable (SelfNamed keys) := inferInstanceAs (Decidable (_ ∧ _))

namespace Fields

theorem collect_ofEntries {keys : List FieldKey} {entries : List (String × Json)}
    (fields : List (String × Document))
    (hfind : ∀ e ∈ entries, (keys.find? fun g => g.key == e.1 || g.aliases.contains e.1).map
      FieldKey.key = some e.1)
    (hnodup : (fields.map Prod.fst ++ entries.map Prod.fst).Nodup) :
    collect keys (ofEntries entries) fields =
      some (fields ++ entries.map fun e => (e.1, ofJson e.2)) := by
  induction entries generalizing fields with
  | nil => simp [ofEntries, collect]
  | cons e entries ih =>
    obtain ⟨g, hg, hkey⟩ := Option.map_eq_some_iff.1 (hfind e List.mem_cons_self)
    have hnew : List.lookup e.1 fields = none := by
      rw [List.lookup_eq_none_iff]
      intro f hf
      rw [List.map_cons, List.nodup_append] at hnodup
      have hne := hnodup.2.2 f.1 (List.mem_map_of_mem hf) e.1 List.mem_cons_self
      simpa using fun h => hne h.symm
    have hadd : add? fields g.key (ofJson e.2) = some (fields ++ [(e.1, ofJson e.2)]) := by
      simp [add?, hkey, hnew]
    rw [ofEntries, collect, hg]
    simp only [hadd, Option.bind_some]
    rw [ih _ (fun f hf => hfind f (List.mem_cons_of_mem e hf)) (by simpa using hnodup)]
    simp

theorem open?_obj {keys : List FieldKey} {entries : List (String × Json)}
    (hkeys : entries.map Prod.fst = keys.map FieldKey.key) (hself : SelfNamed keys) (depth : Nat) :
    open? keys (depth + 1) (ofJson (.obj entries)) =
      some ⟨depth, entries.map fun e => (e.1, ofJson e.2)⟩ := by
  have hfind : ∀ e ∈ entries, (keys.find? fun g => g.key == e.1 || g.aliases.contains e.1).map
      FieldKey.key = some e.1 := by
    intro e he
    have hmem : e.1 ∈ keys.map FieldKey.key := hkeys ▸ List.mem_map_of_mem he
    obtain ⟨f, hf, hfe⟩ := List.mem_map.1 hmem
    exact hfe ▸ hself.2 f hf
  have hcollect := collect_ofEntries [] hfind (by simpa [hkeys] using hself.1)
  simp [ofJson, open?, hcollect]

@[simp] theorem read_cons {α : Type} (depth : Nat) (k : String) (d : Document)
    (given : List (String × Document)) (key : String) (reading : Reading α) (default : α) :
    read ⟨depth, (k, d) :: given⟩ key reading default =
      if key = k then reading depth d else read ⟨depth, given⟩ key reading default := by
  by_cases h : key = k
  · simp [read, h]
  · have hne : (key == k) = false := beq_eq_false_iff_ne.2 h
    simp [read, List.lookup_cons, hne, h]

end Fields

section Parts

@[simp] theorem Json.integral_str (s : String) : (Json.str s).Integral := trivial

@[simp] theorem Json.integral_bool (b : Bool) : (Json.bool b).Integral := trivial

@[simp] theorem Json.integral_int {i : Int} (hi : Width.holdsInt 64 i = true) :
    (Json.int i).Integral :=
  Width.holdsEither_of_holdsInt hi

@[simp] theorem Json.integral_strs (l : List String) : (Json.strs l).Integral :=
  (Restores.texts (n := 0) l).integral

variable (depth : Nat)

@[simp] theorem Reading.text_ofJson (s : String) : text depth (ofJson (.str s)) = some s :=
  (Restores.text s).read_eq depth depth.lt_succ_self depth.zero_le

@[simp] theorem Reading.bool_ofJson (b : Bool) : bool depth (ofJson (.bool b)) = some b :=
  (Restores.bool b).read_eq depth depth.lt_succ_self depth.zero_le

@[simp] theorem Reading.int64_ofJson {i : Int} (hi : Width.holdsInt 64 i = true) :
    int64 depth (ofJson (.int i)) = some i :=
  (Restores.int64 hi).read_eq depth depth.lt_succ_self depth.zero_le

@[simp] theorem Reading.texts_ofJson {l : List String}
    (hdepth : (ofJson (.strs l)).height ≤ depth) :
    list text depth (ofJson (.strs l)) = some l :=
  (Restores.texts l).read_eq depth depth.lt_succ_self hdepth

end Parts

/-- A record is restored when its fields are, one level further down. -/
theorem Restores.record {α : Type} {m n : Nat} (hm : m ≤ n + 1) {keys : List FieldKey}
    {build : Fields → Option α}
    {entries : List (String × Json)} {a : α}
    (hkeys : entries.map Prod.fst = keys.map FieldKey.key) (hself : SelfNamed keys)
    (hintegral : ∀ e ∈ entries, e.2.Integral)
    (hbuild : ∀ depth < n, (∀ e ∈ entries, (ofJson e.2).height ≤ depth) →
      build ⟨depth, entries.map fun e => (e.1, ofJson e.2)⟩ = some a) :
    Restores m (fun depth d => (Fields.open? keys depth d).bind build) (.obj entries) a := by
  refine ⟨Json.integralEntries_iff.2 hintegral, fun depth hdepthm hdepth => ?_⟩
  obtain _ | depth := depth
  · simp [ofJson, height] at hdepth
  · rw [Fields.open?_obj hkeys hself, Option.bind_some]
    apply hbuild depth (by omega)
    intro e he
    have hlt := height_entry_lt he
    omega

end GoScaffold
