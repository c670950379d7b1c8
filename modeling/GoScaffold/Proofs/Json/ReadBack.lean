import GoScaffold.Proofs.Dict
import GoScaffold.Proofs.Document.Restoring
import Mathlib.Data.List.Induction

/-! Objects that are read back from their text. A dictionary made of entries has the keys of the
entries, in order, and so an object that is one is read as it was written if each of its values
is. -/

namespace GoScaffold

namespace Dict

variable {α : Type}

theorem ordered_insert {d : Dict α} (h : d.Ordered) (key : String) (value : α) :
    (insert key value d).Ordered := by
  induction d with
  | nil => exact ordered_singleton _
  | cons e d ih =>
    obtain ⟨hfirst, hrest⟩ := List.pairwise_cons.1 h
    rw [insert]
    split_ifs with hsame hbefore
    · exact List.pairwise_cons.2 ⟨hsame ▸ hfirst, hrest⟩
    · refine List.pairwise_cons.2 ⟨fun q hq => ?_, h⟩
      rcases List.mem_cons.1 hq with rfl | hq
      · exact hbefore
      · exact hbefore.trans (hfirst q hq)
    · refine List.pairwise_cons.2 ⟨fun q hq => ?_, ih hrest⟩
      rcases eq_or_mem_of_mem_insert hq with rfl | hq
      · exact lt_of_le_of_ne (not_lt.1 hbefore) (Ne.symm hsame)
      · exact hfirst q hq

theorem nodup_keys {d : Dict α} (h : d.Ordered) : d.keys.Nodup :=
  List.pairwise_map.2 (h.imp fun hlt => ne_of_lt hlt)

theorem ofEntries_concat (entries : List (String × α)) (e : String × α) :
    ofEntries (entries ++ [e]) = insert e.1 e.2 (ofEntries entries) := by
  rw [ofEntries, List.foldl_append]
  rfl

theorem ordered_ofEntries (entries : List (String × α)) : (ofEntries entries).Ordered := by
  induction entries using List.reverseRecOn with
  | nil => exact ordered_nil
  | append_singleton entries e ih =>
    rw [ofEntries_concat]
    exact ordered_insert ih e.1 e.2

theorem mem_keys_ofEntries {entries : List (String × α)} {key : String} :
    key ∈ (ofEntries entries).keys ↔ key ∈ entries.map Prod.fst := by
  induction entries using List.reverseRecOn with
  | nil => exact Iff.rfl
  | append_singleton entries e ih =>
    rw [ofEntries_concat, mem_keys_insert, ih, List.map_append, List.mem_append, List.map_singleton,
      List.mem_singleton, or_comm]

theorem mem_of_mem_ofEntries {entries : List (String × α)} {e : String × α}
    (h : e ∈ ofEntries entries) :
    e ∈ entries := by
  induction entries using List.reverseRecOn with
  | nil => cases h
  | append_singleton entries last ih =>
    rw [ofEntries_concat] at h
    rcases eq_or_mem_of_mem_insert h with rfl | h
    · exact List.mem_append_right _ (List.mem_singleton_self _)
    · exact List.mem_append_left _ (ih h)

theorem mem_ofEntries {entries : List (String × α)} (h : (entries.map Prod.fst).Nodup)
    {e : String × α} :
    e ∈ ofEntries entries ↔ e ∈ entries := by
  refine ⟨mem_of_mem_ofEntries, fun he => ?_⟩
  induction entries using List.reverseRecOn with
  | nil => cases he
  | append_singleton entries last ih =>
    rw [List.map_append, List.map_singleton, List.nodup_append] at h
    obtain ⟨hentries, -, hfresh⟩ := h
    rw [ofEntries_concat]
    rcases List.mem_append.1 he with he | he
    · have hne : e.1 ≠ last.1 :=
        hfresh e.1 (List.mem_map_of_mem he) last.1 (List.mem_singleton_self _)
      exact mem_insert_of_ne hne (ih hentries he)
    · rw [List.mem_singleton.1 he]
      exact mem_insert_self

end Dict

namespace Json

open Document

/-- The value is read from its text wherever one is expected, and nothing else is. -/
structure Reads (j : Json) : Prop where
  document : ∀ fuel rest, (chars j).length ≤ fuel → Delimited rest →
    readValue fuel (chars j ++ rest) = some (ofJson j, rest)
  free : ∀ depth, (ofJson j).height ≤ depth → Reading.free depth (ofJson j) = some j

namespace Reads

theorem of_plain {j : Json} (h : j.Plain) : Reads j :=
  ⟨fun fuel rest => readValue_chars j fuel rest (Restores.free (n := 0) h).integral,
    fun depth => (Restores.free h).read_eq depth depth.lt_succ_self⟩

theorem ofFloat_one : ofFloat (.ofNat 1) = num (.float (.ofNat 1)) := if_pos (by decide +kernel)

theorem chars_one : chars (num (.float (.ofNat 1))) = ['1', '.', '0'] := by decide +kernel

theorem number?_one : Numeral.number? ⟨false, ['1'], some ['0'], none⟩ =
    some (.float (.ofNat 1)) := by
  decide +kernel

theorem read_one {rest : List Char} (hrest : Delimited rest) :
    Numeral.read ('1' :: '.' :: '0' :: rest) = some (⟨false, ['1'], some ['0'], none⟩, rest) := by
  have hfraction : Numeral.readFraction ('.' :: '0' :: rest) = some (some ['0'], rest) := by
    have hdigits : Scientific.IsDigits ['0'] := List.forall_mem_singleton.2 rfl
    have hends := Numeral.endsDigits_of_delimited hrest
    have htake := Scientific.takeWhile_digits hdigits hends
    have hdrop := Scientific.dropWhile_digits hdigits hends
    rw [List.singleton_append] at htake hdrop
    simp [Numeral.readFraction, htake, hdrop]
  have hwhole : Numeral.readWhole ('1' :: '.' :: '0' :: rest) = some (['1'], '.' :: '0' :: rest) :=
    rfl
  simp [Numeral.read, hwhole, hfraction, Numeral.readExponent_delimited hrest]

theorem one : Reads (num (.float (.ofNat 1))) := by
  refine ⟨fun fuel rest hfuel hrest => ?_, fun depth _ => ?_⟩
  · rw [chars_one] at hfuel ⊢
    obtain _ | fuel := fuel
    · simp at hfuel
    · rw [List.cons_append, List.cons_append, List.cons_append, List.nil_append,
        readValue_numeral (.inl (by decide)), read_one hrest, Option.map_some]
      simp only [numeralScalar, number?_one]
      rfl
  · exact (Restores.free_scalar _ depth).trans (congrArg some ofFloat_one)

theorem entries {e : String × Json} {more : List (String × Json)} (h : ∀ q ∈ e :: more, Reads q.2)
    {fuel : Nat} (acc : List (Option String × Document)) (rest : List Char)
    (hfuel : (entryChars (e :: more)).length ≤ fuel) :
    readEntries fuel acc (entryChars (e :: more) ++ rest) =
    some (acc.reverse ++ ofEntries (e :: more), rest) := by
  induction more generalizing e fuel acc with
  | nil =>
    obtain ⟨key, j⟩ := e
    have hj : Reads j := h (key, j) List.mem_cons_self
    simp only [entryChars, List.length_append, List.length_cons] at hfuel
    obtain ⟨fuel, rfl⟩ := Nat.exists_eq_succ_of_ne_zero (n := fuel) (by omega)
    have hvalue := hj.document fuel ('\x7d' :: rest) (by omega) (delimited_cons (by simp))
    rw [entryChars, List.append_assoc, List.cons_append, List.append_assoc, List.singleton_append,
      readEntries_last hvalue]
    rfl
  | cons next more ih =>
    obtain ⟨key, j⟩ := e
    have hj : Reads j := h (key, j) List.mem_cons_self
    simp only [entryChars, List.length_append, List.length_cons] at hfuel
    obtain ⟨fuel, rfl⟩ := Nat.exists_eq_succ_of_ne_zero (n := fuel) (by omega)
    have hvalue := hj.document fuel (',' :: (entryChars (next :: more) ++ rest)) (by omega)
      (delimited_cons (by simp))
    rw [entryChars_cons, readEntries_more hvalue,
      ih (fun q hq => h q (List.mem_cons_of_mem _ hq)) _ (by omega)]
    simp [ofEntries]

theorem obj {entries : List (String × Json)} (hordered : Dict.Ordered entries)
    (h : ∀ e ∈ entries, Reads e.2) :
    Reads (.obj entries) := by
  refine ⟨fun fuel rest hfuel hrest => ?_, fun depth hdepth => ?_⟩
  · cases entries with
    | nil => exact (of_plain (j := .obj []) ⟨hordered, trivial⟩).document fuel rest hfuel hrest
    | cons e more =>
      obtain _ | fuel := fuel
      · simp [chars] at hfuel
      · obtain ⟨cs, hcs⟩ := exists_entryChars e more
        have hlength : (entryChars (e :: more)).length ≤ fuel := by simpa [chars] using hfuel
        have hentries := Reads.entries h [] rest hlength
        rw [chars, List.cons_append]
        rw [hcs, List.append_assoc] at hentries ⊢
        exact readValue_obj hentries
  · obtain _ | depth := depth
    · simp [ofJson, height] at hdepth
    · have hvalue : ∀ e ∈ entries, Reading.entry (Reading.free depth) (some e.1, ofJson e.2) =
          some e := by
        intro e he
        have hlt := height_entry_lt he
        simp [Reading.entry, (h e he).free depth (by omega)]
      rw [ofJson, Reading.free, if_neg (by decide), ofEntries_eq_map,
        mapM_map_eq_some (h := id) hvalue, List.map_id, Option.map_some,
        Dict.ofEntries_of_ordered hordered]

theorem parse?_compact {j : Json} (h : Reads j) (hheight : (ofJson j).height ≤ maxDepth) :
    parse? j.compact = some j := by
  have htext : j.compact.toList = chars j := String.toList_ofList
  have hvalue := h.document ((chars j).length + 1) [] (by omega) delimited_nil
  rw [List.append_nil] at hvalue
  have hdocument : document? j.compact = some (ofJson j) := by
    unfold document?
    dsimp only
    rw [htext, hvalue]
    rfl
  rw [parse?, decode?, hdocument]
  exact h.free maxDepth hheight

end Reads

end Json

end GoScaffold
