import GoScaffold.Emission
import GoScaffold.Proofs.Emission.Fixpoint
import GoScaffold.Proofs.Region.Body

/-! What is written by hand, after a write. The file may hold any bytes; lines of them that stand
between the markers of a region are a body. A write keeps the body where both the file and the new
code are texts and merging keeps it, and leaves the new code alone otherwise. -/

namespace GoScaffold

namespace Region

/-! Bodies among bytes. -/

def beginsBytes? (l : List UInt8) : Option String := (Text.decoded? l).bind begins?

def endsBytes? (l : List UInt8) : Option String := (Text.decoded? l).bind ends?

def HasRegion (q : String) (bytes : ByteArray) : Prop :=
  ∃ inner, Encloses beginsBytes? endsBytes? q inner (Text.byteLines bytes.data.toList) ∧
    ∀ l ∈ inner, beginsBytes? l = none

/-- The bytes hold the lines between the markers of a region, and no line among them is a marker. -/
def Holds (q : String) (body : List (List UInt8)) (bytes : ByteArray) : Prop :=
  Encloses beginsBytes? endsBytes? q body (Text.byteLines bytes.data.toList) ∧
    ∀ l ∈ body, beginsBytes? l = none ∧ endsBytes? l = none

@[simp] theorem beginsBytes?_encoded (l : String) : beginsBytes? (Text.encoded l) = begins? l := by
  simp [beginsBytes?, Text.decoded?_encoded]

@[simp] theorem endsBytes?_encoded (l : String) : endsBytes? (Text.encoded l) = ends? l := by
  simp [endsBytes?, Text.decoded?_encoded]

theorem encloses_toUTF8_iff {q : String} {body : List (List UInt8)} {text : String} :
    Encloses beginsBytes? endsBytes? q body (Text.byteLines text.toUTF8.data.toList) ↔
      ∃ inner, body = inner.map Text.encoded ∧
        Encloses begins? ends? q inner (Text.lines text) := by
  have hbegins : beginsBytes? ∘ Text.encoded = begins? := funext beginsBytes?_encoded
  have hends : endsBytes? ∘ Text.encoded = ends? := funext endsBytes?_encoded
  change Encloses beginsBytes? endsBytes? q body (Text.byteLines (Text.encoded text)) ↔ _
  rw [Text.byteLines_encoded, encloses_map, hbegins, hends]

theorem contains_of_hasRegion {q text : String} (h : HasRegion q text.toUTF8) :
    (extract text).contains q = true := by
  obtain ⟨inner, hbytes, hinner⟩ := h
  obtain ⟨ls, rfl, hlines⟩ := encloses_toUTF8_iff.1 hbytes
  apply contains_of_encloses hlines
  intro l hl
  rw [← beginsBytes?_encoded]
  exact hinner _ (List.mem_map_of_mem hl)

theorem Holds.hasRegion {q : String} {body : List (List UInt8)} {bytes : ByteArray}
    (h : Holds q body bytes) :
    HasRegion q bytes := ⟨body, h.1, fun l hl => (h.2 l hl).1⟩

/-- Merging a new text into the old one keeps the body: it is the first with its qualifier in the
old text, with no carriage return at the end of a line, and the region is reached in the new one. -/
def MergeKeeps (q : String) (body : List (List UInt8)) (old new : String) : Prop :=
  (∃ first, (extract old).get? q = some first ∧
      body = (first.map Text.withoutReturn).map Text.encoded) ∧
    Reached (shared (extract new) (extract old)) q (Text.lines new)

/-- The body survives when generated bytes take the place of those on disk: merging keeps it if both
are texts, and otherwise the generated bytes happen to hold it. -/
def Survives (q : String) (body : List (List UInt8)) (onDisk generated : ByteArray) : Prop :=
  match String.fromUTF8? onDisk, String.fromUTF8? generated with
  | some old, some new => MergeKeeps q body old new
  | _, _ => Holds q body generated

theorem holds_merge_iff {q : String} {body : List (List UInt8)} {old new : String}
    (hregion : HasRegion q new.toUTF8) (hbody : Holds q body old.toUTF8) :
    Holds q body (merge new old).toUTF8 ↔ MergeKeeps q body old new := by
  obtain ⟨first, hfirst⟩ := Dict.contains_iff.1 (contains_of_hasRegion hbody.hasRegion)
  have hmerge : ∀ inner : List String, body = inner.map Text.encoded →
      (Encloses begins? ends? q inner (Text.lines (merge new old)) ↔
        inner = first.map Text.withoutReturn ∧
        Reached (shared (extract new) (extract old)) q (Text.lines new)) := by
    rintro inner rfl
    apply encloses_merge_iff (contains_of_hasRegion hregion) hfirst
    intro l hl
    simpa using hbody.2 _ (List.mem_map_of_mem hl)
  unfold Holds MergeKeeps
  rw [encloses_toUTF8_iff, and_iff_left hbody.2]
  constructor
  · rintro ⟨inner, hinner, henclosed⟩
    obtain ⟨rfl, hreached⟩ := (hmerge inner hinner).1 henclosed
    exact ⟨⟨first, hfirst, hinner⟩, hreached⟩
  · rintro ⟨⟨first', hfirst', hinner⟩, hreached⟩
    obtain rfl : first = first' := Option.some.inj (hfirst.symm.trans hfirst')
    exact ⟨_, hinner, (hmerge _ hinner).2 ⟨rfl, hreached⟩⟩

end Region

namespace Emitter
open Region (HasRegion Holds Survives)

theorem holds_mergeRegions_iff {q : String} {body : List (List UInt8)}
    {onDisk generated : ByteArray}
    (hregion : HasRegion q generated) (hbody : Holds q body onDisk) :
    Holds q body (mergeRegions (some onDisk) generated) ↔ Survives q body onDisk generated := by
  unfold Survives
  cases hold : String.fromUTF8? onDisk with
  | none =>
    have hnone : (some onDisk).bind String.fromUTF8? = none := hold
    rw [mergeRegions_no_text (.inl hnone)]
  | some old =>
    cases hnew : String.fromUTF8? generated with
    | none => rw [mergeRegions_no_text (.inr hnew)]
    | some new =>
      rw [← Text.toUTF8_of_fromUTF8? hold] at hbody
      rw [← Text.toUTF8_of_fromUTF8? hnew] at hregion
      rw [mergeRegions_texts hold hnew]
      exact Region.holds_merge_iff hregion hbody

/-- A write leaves bytes that hold a body which the file held before exactly where the body
survives. The formatter can be any function, and the file can hold any bytes. -/
theorem writeText_keeps_body_iff (e : Emitter) (tree tree' : FileTree) (path text q : String)
    (body : List (List UInt8)) (formatted onDisk : ByteArray) (outcome : WriteOutcome)
    (hformat : e.processor.process text.toUTF8 path = .ok formatted)
    (hregion : HasRegion q formatted)
    (hread : tree.read? (e.target path) = some onDisk) (hbody : Holds q body onDisk)
    (h : e.writeText tree path text = .ok (tree', outcome)) :
    ∃ bytes, tree'.read? (e.target path) = some bytes ∧
      (Holds q body bytes ↔ Survives q body onDisk formatted) := by
  obtain ⟨formatted', hformat', hw⟩ := writeText_eq_ok h
  obtain rfl : formatted = formatted' := Except.ok.inj (hformat.symm.trans hformat')
  refine ⟨mergeRegions (some onDisk) formatted, ?_, holds_mergeRegions_iff hregion hbody⟩
  rw [← hread]
  exact FileTree.read?_writeIfChanged hw

end Emitter

/-! A file that is a text, and one that is not. -/

namespace Region

def filled : String := "ANG:BEGIN_CUSTOM a\r\nx\r\nANG:END_CUSTOM a\r\n"

theorem lines_filled : Text.lines filled = ["ANG:BEGIN_CUSTOM a", "x", "ANG:END_CUSTOM a"] :=
  (Text.lines_ofList _).trans rfl

def undecodable : ByteArray := ⟨([255] ++ 10 :: Text.encoded filled).toArray⟩

theorem fromUTF8?_undecodable : String.fromUTF8? undecodable = none := by decide +kernel

theorem no_marker_x : begins? "x" = none ∧ ends? "x" = none := by decide +kernel

theorem holds_filled : Holds "a" [Text.encoded "x"] filled.toUTF8 := by
  have hlines : Encloses begins? ends? "a" ["x"] (Text.lines filled) :=
    ⟨[], "ANG:BEGIN_CUSTOM a", "ANG:END_CUSTOM a", [], lines_filled, begins?_a, ends?_a⟩
  refine ⟨encloses_toUTF8_iff.2 ⟨["x"], rfl, hlines⟩, ?_⟩
  intro l hl
  rw [List.mem_singleton.1 hl, beginsBytes?_encoded, endsBytes?_encoded]
  exact no_marker_x

theorem holds_undecodable : Holds "a" [Text.encoded "x"] undecodable := by
  obtain ⟨⟨before, b, e, after, h, hb, he⟩, hbody⟩ := holds_filled
  have hlines : Text.byteLines undecodable.data.toList = [255] ::
      Text.byteLines (Text.encoded filled) := by
    have hbytes : undecodable.data.toList = [255] ++ 10 :: Text.encoded filled := by
      simp [undecodable]
    rw [hbytes, Text.byteLines_line _ (by decide)]
    rfl
  refine ⟨⟨[255] :: before, b, e, after, ?_, hb, he⟩, hbody⟩
  rw [hlines, List.cons_append, ← h]
  rfl

theorem hasRegion_twoRegions : HasRegion "a" twoRegions.toUTF8 := by
  have hlines : Encloses begins? ends? "a" [] (Text.lines twoRegions) :=
    ⟨[], "ANG:BEGIN_CUSTOM a", "ANG:END_CUSTOM a", _, lines_twoRegions, begins?_a, ends?_a⟩
  exact ⟨[], encloses_toUTF8_iff.2 ⟨[], rfl, hlines⟩, fun l hl => absurd hl List.not_mem_nil⟩

end Region

namespace Emitter
open Region

def oneFile (bytes : ByteArray) : FileTree := { entries := [(["a.go"], .file bytes)] }

theorem read?_oneFile (bytes : ByteArray) :
    (oneFile bytes).read? (verbatim.target "a.go") = some bytes :=
  FileTree.read?_eq_some_iff.2 ⟨["a.go"], by decide, rfl⟩

theorem writeText_keeps_filled :
    HasRegion "a" twoRegions.toUTF8 ∧ Holds "a" [Text.encoded "x"] filled.toUTF8 ∧
      ∃ tree outcome bytes, verbatim.writeText (oneFile filled.toUTF8) "a.go" twoRegions =
        .ok (tree, outcome) ∧ tree.read? (verbatim.target "a.go") = some bytes ∧
        Holds "a" [Text.encoded "x"] bytes := by
  have hkeeps : MergeKeeps "a" [Text.encoded "x"] filled twoRegions := by
    have hbody : IsBody "a" ["x"] := by
      intro l hl
      rw [List.mem_singleton.1 hl, no_marker_x.1, no_marker_x.2]
      exact ⟨rfl, nofun⟩
    have hregion : complete none ("ANG:BEGIN_CUSTOM a" :: (["x"] ++ "ANG:END_CUSTOM a" :: [])) =
        [⟨"a", ["x"]⟩] := complete_region begins?_a hbody ends?_a
    have hfirst : (extract filled).get? "a" = some ["x"] := by
      rw [extract, get?_bodies, lines_filled]
      exact congrArg (fun rs => (rs.find? fun r => r.qualifier = "a").map Region.body) hregion
    exact ⟨⟨["x"], hfirst, by decide +kernel⟩, [], "ANG:BEGIN_CUSTOM a", _, lines_twoRegions,
      begins?_a, rfl, "ANG:END_CUSTOM a", List.mem_cons_self, ends?_a⟩
  have hsurvives : Survives "a" [Text.encoded "x"] filled.toUTF8 twoRegions.toUTF8 := by
    rw [Survives, Text.fromUTF8?_toUTF8, Text.fromUTF8?_toUTF8]
    exact hkeeps
  obtain ⟨tree, outcome, h⟩ :=
    exists_writeText_verbatim twoRegions (read?_oneFile filled.toUTF8) (by decide)
  obtain ⟨bytes, hread, hholds⟩ := writeText_keeps_body_iff verbatim (oneFile filled.toUTF8) tree
    "a.go" twoRegions "a" [Text.encoded "x"] twoRegions.toUTF8 filled.toUTF8 outcome
    (process_verbatim _ _)
    hasRegion_twoRegions (read?_oneFile _) holds_filled h
  have hkept : Holds "a" [Text.encoded "x"] bytes := by
    rw [hholds]
    exact hsurvives
  exact ⟨hasRegion_twoRegions, holds_filled, tree, outcome, bytes, h, hread, hkept⟩

/-- One line that is no text, anywhere in the file, and the body is lost. -/
theorem writeText_loses_undecodable :
    HasRegion "a" twoRegions.toUTF8 ∧ Holds "a" [Text.encoded "x"] undecodable ∧
      ∃ tree outcome bytes, verbatim.writeText (oneFile undecodable) "a.go" twoRegions =
        .ok (tree, outcome) ∧ tree.read? (verbatim.target "a.go") = some bytes ∧
        ¬ Holds "a" [Text.encoded "x"] bytes := by
  obtain ⟨tree, outcome, h⟩ :=
    exists_writeText_verbatim twoRegions (read?_oneFile undecodable) (by decide)
  refine ⟨hasRegion_twoRegions, holds_undecodable, tree, outcome, twoRegions.toUTF8, h, ?_, ?_⟩
  · have hbytes : mergeRegions (some undecodable) twoRegions.toUTF8 = twoRegions.toUTF8 :=
      mergeRegions_no_text (.inl fromUTF8?_undecodable)
    rw [writeText_of_process (process_verbatim _ _), read?_oneFile, hbytes] at h
    exact FileTree.read?_writeIfChanged h
  · rintro ⟨⟨before, b, e, after, hlines, -, -⟩, -⟩
    have hin : Text.encoded "x" ∈ Text.byteLines (Text.encoded twoRegions) := by
      rw [Text.encoded, hlines]
      simp
    rw [Text.byteLines_encoded, List.mem_map_of_injective Text.encoded_injective,
      lines_twoRegions] at hin
    exact absurd hin (by decide)

end Emitter

end GoScaffold
