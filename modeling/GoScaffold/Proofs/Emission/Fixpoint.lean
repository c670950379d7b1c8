import GoScaffold.Emission
import GoScaffold.Proofs.FileTree
import GoScaffold.Proofs.Region.Merge
import GoScaffold.Proofs.Text.Bytes

/-! Writing the same artifacts a second time changes nothing. A file is settled when merging the new
text into it gives its own bytes; a write settles its file and leaves settled what lies elsewhere,
so after a run all files are settled, and a run over settled files writes none. -/

namespace GoScaffold

namespace Emitter
open Region (Refillable twoRegions oneFilled)

theorem mergeRegions_texts {onDisk generated : ByteArray} {old new : String}
    (hold : String.fromUTF8? onDisk = some old) (hnew : String.fromUTF8? generated = some new) :
    mergeRegions (some onDisk) generated = (Region.merge new old).toUTF8 := by
  simp [mergeRegions, hold, hnew]

theorem mergeRegions_no_text {onDisk : Option ByteArray} {generated : ByteArray}
    (h : onDisk.bind String.fromUTF8? = none ∨ String.fromUTF8? generated = none) :
    mergeRegions onDisk generated = generated := by
  unfold mergeRegions
  split
  next hold hnew => rcases h with h | h <;> simp_all
  next => rfl

/-- Merging into the bytes that merging left gives these bytes again. -/
theorem mergeRegions_mergeRegions {onDisk : Option ByteArray} {generated : ByteArray}
    (hnew : ∀ new, String.fromUTF8? generated = some new → Refillable new)
    (hold : ∀ old, onDisk.bind String.fromUTF8? = some old → '\r' ∉ old.toList) :
    mergeRegions (some (mergeRegions onDisk generated)) generated =
    mergeRegions onDisk generated := by
  cases hg : String.fromUTF8? generated with
  | none => rw [mergeRegions_no_text (.inr hg), mergeRegions_no_text (.inr hg)]
  | some new =>
    cases hd : onDisk.bind String.fromUTF8? with
    | none =>
      -- the first merge left the generated text, which is merged into itself
      rw [mergeRegions_no_text (.inl hd), mergeRegions_texts hg hg, Region.merge_self (hnew new hg)]
      exact Text.toUTF8_of_fromUTF8? hg
    | some old =>
      obtain ⟨bytes, rfl, hbytes⟩ := Option.bind_eq_some_iff.1 hd
      rw [mergeRegions_texts hbytes hg, mergeRegions_texts (Text.fromUTF8?_toUTF8 _) hg,
        Region.merge_merge (hnew new hg) (hold old hd)]

def writeTexts (e : Emitter) (tree : FileTree) (report : Report) :
    List (String × String) → Except Error (FileTree × Report)
  | [] => .ok (tree, report)
  | (path, text) :: rest =>
    match e.writeText tree path text with
    | .error fault => .error fault
    | .ok (tree, outcome) => e.writeTexts tree (report.add path outcome) rest

theorem writeTexts_nil (e : Emitter) (tree : FileTree) (report : Report) :
    e.writeTexts tree report [] = .ok (tree, report) := rfl

theorem writeTexts_cons (e : Emitter) (tree : FileTree) (report : Report)
    (artifact : String × String)
    (rest : List (String × String)) : e.writeTexts tree report (artifact :: rest) =
      match e.writeText tree artifact.1 artifact.2 with
      | .error fault => .error fault
      | .ok (made, outcome) => e.writeTexts made (report.add artifact.1 outcome) rest := rfl

/-- The file of the artifact holds what writing it again would leave there. -/
def Settled (e : Emitter) (tree : FileTree) (artifact : String × String) : Prop :=
  ∃ formatted bytes, e.processor.process artifact.2.toUTF8 artifact.1 = .ok formatted ∧
    tree.read? (e.target artifact.1) = some bytes ∧ mergeRegions (some bytes) formatted = bytes

/-- What an artifact goes through before it is merged leaves a text that can be merged again. -/
def FormatsRefillable (e : Emitter) (artifact : String × String) : Prop :=
  ∀ formatted text, e.processor.process artifact.2.toUTF8 artifact.1 = .ok formatted →
    String.fromUTF8? formatted = some text → Refillable text

def NoReturnOnDisk (e : Emitter) (tree : FileTree) (artifact : String × String) : Prop :=
  ∀ text, tree.readText? (e.target artifact.1) = some text → '\r' ∉ text.toList

theorem writeText_eq (e : Emitter) (tree : FileTree) (path text : String) :
    e.writeText tree path text =
    (e.processor.process text.toUTF8 path).bind fun formatted =>
      tree.writeIfChanged (e.target path) (mergeRegions (tree.read? (e.target path)) formatted) :=
        rfl

theorem writeText_of_process {e : Emitter} {tree : FileTree} {path text : String}
    {formatted : ByteArray}
    (hf : e.processor.process text.toUTF8 path = .ok formatted) :
    e.writeText tree path text =
      tree.writeIfChanged (e.target path) (mergeRegions (tree.read? (e.target path))
        formatted) := by
  rw [writeText_eq, hf]
  rfl

theorem writeText_eq_ok {e : Emitter} {tree tree' : FileTree} {path text : String}
    {outcome : WriteOutcome}
    (h : e.writeText tree path text = .ok (tree', outcome)) :
    ∃ formatted, e.processor.process text.toUTF8 path = .ok formatted ∧
      tree.writeIfChanged (e.target path) (mergeRegions (tree.read? (e.target path)) formatted) =
        .ok (tree', outcome) := by
  cases hf : e.processor.process text.toUTF8 path with
  | error fault =>
    rw [writeText_eq, hf] at h
    cases h
  | ok formatted =>
    rw [writeText_of_process hf] at h
    exact ⟨formatted, rfl, h⟩

theorem settled_of_writeText {e : Emitter} {tree tree' : FileTree} {artifact : String × String}
    {outcome : WriteOutcome} (hformat : e.FormatsRefillable artifact)
    (hdisk : e.NoReturnOnDisk tree artifact)
    (h : e.writeText tree artifact.1 artifact.2 = .ok (tree', outcome)) :
    e.Settled tree' artifact := by
  obtain ⟨formatted, hf, hw⟩ := writeText_eq_ok h
  exact ⟨formatted, _, hf, FileTree.read?_writeIfChanged hw,
    mergeRegions_mergeRegions (fun new hnew => hformat formatted new hf hnew) hdisk⟩

theorem read?_writeText_of_ne {e : Emitter} {tree tree' : FileTree} {path text other : String}
    {outcome : WriteOutcome} (h : e.writeText tree path text = .ok (tree', outcome))
    (hne : Path.parts? other ≠ Path.parts? (e.target path)) :
    tree'.read? other = tree.read? other := by
  obtain ⟨formatted, -, hw⟩ := writeText_eq_ok h
  exact FileTree.read?_writeIfChanged_of_ne hw hne

theorem writeText_of_settled {e : Emitter} {tree : FileTree} {artifact : String × String}
    (h : e.Settled tree artifact) :
    e.writeText tree artifact.1 artifact.2 = .ok (tree, .unchanged) := by
  obtain ⟨formatted, bytes, hf, hread, hsame⟩ := h
  rw [writeText_of_process hf, hread, hsame]
  exact FileTree.writeIfChanged_of_read? hread

theorem writeTexts_cons_of_ok {e : Emitter} {tree made : FileTree} {report : Report}
    {path text : String}
    {rest : List (String × String)} {outcome : WriteOutcome}
    (h : e.writeText tree path text = .ok (made, outcome)) :
    e.writeTexts tree report ((path, text) :: rest) =
    e.writeTexts made (report.add path outcome) rest := by
  rw [writeTexts_cons, h]

theorem writeTexts_cons_eq_ok {e : Emitter} {tree tree' : FileTree} {report report' : Report}
    {artifact : String × String} {rest : List (String × String)}
    (h : e.writeTexts tree report (artifact :: rest) = .ok (tree', report')) :
    ∃ made outcome, e.writeText tree artifact.1 artifact.2 = .ok (made, outcome) ∧
      e.writeTexts made (report.add artifact.1 outcome) rest = .ok (tree', report') := by
  rw [writeTexts_cons] at h
  cases hw : e.writeText tree artifact.1 artifact.2 with
  | error fault => simp [hw] at h
  | ok result => exact ⟨result.1, result.2, rfl, by simpa [hw] using h⟩

theorem read?_writeTexts_of_ne {e : Emitter} {tree tree' : FileTree} {report report' : Report}
    {artifacts : List (String × String)} {other : String}
    (h : e.writeTexts tree report artifacts = .ok (tree', report'))
    (hne : ∀ a ∈ artifacts, Path.parts? other ≠ Path.parts? (e.target a.1)) :
    tree'.read? other = tree.read? other := by
  induction artifacts generalizing tree report with
  | nil =>
    rw [writeTexts_nil] at h
    exact (Prod.mk.inj (Except.ok.inj h)).1 ▸ rfl
  | cons a rest ih =>
    rw [List.forall_mem_cons] at hne
    obtain ⟨made, outcome, hw, hrest⟩ := writeTexts_cons_eq_ok h
    rw [ih hrest hne.2, read?_writeText_of_ne hw hne.1]

/-- After a run every file that it was to write is settled. -/
theorem settled_of_writeTexts {e : Emitter} {tree tree' : FileTree} {report report' : Report}
    {artifacts : List (String × String)}
    (hplaces : (artifacts.map fun a => Path.parts? (e.target a.1)).Nodup)
    (hformat : ∀ a ∈ artifacts, e.FormatsRefillable a)
    (hdisk : ∀ a ∈ artifacts, e.NoReturnOnDisk tree a)
    (h : e.writeTexts tree report artifacts = .ok (tree', report')) :
    ∀ a ∈ artifacts, e.Settled tree' a := by
  induction artifacts generalizing tree report with
  | nil => exact fun a ha => absurd ha List.not_mem_nil
  | cons a rest ih =>
    rw [List.map_cons, List.nodup_cons] at hplaces
    rw [List.forall_mem_cons] at hformat hdisk ⊢
    obtain ⟨made, outcome, hw, hrest⟩ := writeTexts_cons_eq_ok h
    have hne : ∀ b ∈ rest, Path.parts? (e.target a.1) ≠ Path.parts? (e.target b.1) := by
      intro b hb heq
      exact hplaces.1 (List.mem_map.2 ⟨b, hb, heq.symm⟩)
    constructor
    · -- the rest of the run leaves the first file alone
      obtain ⟨formatted, bytes, hf, hread, hsame⟩ := settled_of_writeText hformat.1 hdisk.1 hw
      exact ⟨formatted, bytes, hf, (read?_writeTexts_of_ne hrest hne).trans hread, hsame⟩
    · have hmade : ∀ b ∈ rest, e.NoReturnOnDisk made b := by
        intro b hb text htext
        rw [FileTree.readText?, read?_writeText_of_ne hw (Ne.symm (hne b hb))] at htext
        exact hdisk.2 b hb text htext
      exact ih hplaces.2 hformat.2 hmade hrest

theorem writeTexts_of_settled {e : Emitter} {tree : FileTree} {report : Report}
    {artifacts : List (String × String)} (h : ∀ a ∈ artifacts, e.Settled tree a) :
    e.writeTexts tree report artifacts =
      .ok (tree, { report with unchanged := report.unchanged ++ artifacts.map Prod.fst }) := by
  induction artifacts generalizing report with
  | nil => simp [writeTexts_nil]
  | cons a rest ih =>
    rw [List.forall_mem_cons] at h
    rw [writeTexts_cons_of_ok (writeText_of_settled h.1), ih h.2]
    simp [Report.add]

/-- Artifacts that go to different places, written once, are found unchanged when they are written
again. The formatter can be any function. -/
theorem writeTexts_again (e : Emitter) (tree tree' : FileTree) (report : Report)
    (artifacts : List (String × String))
    (hplaces : (artifacts.map fun a => Path.parts? (e.target a.1)).Nodup)
    (hformat : ∀ a ∈ artifacts, e.FormatsRefillable a)
    (hdisk : ∀ a ∈ artifacts, e.NoReturnOnDisk tree a)
    (h : e.writeTexts tree {} artifacts = .ok (tree', report)) :
    e.writeTexts tree' {} artifacts =
      .ok (tree', { written := [], unchanged := artifacts.map Prod.fst }) :=
  writeTexts_of_settled (settled_of_writeTexts hplaces hformat hdisk h)

def verbatim : Emitter :=
  { header := { module := "m", stamp := {} }
    outputDir := "."
    overlay := none
    layout := .monolith
    families := none
    processor := { formatter := fun bytes _ => .ok bytes, mode := .strict } }

theorem process_verbatim (bytes : ByteArray) (path : String) :
    verbatim.processor.process bytes path = .ok bytes := rfl

theorem formatsRefillable_verbatim {artifact : String × String} (h : Refillable artifact.2) :
    verbatim.FormatsRefillable artifact := by
  intro formatted text hf htext
  rw [process_verbatim, Except.ok.injEq] at hf
  rw [← hf, Text.fromUTF8?_toUTF8, Option.some.injEq] at htext
  exact htext ▸ h

theorem exists_writeText_verbatim {tree : FileTree} {path : String} {old : ByteArray}
    (text : String)
    (hread : tree.read? (verbatim.target path) = some old)
    (hdir : Path.parts? (Path.parent (verbatim.target path)) = some []) :
    ∃ tree' outcome, verbatim.writeText tree path text = .ok (tree', outcome) := by
  have hmade : tree.makeDirectory? (Path.parent (verbatim.target path)) = some tree := by
    rw [FileTree.makeDirectory?, hdir]
    rfl
  rw [writeText_of_process (process_verbatim text.toUTF8 path)]
  exact FileTree.exists_writeIfChanged _ hread hmade

def twoFiles : FileTree :=
  { entries := [(["a.go"], .file oneFilled.toUTF8), (["b.go"], .file "old\n".toUTF8)] }

def twoArtifacts : List (String × String) := [("a.go", twoRegions), ("b.go", "new\n")]

theorem writeTexts_again_two_files :
    ((twoArtifacts.map fun a => Path.parts? (verbatim.target a.1)).Nodup ∧
      (∀ a ∈ twoArtifacts, verbatim.FormatsRefillable a) ∧
      ∀ a ∈ twoArtifacts, verbatim.NoReturnOnDisk twoFiles a) ∧
    ∃ tree report, verbatim.writeTexts twoFiles {} twoArtifacts = .ok (tree, report) ∧
      verbatim.writeTexts tree {} twoArtifacts =
      .ok (tree, { written := [], unchanged := ["a.go", "b.go"] }) := by
  have hplaces : (twoArtifacts.map fun a => Path.parts? (verbatim.target a.1)).Nodup := by
    decide +kernel
  have hformat : ∀ a ∈ twoArtifacts, verbatim.FormatsRefillable a := by
    refine List.forall_mem_cons.2 ⟨formatsRefillable_verbatim Region.refillable_twoRegions,
      List.forall_mem_singleton.2 (formatsRefillable_verbatim ⟨?_, ?_, ?_⟩)⟩ <;> decide +kernel
  have ha : twoFiles.read? (verbatim.target "a.go") = some oneFilled.toUTF8 :=
    FileTree.read?_eq_some_iff.2 ⟨["a.go"], by decide, rfl⟩
  have hb : twoFiles.read? (verbatim.target "b.go") = some "old\n".toUTF8 :=
    FileTree.read?_eq_some_iff.2 ⟨["b.go"], by decide, rfl⟩
  have hdisk : ∀ a ∈ twoArtifacts, verbatim.NoReturnOnDisk twoFiles a := by
    refine List.forall_mem_cons.2 ⟨?_, List.forall_mem_singleton.2 ?_⟩
    · intro text htext
      rw [FileTree.readText?, ha, Option.bind_some, Text.fromUTF8?_toUTF8,
        Option.some.injEq] at htext
      rw [← htext, oneFilled, String.toList_ofList]
      decide
    · intro text htext
      rw [FileTree.readText?, hb, Option.bind_some, Text.fromUTF8?_toUTF8,
        Option.some.injEq] at htext
      rw [← htext]
      decide
  obtain ⟨tree₁, outcome₁, h₁⟩ := exists_writeText_verbatim twoRegions ha (by decide)
  have hb₁ : tree₁.read? (verbatim.target "b.go") = some "old\n".toUTF8 :=
    (read?_writeText_of_ne h₁ (by decide)).trans hb
  obtain ⟨tree₂, outcome₂, h₂⟩ := exists_writeText_verbatim "new\n" hb₁ (by decide)
  have hrun : verbatim.writeTexts twoFiles {} twoArtifacts =
      .ok (tree₂, (Report.add {} "a.go" outcome₁).add "b.go" outcome₂) := by
    rw [twoArtifacts, writeTexts_cons_of_ok h₁, writeTexts_cons_of_ok h₂, writeTexts_nil]
  exact ⟨⟨hplaces, hformat, hdisk⟩, tree₂, _, hrun,
    writeTexts_again verbatim twoFiles tree₂ _ twoArtifacts hplaces hformat hdisk hrun⟩

end Emitter

end GoScaffold
