import GoScaffold.Proofs.Import

/-! The packages of code that is joined from snippets, one below the other. A line end can be in no
qualified name, so no name is found across a joint and none is lost to a name that is unfinished
there: the paths of a snippet are those it has on its own, less those that are listed before. -/

namespace GoScaffold.Import

theorem separator_newline : Separator "\n" := by decide

theorem mentions_append_newline (module a b : String) :
    mentions module (a ++ "\n" ++ b) = mentions module a ++ mentions module b := by
  rw [mentions, references_append separator_newline, List.filterMap_append]
  rfl

theorem mentions_join_newline (module : String) (parts : List String) :
    mentions module (Text.join "\n" parts) = parts.flatMap (mentions module) := by
  rw [mentions, references_join separator_newline, List.filterMap_flatMap]
  rfl

theorem nodup_scan (module code : String) : (scan module code).Nodup := by
  rw [scan_eq_eraseDups]
  exact nodup_eraseDups _

theorem scan_append_newline (module a b : String) :
    scan module (a ++ "\n" ++ b) =
      scan module a ++ (scan module b).filter fun path => path ∉ scan module a := by
  rw [scan_eq_eraseDups, mentions_append_newline, eraseDups_append_filter, ← scan_eq_eraseDups,
    ← scan_eq_eraseDups]
  simp

theorem mem_scan_join_newline {module path : String} {parts : List String} :
    path ∈ scan module (Text.join "\n" parts) ↔ ∃ part ∈ parts, path ∈ scan module part := by
  simp only [scan_eq_eraseDups, List.mem_eraseDups, mentions_join_newline, List.mem_flatMap]

/-- Scanning is compositional: a snippet adds the paths that are not there yet, nothing is listed
twice, and the order of the snippets decides about the order of the paths alone. -/
theorem scan_compositional (module : String) :
    (∀ a b, scan module (a ++ "\n" ++ b) =
      scan module a ++ (scan module b).filter fun path => path ∉ scan module a) ∧
    (∀ code, (scan module code).Nodup) ∧
    ∀ parts others : List String, parts.Perm others →
      ∀ path, path ∈ scan module (Text.join "\n" parts) ↔
        path ∈ scan module (Text.join "\n" others) := by
  refine ⟨scan_append_newline module, nodup_scan module, fun parts others hperm path => ?_⟩
  rw [mem_scan_join_newline, mem_scan_join_newline]
  simp only [hperm.mem_iff]

theorem scan_compositional_unfinished :
    ["now := time.", "Sprint(fmt.Sprint(now))"].Perm ["Sprint(fmt.Sprint(now))", "now := time."] ∧
    scan "shop" ("now := time." ++ "\n" ++ "Sprint(fmt.Sprint(now))") = ["fmt"] ∧
    ∀ path, path ∈ scan "shop" (Text.join "\n" ["now := time.", "Sprint(fmt.Sprint(now))"]) ↔
      path ∈ scan "shop" (Text.join "\n" ["Sprint(fmt.Sprint(now))", "now := time."]) := by
  obtain ⟨happend, -, horder⟩ := scan_compositional "shop"
  refine ⟨.swap _ _ _, ?_, horder _ _ (.swap _ _ _)⟩
  have hfirst : scan "shop" "now := time." = [] := by decide +kernel
  have hsecond : scan "shop" "Sprint(fmt.Sprint(now))" = ["fmt"] := by decide +kernel
  rw [happend, hfirst, hsecond]
  rfl

end GoScaffold.Import
