import GoScaffold.FileTree
import GoScaffold.Go.Source
import GoScaffold.Text.Case

/-! Methods that are written by hand, in a file beside the generated implementation. -/

namespace GoScaffold.Override

def serviceDir : String := "internal/service"

def manualPath (outputDir service : String) : String :=
  Path.join (Path.join outputDir serviceDir) (Text.lower service ++ ".manual.go")

/-- The methods of a service that are written by hand, in increasing order. A file that is missing
or is not Go source has none. -/
def methods (tree : FileTree) (outputDir service : String) : List String :=
  match (tree.readText? (manualPath outputDir service)).bind Go.Source.ofText? with
  | some source => source.methodNames
  | none => []

end GoScaffold.Override
