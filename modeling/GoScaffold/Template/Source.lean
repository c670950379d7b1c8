import GoScaffold.Bundled
import GoScaffold.FileTree
import GoScaffold.Template.Parser
import GoScaffold.Template.Render

/-! Where templates come from: a directory of the project's own, and the bundled ones behind it. -/

namespace GoScaffold.Template

def id (name : String) : String := "templates/" ++ name ++ ".jinja"

/-- The text of a template for the artifact at a path. A file of the overlay directory goes before
the bundled template. -/
def load (tree : FileTree) (overlay : Option String) (name path : String) : Except Error String :=
  let bundled := match Bundled.template? name with
    | some text => .ok text
    | none => .error (.templateRead path (id name) "no bundled template with this name")
  match overlay with
  | none => bundled
  | some dir =>
    let file := Path.join dir (name ++ ".jinja")
    match tree.read? file with
    | none => bundled
    | some bytes =>
      match String.fromUTF8? bytes with
      | some text => .ok text
      | none => .error (.templateRead path file "stream did not contain valid UTF-8")

def renderNamed (tree : FileTree) (overlay : Option String) (name path : String) (kit : HelperKit)
    (given : Json) : Except Error String := do
  let text ← load tree overlay name path
  match parse? text with
  | none => .error (.templateParse path (id name))
  | some template =>
    match render kit template given with
    | .ok out => .ok out
    | .error _ => .error (.templateExecute path (id name))

end GoScaffold.Template
