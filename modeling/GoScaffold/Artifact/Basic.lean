import GoScaffold.Audit
import GoScaffold.FileTree
import GoScaffold.Import
import GoScaffold.Model.Projection
import GoScaffold.Stamp
import GoScaffold.Template.Helper

/-! Artifacts: files to be generated, each with the template it is made from and what the template
is told. -/

namespace GoScaffold

structure Artifact where
  path : String
  template : String
  kit : Template.HelperKit
  given : Json

namespace Artifact

structure Header where
  module : String
  stamp : Stamp

namespace Header

def entries (h : Header) : List (String × Json) := ("module", .str h.module) :: h.stamp.entries

def package (h : Header) (dir : String) : String := h.module ++ "/" ++ dir

def told (h : Header) (more : List (String × Json)) : Json := .obj (h.entries ++ more)

end Header

end Artifact

def Imports.toJson (i : Imports) : Json := .obj
  [("std", .strs i.std), ("external", .strs i.external)]

namespace Artifact

def fileStem (name : String) : String := Text.lower name

structure TypeDecl where
  name : String
  description : String := ""
  fields : List Model.Field

def TypeDecl.toJson (t : TypeDecl) : Json := .obj
  [("name", .str t.name), ("description", .str t.description),
    ("fields", .arr (Model.fieldsJson t.fields))]

/-! Types of list items that are described in place. The declarations found are put behind those
there are, each before those nested in it; a name is declared once. -/

mutual

def addItemType (found : List TypeDecl) : Model.Field → List TypeDecl
  | ⟨_, _, _, _, _, itemTypeName, itemFields, _, _, _, _, _, _, _, _, _, _, _⟩ =>
    if itemFields.isEmpty || found.any (fun t => t.name == itemTypeName) then found
    else addItemTypes (found ++ [{ name := itemTypeName, fields := itemFields }]) itemFields

def addItemTypes (found : List TypeDecl) : List Model.Field → List TypeDecl
  | [] => found
  | f :: rest => addItemTypes (addItemType found f) rest

end

def itemTypes (fields : List Model.Field) : List TypeDecl := addItemTypes [] fields

/-- A step of a run: it makes one artifact. What it makes, and which methods it finds to have no
implementation, may depend on the files at that time. -/
structure Job where
  missing : FileTree → List MissingMethod := fun _ => []
  make : FileTree → Except Error Artifact

def job (a : Artifact) : Job := { make := fun _ => .ok a }

end Artifact

end GoScaffold
