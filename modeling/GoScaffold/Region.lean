import GoScaffold.Dict
import GoScaffold.Text.Blank
import GoScaffold.Text.Line
import GoScaffold.Text.Substring
import GoScaffold.Text.Property.Alphanumeric

/-! Editable regions of generated files. A region goes from a line that begins it to a line that
ends it under the same qualifier; what stands between is its body, which belongs to the user and is
kept when the file is generated again. -/

namespace GoScaffold

structure Region where
  qualifier : String
  body : List String
deriving DecidableEq

namespace Region

def beginMarker : String := "ANG:BEGIN_CUSTOM"

def endMarker : String := "ANG:END_CUSTOM"

def withoutLeader (line : List Char) : List Char :=
  Text.trimStartChars ((Text.trimStartChars line).dropWhile fun c =>
    !Text.isAlphanumeric c && !Text.isBlank c)

def qualifier? (marker line : String) : Option String :=
  match Text.afterPrefix? marker.toList (withoutLeader line.toList) with
  | some (c :: rest) =>
    if Text.isBlank c then ((Text.fields Text.isBlank rest).head?).map String.ofList else none
  | _ => none

def begins? (line : String) : Option String := qualifier? beginMarker line

def ends? (line : String) : Option String := qualifier? endMarker line

/-- The complete regions among the lines. `opened` is the region begun last, with its body so far in
reverse; a line that begins another region abandons it. -/
def complete (opened : Option (String × List String)) : List String → List Region
  | [] => []
  | line :: rest =>
    match begins? line with
    | some q => complete (some (q, [])) rest
    | none =>
      match opened with
      | none => complete none rest
      | some (q, body) =>
        if ends? line = some q then { qualifier := q, body := body.reverse } :: complete none rest
        else complete (some (q, line :: body)) rest

/-- The bodies of the complete regions by qualifier; the first region with a qualifier counts. -/
def bodies (lines : List String) : Dict (List String) :=
  (complete none lines).foldl (fun d r =>
    if d.contains r.qualifier then d else d.insert r.qualifier r.body) []

def extract (text : String) : Dict (List String) := bodies (Text.lines text)

/-- The lines with the bodies of regions replaced. `skipping` is the qualifier of the region whose
old body is being passed over. -/
def splice (replacement : String → Option (List String)) (skipping : Option String) :
    List String → List String
  | [] => []
  | line :: rest =>
    match skipping with
    | some q =>
      if ends? line = some q then line :: splice replacement none rest
      else splice replacement (some q) rest
    | none =>
      match begins? line with
      | none => line :: splice replacement none rest
      | some q =>
        match replacement q with
        | none => line :: splice replacement none rest
        | some body => line :: (body ++ splice replacement (some q) rest)

/-- The body that takes the place of a generated one: the body kept under the qualifier, if a region
with that qualifier is closed in the generated text. -/
def shared (closed kept : Dict (List String)) (q : String) : Option (List String) :=
  if closed.contains q then kept.get? q else none

def mergedLines (generated onDisk : String) : List String :=
  splice (shared (extract generated) (extract onDisk)) none (Text.lines generated)

/-- The text of the merged lines. With no region on disk it is the generated text. -/
def merge (generated onDisk : String) : String :=
  if (extract onDisk).isEmpty then generated
  else
    let merged := Text.join "\n" (mergedLines generated onDisk)
    if Text.endsWith generated "\n" then merged ++ "\n" else merged

end Region

end GoScaffold
