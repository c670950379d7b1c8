import GoScaffold.Error
import GoScaffold.Go.Source
import GoScaffold.Whitespace

/-! What generated code goes through before it is written. A formatter gives the code in the form in
which it is written, or refuses it; the mode decides what a refusal means. -/

namespace GoScaffold

abbrev Formatter := ByteArray → (unit : String) → Except FormatFault ByteArray

structure ProgramRun where
  succeeded : Bool
  output : ByteArray
  complaint : String

namespace Formatter

def checked : Formatter := fun bytes unit =>
  match String.fromUTF8? bytes with
  | none => .error (.encoding unit)
  | some text =>
    match Go.Source.ofText? text with
    | none => .error .malformed
    | some source => .ok (Whitespace.normalize text source.rawRows).toUTF8

def missing : Formatter := fun _ _ => .error .notRun

def external (program : String) (run : ByteArray → ProgramRun) : Formatter := fun bytes unit =>
  let r := run bytes
  if r.succeeded then .ok r.output else .error (.external unit program (Text.trim r.complaint))

end Formatter

inductive FormatMode where
  /-- The artifact fails. -/
  | strict
  /-- The code is written as it is. -/
  | lenient
deriving DecidableEq

structure PostProcessor where
  formatter : Formatter
  mode : FormatMode

namespace PostProcessor

def process (p : PostProcessor) (bytes : ByteArray) (path : String) : Except Error ByteArray :=
  match p.formatter bytes path with
  | .ok formatted => .ok formatted
  | .error fault =>
    match p.mode with
    | .strict => .error (.rejected path fault)
    | .lenient => .ok bytes

end PostProcessor

end GoScaffold
