import GoScaffold.ServiceOrder
import GoScaffold.Text.Quoted

/-! What can go wrong, and the messages about it. -/

namespace GoScaffold

inductive FormatFault where
  | malformed
  | encoding (unit : String)
  | external (unit program complaint : String)
  | notRun
deriving DecidableEq

def FormatFault.detail : FormatFault → String
  | .malformed => ""
  | .encoding unit => ": " ++ unit ++ ": output is not valid UTF-8"
  | .external unit program complaint =>
    ": " ++ unit ++ ": " ++ program ++ " failed: " ++ complaint
  | .notRun => ""

inductive SettingsFault where
  | unreadable (path : String)
  | version (path : String) (found : Nat)
  | emptyModule
  | blankInModule (module : String)
  | noTemplateDir (dir : String)
  | schemaExtension (extension path : String)
  | noSchema
  | unknownFamily (name : String)
  | unknownCommand (name : String)
deriving DecidableEq

def SettingsFault.message : SettingsFault → String
  | .unreadable path => "failed to parse " ++ path
  | .version path found => "unsupported " ++ path ++ " version: " ++ toString found
  | .emptyModule => "go_module must not be empty"
  | .blankInModule module => "go_module " ++ Text.shown module ++ " contains whitespace"
  | .noTemplateDir dir => "template_dir " ++ dir ++ " is not a directory"
  | .schemaExtension extension path =>
    "unsupported schema extension " ++ Text.shown extension ++ " for " ++ path
  | .noSchema => "Usage: ang-codegen emit <schema.json|yaml> [--out DIR] [--module M]"
  | .unknownFamily name =>
    "unknown family " ++ Text.shown name ++ " (see \x60ang-codegen families\x60)"
  | .unknownCommand name => "unknown command " ++ Text.shown name

/-- An error. Errors that arise while an artifact is made name its path. -/
inductive Error where
  | templateRead (path template reason : String)
  | templateParse (path template : String)
  | templateExecute (path template : String)
  | outputDir (dir : String)
  | rejected (path : String) (fault : FormatFault)
  | write (path : String)
  | unsupportedFinder (backend repository finder returns : String)
  | schemaVersion (found : String)
  | dependencies (fault : DependencyFault)
  | cancelled (path : String)
  | settings (fault : SettingsFault)
  | io
  | yaml
  | json
deriving DecidableEq

namespace Error

def currentVersion : String := "1"

def message : Error → String
  | templateRead path template reason =>
    "template " ++ template ++ " unavailable for " ++ path ++ ": " ++ reason
  | templateParse _ template => "template " ++ template ++ " is invalid"
  | templateExecute path template => "rendering " ++ path ++ " from " ++ template ++ " failed"
  | outputDir dir => "cannot create output directory " ++ dir
  | rejected path fault => "generated code for " ++ path ++ " rejected" ++ fault.detail
  | write path => "cannot write " ++ path
  | unsupportedFinder backend repository finder returns =>
    backend ++ " repo unsupported return type: " ++ returns ++
      " (" ++ repository ++ "." ++ finder ++ ")"
  | schemaVersion found =>
    "unsupported ir_version " ++ Text.shown found ++ " (current=" ++ currentVersion ++ ")"
  | dependencies fault => fault.message
  | cancelled path => "emission cancelled before " ++ path
  | settings fault => "config error: " ++ fault.message
  | io => "IO error"
  | yaml => "YAML error"
  | json => "JSON error"

def path? : Error → Option String
  | templateRead path _ _ => some path
  | templateParse path _ => some path
  | templateExecute path _ => some path
  | outputDir dir => some dir
  | rejected path _ => some path
  | write path => some path
  | cancelled path => some path
  | _ => none

end Error

end GoScaffold
