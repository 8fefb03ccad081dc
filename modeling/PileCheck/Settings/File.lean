import PileCheck.Settings.App
import PileCheck.Toml.Reader

/-!
Settings from a file.

A file that is named must be there: the one asked for, or else the one that the environment names.
Otherwise the first of the usual places that has a file counts, and without any the defaults do.
-/
namespace PileCheck

inductive SettingsFailure where
  | unreadable (path : String)
  | unparsable
  | invalid (p : SettingsProblem)
  deriving DecidableEq, Repr

/-- The bytes of a file, if there is one under a path. -/
abbrev Files := String → Option ByteArray

namespace AppSettings

/-- Settings that are well formed and make sense. -/
def ofToml (content : String) : Except SettingsFailure AppSettings :=
  match (Toml.read? content).bind ofSource? with
  | none => .error .unparsable
  | some s =>
    match s.problem? with
    | some p => .error (.invalid p)
    | none => .ok s

def ofFile (files : Files) (path : String) : Except SettingsFailure AppSettings :=
  match (files path).bind String.fromUTF8? with
  | none => .error (.unreadable path)
  | some content => ofToml content

/-- Where a file is looked for when none is named. -/
def usualPlaces : List String := ["config/autocheck.toml", "./autocheck.toml"]

/-- Loads the settings; a path may be asked for, and one may stand in the environment. -/
def load (files : Files) (asked environment : Option String) :
    Except SettingsFailure AppSettings :=
  match asked, environment with
  | some path, _ => ofFile files path
  | none, some path => ofFile files path
  | none, none =>
    match usualPlaces.find? fun path => (files path).isSome with
    | some path => ofFile files path
    | none => .ok {}

end AppSettings
end PileCheck
