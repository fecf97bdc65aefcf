import StatusPrompt.Failure
import StatusPrompt.Path
import StatusPrompt.Text.Octets

/-!
Where the settings file stands: below the configuration home if one is named, else below the
home directory. The configuration home is taken as it is named, also when it is empty or a
relative path.
-/

namespace StatusPrompt

/-- The variables that a run looks at. -/
structure Environment where
  configHome : Option Text := none
  home : Option Text := none
  /-- The home directory on record for the user, for when none is named. -/
  accountHome : Option Text := none
  /-- A value other than 0 asks for colour even where nothing else says so. -/
  forceColor : Option Text := none
  deriving DecidableEq, Repr

namespace Environment

def homeDirectory? (environment : Environment) : Option Text :=
  (environment.home.filter (· ≠ [])).or environment.accountHome

def settingsDirectory (environment : Environment) : Except Failure Text :=
  match environment.configHome with
  | some base => .ok (Path.join base "gitprompt".toList)
  | none =>
    match environment.homeDirectory? with
    | some home => .ok (Path.join (Path.join home ".config".toList) "gitprompt".toList)
    | none => .error .noSettingsDirectory

def settingsFile (environment : Environment) : Except Failure Text :=
  environment.settingsDirectory.map (Path.join · "config.json".toList)

def forcesColor (environment : Environment) : Bool :=
  match environment.forceColor with
  | some value => value ≠ ['0']
  | none => false

end Environment

end StatusPrompt
