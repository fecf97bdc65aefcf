import StatusPrompt.Text.Blank

/-!
Everything that can keep a prompt from being shown. A failure is recorded as its cause; the one
wording of each cause is `Failure.message`.
-/

namespace StatusPrompt

/-- The two counts of a diff summary line. -/
inductive CountField where
  | insertion
  | deletion
  deriving DecidableEq, Repr

def CountField.name : CountField → Text
  | .insertion => "insertion".toList
  | .deletion => "deletion".toList

inductive Failure where
  | notInRepository
  /-- A repository was found but cannot be used. -/
  | unusableRepository (reason : Text)
  /-- The system refused to read a file or to start a command. -/
  | refused (reason : Text)
  | commandFailed (command complaint : Text)
  | undecodableOutput
  | badDrift (token : Text)
  | badCount (field : CountField) (line : Text)
  | noSettingsDirectory
  | badSettings (file reason : Text)
  /-- What is to be logged has no form as JSON. -/
  | unwritable (reason : Text)
  deriving DecidableEq, Repr

def Failure.message : Failure → Text
  | .notInRepository => "Not in a git repository".toList
  | .unusableRepository reason => "Git repository error: ".toList ++ reason
  | .refused reason => "IO error: ".toList ++ reason
  | .commandFailed command complaint =>
    "`git ".toList ++ command ++ "` failed: ".toList ++ complaint
  | .undecodableOutput => "git produced output that is not valid UTF-8".toList
  | .badDrift token => "Invalid ahead/behind count: '".toList ++ token ++ ['\'']
  | .badCount field line =>
    "Invalid ".toList ++ field.name ++ " count in diff summary line: '".toList ++ line ++ ['\'']
  | .noSettingsDirectory => "Could not find config directory".toList
  | .badSettings file reason =>
    "Failed to parse config file '".toList ++ file ++ "': ".toList ++ reason
  | .unwritable reason => "JSON serialization error: ".toList ++ reason

end StatusPrompt
