import StatusPrompt.OnDisk.Places
import StatusPrompt.OnDisk.Ascii
import StatusPrompt.Text.Octets

/-!
What a repository is looked at from: the disk, the directory that relative paths are read from,
and what belongs to the user. Paths are given as their bytes, as everything on the disk is.
-/

namespace StatusPrompt.OnDisk

structure Vantage where
  disk : Disk
  current : Place
  /-- The home directory that a tilde stands for, if there is one. -/
  home : Option Text := none
  /-- The configuration files of the system and of the user, the one that counts least first. -/
  sharedFiles : List Text := []

namespace Vantage

def trimmed? (vantage : Vantage) (place : Place) : Option Text :=
  match vantage.disk place with
  | some (.file content) => some (Ascii.dropSpaceEnd (Octets.ofBytes content))
  | _ => none

def octets? (vantage : Vantage) (place : Place) : Option Text :=
  (vantage.trimmed? place).map Octets.untilZero

def resolve? (vantage : Vantage) (directory : Place) (path : Text) : Option Place :=
  if Path.isRooted path then vantage.disk.locate vantage.current path
  else vantage.disk.locate [] (Path.below directory.toDirectory path)

end Vantage

end StatusPrompt.OnDisk
