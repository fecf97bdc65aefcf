import StatusPrompt.OnDisk.ExactTag
import StatusPrompt.Program

/-!
A git library for the command: it reads what stands on the disk. Nothing that is said of the program
depends on it.
-/

namespace StatusPrompt.OnDisk

namespace Vantage

def homes (environment : Environment) : List Text :=
  (environment.home.map fun home => Path.listed (Octets.ofText home)).getD []

def directories (environment : Environment) : List Text :=
  let named := (environment.configHome.map (Path.below · "git".toList)).or
    (environment.home.map (Path.below · ".config/git".toList))
  (named.map fun list => Path.listed (Octets.ofText list)).getD []

def systemFile : Text := "/etc/gitconfig".toList

def within (disk : Disk) (current : Place) (environment : Environment) : Vantage :=
  let present? : List Text → Option Text := fun paths => paths.find? (disk.isPresent current)
  let homes := homes environment
  let inHome : Text → Text := (Path.below · ".gitconfig".toList)
  let named := homes.filter (· ≠ [])
  let inDirectories := ((directories environment).filter (· ≠ [])).map (Path.below · "config".toList)
  { disk, current
    home := present? named
    sharedFiles := (present? [systemFile]).toList ++ (present? inDirectories).toList ++
      ((present? (named.map inHome)).or (homes.head?.map inHome)).toList }

end Vantage

def Opened.handle (vantage : Vantage) (opened : Opened) : Handle where
  workDir := opened.workDir
  metadataDir := opened.metadata.toDirectory
  commonDir := opened.common.toDirectory
  exactTag := (opened.exactTag? vantage).map Octets.toText
  remoteOf := opened.remoteOf

def library : Library where
  discover disk current environment path :=
    let vantage := Vantage.within disk current environment
    (Opened.discover? vantage path).map (Opened.handle vantage)

end StatusPrompt.OnDisk
