import StatusPrompt.OnDisk.Config.Basic
import StatusPrompt.OnDisk.WorkTree

/-!
Line endings: the configuration may say that those of a file are not the same in the work tree as in
the repository. What it says matters for a file whose content has to be looked at.
-/

namespace StatusPrompt.OnDisk.WorkTree

def endings : List (Text × List Text × List Bool) :=
  [("core.autocrlf".toList, ["input".toList], [true, false]),
    ("core.safecrlf".toList, ["warn".toList], [true, false]),
    ("core.eol".toList, ["lf".toList, "crlf".toList, "native".toList], [false])]

def hasEndings (config : Config) : Bool :=
  endings.all fun (name, words, truths) =>
    (config.lookup name).all (Config.isOneOf words truths)

def usualMode : Nat := 0o100644

def trustsModes (config : Config) : Bool :=
  match config.lookup "core.filemode".toList with
  | none => true
  | some value => (Config.truth? value).getD false

def isUncertain (config : Config) (entry : Index.Entry) (content : List UInt8) : Bool :=
  let mode := if trustsModes config then usualMode
    else usualMode / 512 * 512 + entry.mode % 512
  entry.isRegular &&
    if entry.mode = mode ∧ entry.fileSize = content.length then true
    else entry.fileSize = 0 && !content.isEmpty

def uncertain (tree : WorkTree) (config : Config) : List Index.Entry :=
  tree.compared.filterMap fun (entry, place) =>
    match tree.disk place with
    | some (.file content) => if isUncertain config entry content then some entry else none
    | _ => none

end StatusPrompt.OnDisk.WorkTree
