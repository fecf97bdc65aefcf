import StatusPrompt.Disk
import StatusPrompt.Glyphs
import StatusPrompt.Json.Reader
import StatusPrompt.Text.Utf8

/-!
The settings of a prompt and how a JSON value gives them. Settings are all optional: what is not
given has its default, and what is given must have the right type and be given once. An object
gives them by name and may hold anything else besides; an array gives them by position.
-/

namespace StatusPrompt

structure Settings where
  format : Option Text := none
  color : Bool := true
  noTag : Bool := false
  stash : Bool := false
  glyphs : Glyphs := {}
  deriving DecidableEq, Repr

namespace Settings

open Json

def look (settings : Settings) : Appearance := ⟨settings.color, settings.glyphs⟩

def member? (name : Text) (members : List (Option Text × Value)) : Option (Option Value) :=
  match members.filter fun member => member.1 == some name with
  | [] => some none
  | [(_, value)] => some (some value)
  | _ => none

/-- The values given for a list of names. The names in an object must all be readable; an array
may be shorter than the list but not longer. -/
def slots? (names : List Text) : Value → Option (List (Option Value))
  | .object members =>
    if members.all fun member => member.1.isSome then names.mapM fun name => member? name members
    else none
  | .array items =>
    if items.length ≤ names.length then
      some (items.map some ++ List.replicate (names.length - items.length) none)
    else none
  | _ => none

def text? : Value → Option Text
  | .string content => content
  | _ => none

def boolean? : Value → Option Bool
  | .boolean value => some value
  | _ => none

def textOrNull? : Value → Option (Option Text)
  | .null => some none
  | .string content => content.map some
  | _ => none

def slot? {α : Type} (usual : α) (read : Value → Option α) : Option Value → Option α
  | none => some usual
  | some value => read value

def glyphNames : List Text :=
  ["branch".toList, "modified".toList, "dirty".toList, "clean".toList, "untracked".toList,
    "unmerged".toList, "ahead".toList, "behind".toList, "stash".toList]

def glyphs? (value : Value) : Option Glyphs :=
  let usual : Glyphs := {}
  match slots? glyphNames value with
  | some [branch, modified, dirty, clean, untracked, unmerged, ahead, behind, stash] => do
    let branch ← slot? usual.branch text? branch
    let modified ← slot? usual.modified text? modified
    let dirty ← slot? usual.dirty text? dirty
    let clean ← slot? usual.clean text? clean
    let untracked ← slot? usual.untracked text? untracked
    let unmerged ← slot? usual.unmerged text? unmerged
    let ahead ← slot? usual.ahead text? ahead
    let behind ← slot? usual.behind text? behind
    let stash ← slot? usual.stash text? stash
    some ⟨branch, modified, dirty, clean, untracked, unmerged, ahead, behind, stash⟩
  | _ => none

def names : List Text :=
  ["format".toList, "color".toList, "no_tag".toList, "stash".toList, "glyphs".toList]

def ofValue? (value : Value) : Option Settings :=
  let usual : Settings := {}
  match slots? names value with
  | some [format, color, noTag, stash, glyphs] => do
    let format ← slot? usual.format textOrNull? format
    let color ← slot? usual.color boolean? color
    let noTag ← slot? usual.noTag boolean? noTag
    let stash ← slot? usual.stash boolean? stash
    let glyphs ← slot? usual.glyphs glyphs? glyphs
    some ⟨format, color, noTag, stash, glyphs⟩
  | _ => none

def ofText? (text : Text) : Option Settings := (Json.read? text).bind ofValue?

/-- The settings from what stands at the path of the settings file. Nothing there means the
defaults; anything that cannot be read is a failure and never a default. -/
def load (path : Text) : Option Entry → Except Failure Settings
  | none => .ok {}
  | some .directory => .error (.refused "Is a directory (os error 21)".toList)
  | some (.file content) =>
    match Utf8.decode? content with
    | none => .error (.refused "stream did not contain valid UTF-8".toList)
    | some text =>
      match ofText? text with
      | none => .error (.badSettings path "these are no settings".toList)
      | some settings => .ok settings

end Settings

end StatusPrompt
