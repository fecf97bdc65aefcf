import StatusPrompt.Path

/-!
What is in a directory, in the order in which it came there: files, and directories with what is in
them. Names are rows of bytes, whether or not these are the form of any text; each byte is given as
a character.
-/

namespace StatusPrompt

inductive Entry where
  | directory
  | file (content : List UInt8)
  deriving DecidableEq, Repr

inductive Listing where
  | done
  | file (name : Text) (content : List UInt8) (rest : Listing)
  | directory (name : Text) (inside rest : Listing)
  deriving Repr

namespace Listing

def find? : Listing → Text → List Text → Option Entry
  | .done, _, _ => none
  | .file other content rest, name, below =>
    if other = name then if below = [] then some (.file content) else none
    else rest.find? name below
  | .directory other inside rest, name, below =>
    if other = name then
      match below with
      | [] => some .directory
      | next :: more => inside.find? next more
    else rest.find? name below

def single (rest : Listing) (name : Text) : List Text → Entry → Listing
  | [], .file content => .file name content rest
  | [], .directory => .directory name .done rest
  | next :: more, entry => .directory name (single .done next more entry) rest

/-- Puts an entry at a name, or at a path of components below it, and makes the directories that are
missing. A directory that is there already keeps what is in it. -/
def put : Listing → Text → List Text → Entry → Listing
  | .done, name, below, entry => single .done name below entry
  | .file other content rest, name, below, entry =>
    if other = name then single rest name below entry
    else .file other content (rest.put name below entry)
  | .directory other inside rest, name, below, entry =>
    if other = name then
      match below, entry with
      | [], .directory => .directory other inside rest
      | [], .file content => .file name content rest
      | next :: more, entry => .directory other (inside.put next more entry) rest
    else .directory other inside (rest.put name below entry)

end Listing

end StatusPrompt
