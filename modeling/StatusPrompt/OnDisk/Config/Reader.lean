import StatusPrompt.OnDisk.Config.Basic
import StatusPrompt.Text.Lines

/-!
Reading a configuration file: lines that open a section or assign a variable. The reader goes line
by line; its state is the section it is in, the variables so far, and a value that continues on
the next line. An assignment may bring in more variables, as one that includes a file does; what
it brings in is given to the reader as a function, and may end the reading early.
-/

namespace StatusPrompt.OnDisk.Config

def isNameChar (c : Char) : Bool := Ascii.isAlphanumeric c || c == '-'

/-- The line before its comment, and whether it ends inside quotes. A comment sign counts only
outside quotes and after an even number of backslashes. -/
def uncommented (quoted : Bool) (slashes : Nat) (previous : Option Char) : Text → Text × Bool
  | [] => ([], quoted)
  | c :: rest =>
    let quoted := if c == '"' && previous != some '\\' then !quoted else quoted
    if (c = ';' ∨ c = '#') ∧ quoted = false ∧ slashes % 2 = 0 then ([], quoted)
    else
      let (kept, after) := uncommented quoted (if c = '\\' then slashes + 1 else 0) (some c) rest
      (c :: kept, after)

def stripped (quoted : Bool) (line : Text) : Text × Bool :=
  let (kept, after) := uncommented quoted 0 none (Octets.untilZero line)
  (Ascii.dropSpaceEnd kept, after)

def unescaped : Text → Option (Text × Bool)
  | [] => some ([], false)
  | ['\\'] => some ([], true)
  | '\\' :: c :: rest =>
    let meant : Option Char := match c with
      | 'n' => some '\n'
      | 't' => some '\t'
      | 'b' => some '\x08'
      | '"' => some '"'
      | '\\' => some '\\'
      | _ => none
    meant.bind fun shown => (unescaped rest).map fun (value, more) => (shown :: value, more)
  | '"' :: rest => unescaped rest
  | c :: rest => (unescaped rest).map fun (value, more) => (c :: value, more)

def quotedPart : Text → Option (Text × Text)
  | [] => none
  | '"' :: rest => some ([], rest)
  | '\\' :: rest =>
    match rest with
    | [] => none
    | c :: more =>
      if c = '\x00' then none
      else (quotedPart more).map fun (part, after) => (c :: part, after)
  | c :: rest =>
    if c = '\x00' then none
    else (quotedPart rest).map fun (part, after) => (c :: part, after)

def sectionName (text : Text) : Option (Text × Text) :=
  let name := (text.takeWhile fun c => isNameChar c || c == '.').map Ascii.lower
  match text.dropWhile fun c => isNameChar c || c == '.' with
  | ']' :: rest => if name = [] then none else some (name, rest)
  | c :: rest =>
    if Ascii.isSpace c then
      match Ascii.skipSpace rest with
      | '"' :: quoted =>
        match quotedPart quoted with
        | some (part, ']' :: after) => some (name ++ ['.'] ++ part, after)
        | _ => none
      | _ => none
    else none
  | [] => none

structure Continued where
  name : Text
  value : Text
  quoted : Bool

structure Portion where
  assigned : Config := []
  /-- Whether the reading ended before the file did. -/
  isCut : Bool := false

structure State where
  heading : Option Text := none
  read : Portion := {}
  continued : Option Continued := none

abbrev Expansion := Text → Option Text → Option Portion

def State.assign (expand : Expansion) (state : State) (name : Text) (value : Option Text) :
    Option State :=
  (expand name value).map fun more =>
    { state with
      read := ⟨more.assigned ++ (name, value) :: state.read.assigned, more.isCut⟩
      continued := none }

def State.fullName (state : State) (name : Text) : Text :=
  match state.heading with
  | some heading => heading ++ ['.'] ++ name.map Ascii.lower
  | none => name.map Ascii.lower

def assignment (expand : Expansion) (state : State) (line : Text) : Option State :=
  let (text, quoted) := stripped false line
  let name := text.takeWhile isNameChar
  if name = [] then none
  else match Ascii.skipSpace (text.dropWhile isNameChar) with
    | [] => state.assign expand (state.fullName name) none
    | '=' :: written =>
      match unescaped (Ascii.skipSpace written) with
      | none => none
      | some (value, false) => state.assign expand (state.fullName name) (some value)
      | some (value, true) =>
        some { state with continued := some ⟨state.fullName name, value, quoted⟩ }
    | _ :: _ => none

/-- What stands on a line. A section header may be followed by more on the same line, and takes
at least one character of it, so the length of the line bounds how often that happens. -/
def statements (expand : Expansion) : Nat → State → Text → Option State
  | 0, state, _ => some state
  | bound + 1, state, line =>
    match Ascii.skipSpace line with
    | [] => some state
    | '[' :: rest =>
      match sectionName rest with
      | none => none
      | some (name, after) =>
        statements expand bound { state with heading := some name } after
    | ';' :: _ => some state
    | '#' :: _ => some state
    | text => assignment expand state text

def isEmptyLine : Text → Bool
  | [] => true
  | c :: _ => c == ' ' || c == '\t' || c == '\r'

def freshLine (expand : Expansion) (state : State) (line : Text) : Option State :=
  if Ascii.skipSpace line = [] then
    if isEmptyLine line then some state else none
  else statements expand (line.length + 1) state line

def continuedLine (expand : Expansion) (state : State) (begun : Continued) (line : Text) :
    Option State :=
  if line.head? = some '\x00' then state.assign expand begun.name (some begun.value)
  else
    let (text, quoted) := stripped begun.quoted line
    if text = [] then some { state with continued := some { begun with quoted := quoted } }
    else match unescaped text with
      | none => none
      | some (value, false) => state.assign expand begun.name (some (begun.value ++ value))
      | some (value, true) =>
        some { state with continued := some ⟨begun.name, begun.value ++ value, quoted⟩ }

def State.line (expand : Expansion) (state : State) (line : Text) : Option State :=
  if state.read.isCut then some state
  else match state.continued with
    | some begun => continuedLine expand state begun line
    | none => freshLine expand state line

def State.finish (expand : Expansion) (state : State) : Option Portion :=
  match state.continued with
  | some begun => (state.assign expand begun.name (some begun.value)).map State.read
  | none => some state.read

def mark : Text := Octets.ofChar '\uFEFF'

def dropMark (text : Text) : Text :=
  if mark.isPrefixOf text then text.drop mark.length else text

def read? (expand : Expansion) (text : Text) : Option Portion :=
  if text.head? = some '\x00' then some {}
  else ((Text.fields '\n' (dropMark text)).foldlM (State.line expand) {}).bind
    (State.finish expand)

end StatusPrompt.OnDisk.Config
