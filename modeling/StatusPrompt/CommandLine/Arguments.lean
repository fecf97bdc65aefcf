import StatusPrompt.Prompt

/-!
The arguments of the command. Every option may be given once; an option with a value takes the
rest of its argument or, if that is empty, the next argument, which then must not look like an
option. Help and version act as soon as they are met; a fault before them goes first.
-/

namespace StatusPrompt.CommandLine

structure Flags where
  debug : Bool := false
  directory : Option Text := none
  format : Option Text := none
  raw : Bool := false
  noTag : Bool := false
  noColor : Bool := false
  stash : Bool := false
  deriving DecidableEq, Repr

inductive Request where
  | prompt (flags : Flags)
  | help
  | version
  | misuse
  deriving DecidableEq, Repr

inductive Switch where
  | debug
  | raw
  | noTag
  | noColor
  | stash
  deriving DecidableEq, Repr

inductive Parameter where
  | directory
  | format
  deriving DecidableEq, Repr

/-- What an option is: a switch, a parameter with a value, or a question about the command. -/
inductive Meaning where
  | switch (switch : Switch)
  | parameter (parameter : Parameter)
  | help
  | version
  deriving DecidableEq, Repr

def ofLongName? (name : Text) : Option Meaning :=
  if name = "debug".toList then some (.switch .debug)
  else if name = "raw".toList then some (.switch .raw)
  else if name = "no-tag".toList then some (.switch .noTag)
  else if name = "no-color".toList then some (.switch .noColor)
  else if name = "stash".toList then some (.switch .stash)
  else if name = "dir".toList then some (.parameter .directory)
  else if name = "format".toList then some (.parameter .format)
  else if name = "help".toList then some .help
  else if name = "version".toList then some .version
  else none

def ofLetter? : Char → Option Meaning
  | 'v' => some (.switch .debug)
  | 'd' => some (.parameter .directory)
  | 'f' => some (.parameter .format)
  | 'h' => some .help
  | 'V' => some .version
  | _ => none

namespace Flags

def turnOn (flags : Flags) : Switch → Option Flags
  | .debug => if flags.debug then none else some { flags with debug := true }
  | .raw => if flags.raw then none else some { flags with raw := true }
  | .noTag => if flags.noTag then none else some { flags with noTag := true }
  | .noColor => if flags.noColor then none else some { flags with noColor := true }
  | .stash => if flags.stash then none else some { flags with stash := true }

def give (flags : Flags) (value : Text) : Parameter → Option Flags
  | .directory =>
    if flags.directory.isSome ∨ value = [] then none
    else some { flags with directory := some value }
  | .format => if flags.format.isSome then none else some { flags with format := some value }

def agree (flags : Flags) : Bool := !(flags.raw && flags.format.isSome)

def request (flags : Flags) : Request := if flags.agree then .prompt flags else .misuse

end Flags

/-- Where one argument leaves the reading: on to the next one, waiting for a value, or decided. -/
inductive Step where
  | next (flags : Flags)
  | awaits (parameter : Parameter) (flags : Flags)
  | decided (request : Request)
  deriving DecidableEq, Repr

def Step.ofFlags? : Option Flags → Step
  | some flags => .next flags
  | none => .decided .misuse

def attached : Text → Text
  | '=' :: rest => rest
  | text => text

def letters (flags : Flags) : Text → Step
  | [] => .next flags
  | letter :: rest =>
    match ofLetter? letter with
    | none => .decided .misuse
    | some .help => .decided .help
    | some .version => .decided .version
    | some (.parameter parameter) =>
      if rest = [] then .awaits parameter flags
      else .ofFlags? (flags.give (attached rest) parameter)
    | some (.switch switch) =>
      match flags.turnOn switch with
      | none => .decided .misuse
      | some flags => letters flags rest

def named (flags : Flags) (name : Text) (value : Option Text) : Step :=
  match ofLongName? name, value with
  | none, _ => .decided .misuse
  | some (.parameter parameter), none => .awaits parameter flags
  | some (.parameter parameter), some value => .ofFlags? (flags.give value parameter)
  | some _, some _ => .decided .misuse
  | some (.switch switch), none => .ofFlags? (flags.turnOn switch)
  | some .help, none => .decided .help
  | some .version, none => .decided .version

def splitValue : Text → Text × Option Text
  | [] => ([], none)
  | '=' :: rest => ([], some rest)
  | c :: rest =>
    let (name, value) := splitValue rest
    (c :: name, value)

/-- One argument. Whatever is no option is misuse, also a dash alone and the empty argument. -/
def argument (flags : Flags) : Text → Step
  | '-' :: '-' :: option => named flags (splitValue option).1 (splitValue option).2
  | '-' :: letter :: rest => letters flags (letter :: rest)
  | _ => .decided .misuse

def canBeValue : Text → Bool
  | '-' :: _ :: _ => false
  | _ => true

def parseFrom (flags : Flags) : List Text → Request
  | [] => flags.request
  | ['-', '-'] :: rest => if rest = [] then flags.request else .misuse
  | text :: rest =>
    match argument flags text with
    | .next flags => parseFrom flags rest
    | .decided request => request
    | .awaits parameter flags =>
      match rest with
      | [] => .misuse
      | value :: more =>
        if canBeValue value then
          match flags.give value parameter with
          | some flags => parseFrom flags more
          | none => .misuse
        else .misuse

def parse (arguments : List Text) : Request := parseFrom {} arguments

def Flags.options (flags : Flags) (settings : Settings) : Options :=
  let given := Options.ofSettings settings (flags.directory.getD ['.'])
  { given with
    layout :=
      if flags.raw then .raw
      else match flags.format with
        | some template => .format template
        | none => given.layout
    wantsTag := given.wantsTag && !flags.noTag
    wantsStash := given.wantsStash || flags.stash
    look := { given.look with color := given.look.color && !flags.noColor } }

end StatusPrompt.CommandLine
