import StatusPrompt.OnDisk.Ascii

/-!
Patterns for paths. A question mark stands for one character and a star for any number of them,
both within a component; two stars that fill a component stand for any number of components. A
bracket opens a class of characters, and a backslash takes the next character as it is. A pattern
that is not well formed matches nothing.

Matching keeps a row of answers, one for each end piece of the text from the whole to the empty
one: whether that piece is what the parts so far stand for. A further part in front of these gives
the next row in one pass over the text, however many stars there are.
-/

namespace StatusPrompt.OnDisk.Glob

inductive Member where
  | one (c : Char)
  | range (first last : Char)
  | named (kind : Ascii.Kind)
  deriving DecidableEq, Repr

inductive Part where
  | literal (c : Char)
  /-- A character after a backslash, whose case counts even where case is ignored. -/
  | exact (c : Char)
  | single
  /-- Anything within a component. -/
  | run
  /-- Anything at all. -/
  | tree
  /-- Nothing, or anything that a slash follows. -/
  | descent
  | oneOf (negated : Bool) (members : List Member)
  deriving DecidableEq, Repr

/-- The members of a class up to the bracket that closes it, and what follows the bracket. A
bracket that would close the class at once is a member; so is a hyphen without a member on either
side. Every step takes a character, so the length of the text bounds the steps. -/
def members : Nat → Bool → Option Char → Text → Option (List Member × Text)
  | 0, _, _, _ => none
  | _, _, _, [] => none
  | bound + 1, begun, previous, c :: rest =>
    let add : Member → Option (List Member × Text) → Option (List Member × Text) :=
      fun member => Option.map fun (more, after) => (member :: more, after)
    let plain : Unit → Option (List Member × Text) :=
      fun _ => add (.one c) (members bound true (some c) rest)
    if c = ']' ∧ begun then some ([], rest)
    else match c, previous, rest with
      | '\\', _, [] => none
      | '\\', _, next :: after => add (.one next) (members bound true (some next) after)
      | '-', some first, '\\' :: last :: after =>
        add (.range first last) (members bound true none after)
      | '-', some _, ['\\'] => none
      | '-', some first, last :: after =>
        if last = ']' then plain () else add (.range first last) (members bound true none after)
      | '[', _, ':' :: inner =>
        let name := inner.takeWhile (· != ']')
        match inner.dropWhile (· != ']') with
        | [] => none
        | _ :: after =>
          if name.getLast? = some ':' then
            (Ascii.Kind.ofName? name.dropLast).bind fun kind =>
              add (.named kind) (members bound true none after)
          else plain ()
      | _, _, _ => plain ()

def partsFrom : Nat → Bool → Text → Option (List Part)
  | _, _, [] => some []
  | 0, _, _ => none
  | bound + 1, fresh, c :: rest =>
    let add : Part → Option (List Part) → Option (List Part) :=
      fun part => Option.map (part :: ·)
    match c with
    | '\\' =>
      match rest with
      | [] => none
      | next :: after => add (.exact next) (partsFrom bound (next == '/') after)
    | '?' => add .single (partsFrom bound false rest)
    | '*' =>
      let after := rest.dropWhile (· == '*')
      if fresh ∧ rest.head? = some '*' then
        match after with
        | [] => some [.tree]
        | '/' :: below => add .descent (partsFrom bound true below)
        | '\\' :: '/' :: _ => add .tree (partsFrom bound false after)
        | _ => add .run (partsFrom bound false after)
      else add .run (partsFrom bound false after)
    | '[' =>
      let negated := rest.head? = some '!' ∨ rest.head? = some '^'
      let inner := if negated then rest.tail else rest
      (members (inner.length + 1) false none inner).bind fun (listed, after) =>
        add (.oneOf negated listed) (partsFrom bound false after)
    | _ => add (.literal c) (partsFrom bound (c == '/') rest)

def parts? (pattern : Text) : Option (List Part) := partsFrom pattern.length true pattern

def Member.holds (fold : Bool) (c : Char) : Member → Bool
  | .one member => c == member
  | .range first last =>
    (first ≤ c && c ≤ last) || (fold && first ≤ Ascii.upper c && Ascii.upper c ≤ last)
  | .named kind => kind.holds c || (fold && kind == .upper && Ascii.isLower c)

def Part.admits (fold : Bool) (c : Char) : Part → Bool
  | .literal wanted => if fold then Ascii.lower wanted == Ascii.lower c else wanted == c
  | .exact wanted => wanted == (if fold then Ascii.lower c else c)
  | .single => c != '/'
  | .oneOf negated listed =>
    c != '/' && (listed.any (Member.holds fold (if fold then Ascii.lower c else c)) != negated)
  | _ => false

def first (row : List Bool) : Bool := row.head?.getD false

def afterOne (passes : Char → Bool) : Text → List Bool → List Bool
  | c :: rest, _ :: later => (passes c && first later) :: afterOne passes rest later
  | _, _ => [false]

def afterSome (passes : Char → Bool) : Text → List Bool → List Bool
  | c :: rest, here :: later =>
    let further := afterSome passes rest later
    (here || (passes c && first further)) :: further
  | _, row => row

def Part.before (fold : Bool) (text : Text) (row : List Bool) : Part → List Bool
  | .run => afterSome (· != '/') text row
  | .tree => afterSome (fun _ => true) text row
  | .descent =>
    row.zipWith (· || ·) (afterSome (fun _ => true) text (afterOne (· == '/') text row))
  | part => afterOne (part.admits fold) text row

def endRow (text : Text) : List Bool := text.map (fun _ => false) ++ [true]

def fits (fold : Bool) (parts : List Part) (text : Text) : Bool :=
  first (parts.foldr (fun part row => part.before fold text row) (endRow text))

def isMatch (fold : Bool) (pattern text : Text) : Bool :=
  match parts? pattern with
  | some parts => fits fold parts text
  | none => false

end StatusPrompt.OnDisk.Glob
