import Mathlib.Data.List.Perm.Basic
import StatusPrompt.Proofs.CommandLine.Options

/-!
What accepted arguments are made of. They write a row of demands, one for each option, in one of the
spellings that an option has; two dashes may end them. Demands on different options change
different flags, and a second demand on one option is refused wherever the first one stands. So
neither the order of the options nor how they are written makes any difference.
-/

namespace StatusPrompt.CommandLine

inductive Demand where
  | turn (switch : Switch)
  | give (parameter : Parameter) (value : Text)
  deriving DecidableEq, Repr

namespace Demand

def meaning : Demand → Meaning
  | .turn switch => .switch switch
  | .give parameter _ => .parameter parameter

def isNameless : Demand → Bool
  | .give .directory value => value = []
  | _ => false

end Demand

namespace Flags

def take (flags : Flags) : Demand → Option Flags
  | .turn switch => flags.turnOn switch
  | .give parameter value => flags.give value parameter

def put (flags : Flags) : Demand → Flags
  | .turn .debug => { flags with debug := true }
  | .turn .raw => { flags with raw := true }
  | .turn .noTag => { flags with noTag := true }
  | .turn .noColor => { flags with noColor := true }
  | .turn .stash => { flags with stash := true }
  | .give .directory value => { flags with directory := some value }
  | .give .format value => { flags with format := some value }

def takeAll (flags : Flags) (demands : List Demand) : Option Flags :=
  demands.foldl (fun held demand => held.bind (·.take demand)) (some flags)

theorem take_eq (flags : Flags) (demand : Demand) :
    flags.take demand =
      if flags.has demand.meaning ∨ demand.isNameless then none else some (flags.put demand) := by
  rcases demand with (_ | _ | _ | _ | _) | ⟨_ | _, value⟩ <;>
    simp only [take, turnOn, give, put, has, Demand.meaning, Demand.isNameless, decide_eq_true_eq,
      Bool.false_eq_true, or_false]

@[simp] theorem put_has (flags : Flags) (demand : Demand) (meaning : Meaning) :
    (flags.put demand).has meaning = (flags.has meaning || meaning = demand.meaning) := by
  rcases demand with (_ | _ | _ | _ | _) | ⟨_ | _, value⟩ <;>
    rcases meaning with (_ | _ | _ | _ | _) | (_ | _) | _ | _ <;>
    simp [put, has, Demand.meaning]

theorem put_comm (flags : Flags) (first second : Demand)
    (apart : first.meaning ≠ second.meaning) :
    (flags.put first).put second = (flags.put second).put first := by
  rcases first with (_ | _ | _ | _ | _) | ⟨_ | _, value⟩ <;>
    rcases second with (_ | _ | _ | _ | _) | ⟨_ | _, other⟩ <;>
    first
    | rfl
    | exact absurd rfl apart

theorem take_take (flags : Flags) (first second : Demand) :
    (flags.take first).bind (·.take second) =
      if (flags.has first.meaning ∨ first.isNameless) ∨
          (flags.has second.meaning ∨ second.isNameless) ∨ first.meaning = second.meaning then none
      else some ((flags.put first).put second) := by
  rw [take_eq]
  by_cases early : flags.has first.meaning ∨ first.isNameless
  · rw [if_pos early, if_pos (Or.inl early), Option.bind_none]
  · rw [if_neg early, Option.bind_some, take_eq, put_has]
    refine if_congr ?_ rfl rfl
    simp only [early, false_or, Bool.or_eq_true, decide_eq_true_eq]
    grind

theorem take_comm (flags : Flags) (first second : Demand) :
    (flags.take first).bind (·.take second) = (flags.take second).bind (·.take first) := by
  rw [take_take, take_take]
  by_cases same : first.meaning = second.meaning
  · rw [if_pos (by simp only [same, or_true]), if_pos (by simp only [same, or_true])]
  · rw [put_comm flags first second same]
    exact if_congr (by grind) rfl rfl

@[simp] theorem takeAll_cons (flags : Flags) (demand : Demand) (more : List Demand) :
    flags.takeAll (demand :: more) = (flags.take demand).bind (·.takeAll more) := by
  unfold takeAll
  rw [List.foldl_cons, Option.bind_some]
  cases flags.take demand with
  | some after => rfl
  | none =>
    induction more with
    | nil => rfl
    | cons next rest ih => exact ih

@[simp] theorem takeAll_append (flags : Flags) (first second : List Demand) :
    flags.takeAll (first ++ second) = (flags.takeAll first).bind (·.takeAll second) := by
  induction first generalizing flags with
  | nil => rfl
  | cons demand more ih =>
    rw [List.cons_append, takeAll_cons, takeAll_cons, Option.bind_assoc]
    exact congrArg _ (funext fun after => ih after)

theorem takeAll_of_perm (flags : Flags) (first second : List Demand) (perm : first.Perm second) :
    flags.takeAll first = flags.takeAll second := by
  refine perm.foldl_eq' ?_ (some flags)
  intro demand _ other _ held
  cases held with
  | none => rfl
  | some flags => exact flags.take_comm demand other

end Flags

abbrev Letters (text : Text) (switches : List Switch) : Prop :=
  List.Forall₂ (fun letter switch => ofLetter? letter = some (.switch switch)) text switches

/-- How one option is written, or several switches in one argument: by name, with a value behind an
equals sign or in the next argument, or by letter, behind none but switches, with a value behind it
in the same argument or in the next one. -/
inductive WritesOption : List Text → List Demand → Prop
  | switch (name : Text) (switch : Switch) (known : ofLongName? name = some (.switch switch)) :
      WritesOption ['-' :: '-' :: name] [.turn switch]
  | equals (name value : Text) (parameter : Parameter)
      (known : ofLongName? name = some (.parameter parameter)) :
      WritesOption ['-' :: '-' :: (name ++ '=' :: value)] [.give parameter value]
  | apart (name value : Text) (parameter : Parameter)
      (known : ofLongName? name = some (.parameter parameter)) (fits : canBeValue value = true) :
      WritesOption ['-' :: '-' :: name, value] [.give parameter value]
  | letters (text : Text) (switches : List Switch) (spelled : Letters text switches)
      (filled : text ≠ []) : WritesOption ['-' :: text] (switches.map .turn)
  | attached (text : Text) (switches : List Switch) (letter : Char) (parameter : Parameter)
      (rest : Text) (spelled : Letters text switches)
      (known : ofLetter? letter = some (.parameter parameter)) (filled : rest ≠ []) :
      WritesOption ['-' :: (text ++ letter :: rest)]
        (switches.map .turn ++ [.give parameter (attached rest)])
  | letterApart (text : Text) (switches : List Switch) (letter : Char) (parameter : Parameter)
      (value : Text) (spelled : Letters text switches)
      (known : ofLetter? letter = some (.parameter parameter)) (fits : canBeValue value = true) :
      WritesOption ['-' :: (text ++ [letter]), value]
        (switches.map .turn ++ [.give parameter value])

/-- Arguments that write options one after the other. Two dashes alone may end them. -/
inductive Writes : List Text → List Demand → Prop
  | done : Writes [] []
  | ended : Writes [['-', '-']] []
  | option (option rest : List Text) (demands more : List Demand)
      (first : WritesOption option demands) (further : Writes rest more) :
      Writes (option ++ rest) (demands ++ more)

/-- Switches are turned on from the left, and then the letters behind them are read. -/
theorem letters_append (flags : Flags) (text rest : Text) (switches : List Switch)
    (spelled : Letters text switches) :
    letters flags (text ++ rest) =
      ((flags.takeAll (switches.map .turn)).map (letters · rest)).getD (.decided .misuse) := by
  induction spelled generalizing flags with
  | nil => rfl
  | cons known spelled ih =>
    rename_i letter switch text switches
    rw [List.cons_append, letters, known, List.map_cons, Flags.takeAll_cons]
    dsimp only
    show _ = (((flags.turnOn switch).bind _).map _).getD _
    cases flags.turnOn switch with
    | none => rfl
    | some after => exact ih after

theorem parseFrom_cons (flags : Flags) (text : Text) (rest : List Text)
    (other : text ≠ ['-', '-']) :
    parseFrom flags (text :: rest) =
      match argument flags text with
      | .next flags => parseFrom flags rest
      | .decided request => request
      | .awaits parameter flags =>
        match rest with
        | [] => .misuse
        | value :: more =>
          if canBeValue value then
            match flags.give value parameter with
            | some flags => parseFrom flags more
            | none => .misuse
          else .misuse :=
  parseFrom.eq_3 flags text rest other

theorem parseFrom_whole (flags : Flags) (text : Text) (rest : List Text) (taken : Option Flags)
    (other : text ≠ ['-', '-']) (reads : argument flags text = .ofFlags? taken) :
    parseFrom flags (text :: rest) = (taken.map (parseFrom · rest)).getD .misuse := by
  rw [parseFrom_cons flags text rest other, reads]
  cases taken <;> rfl

theorem parseFrom_apart (flags : Flags) (text value : Text) (rest : List Text)
    (taken : Option Flags) (parameter : Parameter) (other : text ≠ ['-', '-'])
    (fits : canBeValue value = true)
    (reads : argument flags text =
      (taken.map (Step.awaits parameter)).getD (.decided .misuse)) :
    parseFrom flags (text :: value :: rest) =
      ((taken.bind (·.give value parameter)).map (parseFrom · rest)).getD .misuse := by
  rw [parseFrom_cons flags text _ other, reads]
  cases taken with
  | none => rfl
  | some after =>
    dsimp only [Option.map_some, Option.getD_some]
    rw [if_pos fits, Option.bind_some]
    cases after.give value parameter <;> rfl

theorem argument_name (flags : Flags) (name : Text) (meaning : Meaning)
    (known : ofLongName? name = some meaning) :
    argument flags ('-' :: '-' :: name) = named flags name none ∧
      '-' :: '-' :: name ≠ ['-', '-'] := by
  constructor
  · rw [argument, splitValue_whole name (equals_not_mem_name name meaning known)]
  · intro same
    rw [(List.cons.inj (List.cons.inj same).2).2] at known
    cases known

theorem argument_name_equals (flags : Flags) (name value : Text) (meaning : Meaning)
    (known : ofLongName? name = some meaning) :
    argument flags ('-' :: '-' :: (name ++ '=' :: value)) = named flags name (some value) ∧
      '-' :: '-' :: (name ++ '=' :: value) ≠ ['-', '-'] := by
  constructor
  · rw [argument, splitValue_equals name value (equals_not_mem_name name meaning known)]
  · simp

/-- Behind one dash switches are turned on, and then the letters behind them are read. -/
theorem argument_switches (flags : Flags) (text rest : Text) (switches : List Switch)
    (spelled : Letters text switches)
    (opens : text = [] → ∃ c more meaning, rest = c :: more ∧ ofLetter? c = some meaning) :
    argument flags ('-' :: (text ++ rest)) =
        ((flags.takeAll (switches.map .turn)).map (letters · rest)).getD (.decided .misuse) ∧
      '-' :: (text ++ rest) ≠ ['-', '-'] := by
  have behind : ∀ c more meaning, ofLetter? c = some meaning →
      argument flags ('-' :: c :: more) = letters flags (c :: more) ∧
        '-' :: c :: more ≠ ['-', '-'] := by
    intro c more meaning known
    have letter : c ≠ '-' := by
      rintro rfl
      cases known
    exact ⟨argument_letters flags c more letter, fun same =>
      letter (List.cons.inj (List.cons.inj same).2).1⟩
  rw [← letters_append flags text rest switches spelled]
  cases spelled with
  | nil =>
    obtain ⟨c, more, meaning, rfl, known⟩ := opens rfl
    exact behind c more meaning known
  | cons known spelled => exact behind _ _ _ known

theorem parseFrom_option (flags : Flags) (option rest : List Text) (demands : List Demand)
    (written : WritesOption option demands) :
    parseFrom flags (option ++ rest) =
      ((flags.takeAll demands).map (parseFrom · rest)).getD .misuse := by
  cases written with
  | switch name switch known =>
    obtain ⟨reads, other⟩ := argument_name flags name _ known
    apply parseFrom_whole flags _ rest _ other
    unfold named at reads
    rw [reads, known]
    rfl
  | equals name value parameter known =>
    obtain ⟨reads, other⟩ := argument_name_equals flags name value _ known
    apply parseFrom_whole flags _ rest _ other
    unfold named at reads
    rw [reads, known]
    rfl
  | apart name value parameter known fits =>
    obtain ⟨reads, other⟩ := argument_name flags name _ known
    apply parseFrom_apart flags _ value rest (some flags) parameter other fits
    unfold named at reads
    rw [reads, known]
    rfl
  | letters text switches spelled filled =>
    obtain ⟨reads, other⟩ := argument_switches flags text [] switches spelled
      fun empty => absurd empty filled
    rw [List.append_nil] at reads other
    apply parseFrom_whole flags _ rest _ other
    rw [reads]
    cases flags.takeAll (switches.map .turn) <;> rfl
  | attached text switches letter parameter behind spelled known filled =>
    obtain ⟨reads, other⟩ := argument_switches flags text (letter :: behind) switches spelled
      fun _ => ⟨letter, behind, _, rfl, known⟩
    apply parseFrom_whole flags _ rest _ other
    rw [reads, Flags.takeAll_append]
    cases flags.takeAll (switches.map .turn) with
    | none => rfl
    | some after =>
      rw [Option.map_some, Option.getD_some, letters, known]
      dsimp only
      rw [if_neg filled]
      rfl
  | letterApart text switches letter parameter value spelled known fits =>
    obtain ⟨reads, other⟩ := argument_switches flags text [letter] switches spelled
      fun _ => ⟨letter, [], _, rfl, known⟩
    rw [Flags.takeAll_append]
    apply parseFrom_apart flags _ value rest _ parameter other fits
    rw [reads]
    cases flags.takeAll (switches.map .turn) with
    | none => rfl
    | some after =>
      rw [Option.map_some, Option.getD_some, letters, known]
      rfl

theorem parseFrom_of_writes (flags : Flags) (arguments : List Text) (demands : List Demand)
    (written : Writes arguments demands) :
    parseFrom flags arguments = ((flags.takeAll demands).map Flags.request).getD .misuse := by
  induction written generalizing flags with
  | done => rfl
  | ended => rfl
  | option option rest demands more first further ih =>
    rw [parseFrom_option flags option rest demands first, Flags.takeAll_append]
    cases flags.takeAll demands with
    | none => rfl
    | some after => exact ih after

theorem splitValue_joined (text : Text) :
    text = (splitValue text).1 ++ ((splitValue text).2.map ('=' :: ·)).getD [] := by
  fun_induction splitValue text with
  | case1 => rfl
  | case2 rest => rfl
  | case3 c rest other name value cut ih =>
    rw [cut] at ih
    exact congrArg (c :: ·) ih

/-- An argument that is read writes options, on its own or with the value that it waits for. -/
def Step.Writes (text : Text) : Step → Prop
  | .next _ => ∃ demands, WritesOption [text] demands
  | .awaits _ _ =>
    ∀ value, canBeValue value = true → ∃ demands, WritesOption [text, value] demands
  | .decided _ => True

theorem Step.ofFlags?_writes (text : Text) (taken : Option Flags)
    (written : ∃ demands, WritesOption [text] demands) : (Step.ofFlags? taken).Writes text := by
  cases taken with
  | none => trivial
  | some after => exact written

theorem named_writes (flags : Flags) (option : Text) :
    (named flags (splitValue option).1 (splitValue option).2).Writes ('-' :: '-' :: option) := by
  have joined := splitValue_joined option
  generalize (splitValue option).1 = name at joined
  generalize (splitValue option).2 = value at joined
  subst joined
  unfold named
  split
  next => trivial
  next parameter known =>
    intro value fits
    rw [Option.map_none, Option.getD_none, List.append_nil]
    exact ⟨_, .apart name value parameter known fits⟩
  next parameter value known =>
    exact Step.ofFlags?_writes _ _ ⟨_, .equals name value parameter known⟩
  next => trivial
  next switch known =>
    rw [Option.map_none, Option.getD_none, List.append_nil]
    exact Step.ofFlags?_writes _ _ ⟨_, .switch name switch known⟩
  next => trivial
  next => trivial

theorem letters_writes (flags : Flags) (text rest : Text) (switches : List Switch)
    (spelled : Letters text switches) (filled : text ++ rest ≠ []) :
    (letters flags rest).Writes ('-' :: (text ++ rest)) := by
  induction rest generalizing flags text switches with
  | nil =>
    rw [List.append_nil] at filled ⊢
    exact ⟨_, .letters text switches spelled filled⟩
  | cons letter more ih =>
    rw [letters]
    cases known : ofLetter? letter with
    | none => trivial
    | some meaning =>
      cases meaning with
      | help => trivial
      | version => trivial
      | parameter parameter =>
        dsimp only
        split_ifs with last
        · rw [last]
          intro value fits
          exact ⟨_, .letterApart text switches letter parameter value spelled known fits⟩
        · exact Step.ofFlags?_writes _ _
            ⟨_, .attached text switches letter parameter more spelled known last⟩
      | switch switch =>
        dsimp only
        cases flags.turnOn switch with
        | none => trivial
        | some after =>
          have further : Letters (text ++ [letter]) (switches ++ [switch]) :=
            List.rel_append spelled (.cons known .nil)
          have written := ih after (text ++ [letter]) (switches ++ [switch]) further (by simp)
          rwa [List.append_assoc] at written

theorem argument_writes (flags : Flags) (text : Text) : (argument flags text).Writes text := by
  unfold argument
  split
  next option => exact named_writes flags option
  next letter rest _ =>
    exact letters_writes flags [] (letter :: rest) [] .nil (List.cons_ne_nil _ _)
  next => trivial

theorem exists_writes (flags final : Flags) (arguments : List Text)
    (accepted : parseFrom flags arguments = .prompt final) :
    ∃ demands, Writes arguments demands := by
  -- Only the fourth and the seventh case go on to further arguments.
  fun_induction parseFrom flags arguments with
  | case1 flags => exact ⟨[], .done⟩
  | case2 flags => exact ⟨[], .ended⟩
  | case3 => cases accepted
  | case4 flags text rest noDashes after step ih =>
    have written := argument_writes flags text
    rw [step] at written
    obtain ⟨demands, first⟩ := written
    obtain ⟨more, further⟩ := ih accepted
    exact ⟨demands ++ more, .option [text] rest demands more first further⟩
  | case5 flags text rest noDashes request step =>
    have keeps := argument_keeps flags text
    rw [step, accepted] at keeps
    cases keeps
  | case6 => cases accepted
  | case7 flags text noDashes parameter after step value more fits given takes ih =>
    have written := argument_writes flags text
    rw [step] at written
    obtain ⟨demands, first⟩ := written value fits
    obtain ⟨later, further⟩ := ih accepted
    exact ⟨demands ++ later, .option [text, value] more demands later first further⟩
  | case8 => cases accepted
  | case9 => cases accepted

/-- The accepted arguments are those that write demands of which none is refused, and that do not
ask for raw lines in a format. -/
theorem parse_eq_prompt_iff (arguments : List Text) (flags : Flags) :
    parse arguments = .prompt flags ↔
      ∃ demands, Writes arguments demands ∧ Flags.takeAll {} demands = some flags ∧
        flags.agree = true := by
  constructor
  · intro accepted
    obtain ⟨demands, written⟩ := exists_writes {} flags arguments accepted
    unfold parse at accepted
    rw [parseFrom_of_writes {} arguments demands written] at accepted
    refine ⟨demands, written, ?_⟩
    cases taken : Flags.takeAll {} demands with
    | none =>
      rw [taken] at accepted
      cases accepted
    | some after =>
      rw [taken] at accepted
      obtain ⟨rfl, agree⟩ := request_eq_prompt after flags accepted
      exact ⟨rfl, agree⟩
  · rintro ⟨demands, written, taken, agree⟩
    unfold parse
    rw [parseFrom_of_writes {} arguments demands written, taken]
    exact if_pos agree

/-- Neither the order of the options nor the way they are written makes any difference. -/
theorem parse_of_perm (first second : List Text) (demands moved : List Demand)
    (one : Writes first demands) (two : Writes second moved) (perm : demands.Perm moved) :
    parse first = parse second := by
  unfold parse
  rw [parseFrom_of_writes {} first demands one, parseFrom_of_writes {} second moved two,
    Flags.takeAll_of_perm {} demands moved perm]

end StatusPrompt.CommandLine
