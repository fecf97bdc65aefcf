import Mathlib.Data.List.Basic
import StatusPrompt.CommandLine.Arguments

/-!
What arguments that are accepted amount to. An argument names an option by how it is written,
wherever it stands, since what looks like an option is never read as the value of one. Nothing
that an argument sets is taken back by a later one, so the flags of accepted arguments hold
everything that any of them names.
-/

namespace StatusPrompt.CommandLine

/-- The argument names an option: by its name, with or without a value, or by its letter, behind
none but switches. -/
inductive Names : Text → Meaning → Prop
  | name (name : Text) (meaning : Meaning) (known : ofLongName? name = some meaning) :
      Names ('-' :: '-' :: name) meaning
  | nameValue (name value : Text) (parameter : Parameter)
      (known : ofLongName? name = some (.parameter parameter)) :
      Names ('-' :: '-' :: (name ++ '=' :: value)) (.parameter parameter)
  | letter (switches : Text) (letter : Char) (rest : Text) (meaning : Meaning)
      (leading : ∀ c ∈ switches, ∃ switch, ofLetter? c = some (.switch switch))
      (known : ofLetter? letter = some meaning) :
      Names ('-' :: (switches ++ letter :: rest)) meaning

def Flags.has (flags : Flags) : Meaning → Bool
  | .switch .debug => flags.debug
  | .switch .raw => flags.raw
  | .switch .noTag => flags.noTag
  | .switch .noColor => flags.noColor
  | .switch .stash => flags.stash
  | .parameter .directory => flags.directory.isSome
  | .parameter .format => flags.format.isSome
  | .help => false
  | .version => false

def Flags.Extends (after before : Flags) : Prop :=
  ∀ meaning, before.has meaning = true → after.has meaning = true

theorem Flags.Extends.trans {first second third : Flags} (later : third.Extends second)
    (earlier : second.Extends first) : third.Extends first :=
  fun meaning held => later meaning (earlier meaning held)

theorem Flags.turnOn_has (flags after : Flags) (switch : Switch)
    (turned : flags.turnOn switch = some after) (meaning : Meaning) :
    after.has meaning = (flags.has meaning || meaning = .switch switch) := by
  cases switch <;> simp only [Flags.turnOn] at turned <;> split_ifs at turned <;> cases turned <;>
    rcases meaning with (_ | _ | _ | _ | _) | (_ | _) | _ | _ <;> simp [Flags.has]

theorem Flags.give_has (flags after : Flags) (value : Text) (parameter : Parameter)
    (given : flags.give value parameter = some after) (meaning : Meaning) :
    after.has meaning = (flags.has meaning || meaning = .parameter parameter) := by
  cases parameter <;> simp only [Flags.give] at given <;> split_ifs at given <;> cases given <;>
    rcases meaning with (_ | _ | _ | _ | _) | (_ | _) | _ | _ <;> simp [Flags.has]

theorem Flags.turnOn_extends (flags after : Flags) (switch : Switch)
    (turned : flags.turnOn switch = some after) : after.Extends flags := by
  intro meaning held
  rw [turnOn_has flags after switch turned, held, Bool.true_or]

theorem Flags.give_extends (flags after : Flags) (value : Text) (parameter : Parameter)
    (given : flags.give value parameter = some after) : after.Extends flags := by
  intro meaning held
  rw [give_has flags after value parameter given, held, Bool.true_or]

def Request.isPrompt : Request → Bool
  | .prompt _ => true
  | _ => false

def Step.Keeps (flags : Flags) : Step → Prop
  | .next after => after.Extends flags
  | .awaits _ after => after.Extends flags
  | .decided request => request.isPrompt = false

/-- What a step leaves holds an option, unless it decides. A parameter may still wait for its
value. -/
def Step.Sets (meaning : Meaning) : Step → Prop
  | .next after => after.has meaning = true
  | .awaits parameter after => after.has meaning = true ∨ meaning = .parameter parameter
  | .decided _ => True

theorem Step.keeps_of_extends (step : Step) (before flags : Flags)
    (later : flags.Extends before) (keeps : step.Keeps flags) : step.Keeps before := by
  cases step with
  | next after => exact keeps.trans later
  | awaits parameter after => exact keeps.trans later
  | decided request => exact keeps

theorem Step.sets_of_keeps (step : Step) (flags : Flags) (meaning : Meaning)
    (held : flags.has meaning = true) (keeps : step.Keeps flags) : step.Sets meaning := by
  cases step with
  | next after => exact keeps meaning held
  | awaits parameter after => exact Or.inl (keeps meaning held)
  | decided request => trivial

theorem Step.ofFlags?_keeps (flags : Flags) (found : Option Flags)
    (keeps : ∀ after, found = some after → after.Extends flags) :
    (Step.ofFlags? found).Keeps flags := by
  cases found with
  | none => trivial
  | some after => exact keeps after rfl

theorem Step.ofFlags?_sets (meaning : Meaning) (found : Option Flags)
    (sets : ∀ after, found = some after → after.has meaning = true) :
    (Step.ofFlags? found).Sets meaning := by
  cases found with
  | none => trivial
  | some after => exact sets after rfl

theorem letters_keeps (flags : Flags) (text : Text) : (letters flags text).Keeps flags := by
  induction text generalizing flags with
  | nil => exact fun meaning held => held
  | cons letter rest ih =>
    rw [letters]
    cases ofLetter? letter with
    | none => trivial
    | some meaning =>
      cases meaning with
      | help => trivial
      | version => trivial
      | parameter parameter =>
        dsimp only
        split_ifs
        · exact fun meaning held => held
        · exact Step.ofFlags?_keeps flags _ fun after => flags.give_extends after _ parameter
      | switch switch =>
        dsimp only
        cases turned : flags.turnOn switch with
        | none => trivial
        | some after =>
          exact Step.keeps_of_extends _ flags after (flags.turnOn_extends after switch turned)
            (ih after)

theorem letters_sets (flags : Flags) (switches : Text) (letter : Char) (rest : Text)
    (meaning : Meaning) (leading : ∀ c ∈ switches, ∃ switch, ofLetter? c = some (.switch switch))
    (known : ofLetter? letter = some meaning) :
    (letters flags (switches ++ letter :: rest)).Sets meaning := by
  induction switches generalizing flags with
  | nil =>
    rw [List.nil_append, letters, known]
    cases meaning with
    | help => trivial
    | version => trivial
    | parameter parameter =>
      dsimp only
      split_ifs
      · exact Or.inr rfl
      · refine Step.ofFlags?_sets _ _ fun after given => ?_
        rw [flags.give_has after _ parameter given, decide_eq_true rfl, Bool.or_true]
    | switch switch =>
      dsimp only
      cases turned : flags.turnOn switch with
      | none => trivial
      | some after =>
        refine Step.sets_of_keeps _ after _ ?_ (letters_keeps after rest)
        rw [flags.turnOn_has after switch turned, decide_eq_true rfl, Bool.or_true]
  | cons c more ih =>
    obtain ⟨switch, named⟩ := leading c List.mem_cons_self
    rw [List.cons_append, letters, named]
    dsimp only
    cases flags.turnOn switch with
    | none => trivial
    | some after => exact ih after fun d member => leading d (List.mem_cons_of_mem c member)

theorem named_keeps (flags : Flags) (name : Text) (value : Option Text) :
    (named flags name value).Keeps flags := by
  unfold named
  split
  next => trivial
  next => exact fun meaning held => held
  next parameter value _ =>
    exact Step.ofFlags?_keeps flags _ fun after => flags.give_extends after value parameter
  next => trivial
  next switch _ =>
    exact Step.ofFlags?_keeps flags _ fun after => flags.turnOn_extends after switch
  next => trivial
  next => trivial

theorem named_sets (flags : Flags) (name : Text) (value : Option Text) (meaning : Meaning)
    (known : ofLongName? name = some meaning) : (named flags name value).Sets meaning := by
  unfold named
  rw [known]
  cases meaning with
  | help => cases value <;> trivial
  | version => cases value <;> trivial
  | parameter parameter =>
    cases value with
    | none => exact Or.inr rfl
    | some value =>
      refine Step.ofFlags?_sets _ _ fun after given => ?_
      rw [flags.give_has after _ parameter given, decide_eq_true rfl, Bool.or_true]
  | switch switch =>
    cases value with
    | none =>
      refine Step.ofFlags?_sets _ _ fun after turned => ?_
      rw [flags.turnOn_has after switch turned, decide_eq_true rfl, Bool.or_true]
    | some value => trivial

theorem equals_not_mem_name (name : Text) (meaning : Meaning)
    (known : ofLongName? name = some meaning) : '=' ∉ name := by
  unfold ofLongName? at known
  split_ifs at known with debug raw noTag noColor stash dir format help version <;>
    (subst name; decide)

@[simp] theorem splitValue_cons (c : Char) (rest : Text) (other : c ≠ '=') :
    splitValue (c :: rest) = (c :: (splitValue rest).1, (splitValue rest).2) := by
  rw [splitValue]
  exact other

@[simp] theorem splitValue_whole (name : Text) (whole : '=' ∉ name) : splitValue name = (name, none) := by
  induction name with
  | nil => rfl
  | cons c rest ih =>
    rw [List.mem_cons, not_or] at whole
    rw [splitValue_cons c rest fun same => whole.1 same.symm, ih whole.2]

@[simp] theorem splitValue_equals (name value : Text) (whole : '=' ∉ name) :
    splitValue (name ++ '=' :: value) = (name, some value) := by
  induction name with
  | nil => rfl
  | cons c rest ih =>
    rw [List.mem_cons, not_or] at whole
    rw [List.cons_append, splitValue_cons c _ fun same => whole.1 same.symm, ih whole.2]

theorem argument_letters (flags : Flags) (c : Char) (rest : Text) (letter : c ≠ '-') :
    argument flags ('-' :: c :: rest) = letters flags (c :: rest) := by
  rw [argument]
  exact letter

theorem argument_keeps (flags : Flags) (text : Text) : (argument flags text).Keeps flags := by
  unfold argument
  split
  next option => exact named_keeps flags _ _
  next letter rest _ => exact letters_keeps flags (letter :: rest)
  next => trivial

theorem argument_sets (flags : Flags) (text : Text) (meaning : Meaning)
    (names : Names text meaning) : (argument flags text).Sets meaning := by
  cases names with
  | name name meaning known =>
    rw [argument, splitValue_whole name (equals_not_mem_name name meaning known)]
    exact named_sets flags name none meaning known
  | nameValue name value parameter known =>
    rw [argument, splitValue_equals name value (equals_not_mem_name name _ known)]
    exact named_sets flags name (some value) _ known
  | letter switches letter rest meaning leading known =>
    have plain : ∀ c meaning, ofLetter? c = some meaning → c ≠ '-' := by
      rintro c meaning named rfl
      cases named
    have sets := letters_sets flags switches letter rest meaning leading known
    cases switches with
    | nil =>
      rw [List.nil_append] at sets ⊢
      rw [argument_letters flags letter rest (plain letter meaning known)]
      exact sets
    | cons c more =>
      obtain ⟨switch, named⟩ := leading c List.mem_cons_self
      rw [List.cons_append] at sets ⊢
      rw [argument_letters flags c _ (plain c _ named)]
      exact sets

/-- What names an option is no value of an option in front of it. -/
theorem canBeValue_of_names (text : Text) (meaning : Meaning) (names : Names text meaning) :
    canBeValue text = false := by
  cases names with
  | name name meaning known => rfl
  | nameValue name value parameter known => rfl
  | letter switches letter rest meaning leading known => cases switches <;> rfl

theorem not_names_dashes (meaning : Meaning) : ¬Names ['-', '-'] meaning := by
  intro names
  generalize written : ['-', '-'] = text at names
  cases names with
  | name name meaning known =>
    cases written
    cases known
  | nameValue name value parameter known => simp at written
  | letter switches letter rest meaning leading known =>
    cases switches with
    | nil =>
      cases written
      cases known
    | cons c more => simp at written

theorem request_eq_prompt (flags final : Flags) (accepted : flags.request = .prompt final) :
    final = flags ∧ final.agree = true := by
  unfold Flags.request at accepted
  split_ifs at accepted with agree
  cases accepted
  exact ⟨rfl, agree⟩

/-- Accepted arguments leave flags that keep what was held before, hold all that is named, and
agree. -/
theorem parseFrom_holds (flags final : Flags) (arguments : List Text)
    (accepted : parseFrom flags arguments = .prompt final) :
    final.Extends flags ∧ final.agree = true ∧
      ∀ text ∈ arguments, ∀ meaning, Names text meaning → final.has meaning = true := by
  fun_induction parseFrom flags arguments with
  | case1 flags =>
    obtain ⟨rfl, agree⟩ := request_eq_prompt flags final accepted
    exact ⟨fun meaning held => held, agree, fun text member => absurd member List.not_mem_nil⟩
  | case2 flags =>
    obtain ⟨rfl, agree⟩ := request_eq_prompt flags final accepted
    refine ⟨fun meaning held => held, agree, fun text member meaning names => ?_⟩
    obtain rfl := List.mem_singleton.mp member
    exact absurd names (not_names_dashes meaning)
  | case3 => cases accepted
  | case4 flags text rest noDashes after step ih =>
    have keeps := argument_keeps flags text
    rw [step] at keeps
    obtain ⟨extended, agree, held⟩ := ih accepted
    refine ⟨extended.trans keeps, agree, fun other member meaning names => ?_⟩
    rcases List.mem_cons.mp member with rfl | later
    · have sets := argument_sets flags other meaning names
      rw [step] at sets
      exact extended meaning sets
    · exact held other later meaning names
  | case5 flags text rest noDashes request step =>
    have keeps := argument_keeps flags text
    rw [step, accepted] at keeps
    cases keeps
  | case6 => cases accepted
  | case7 flags text noDashes parameter after step value more fits given takes ih =>
    have keeps := argument_keeps flags text
    rw [step] at keeps
    have grows := after.give_extends given value parameter takes
    obtain ⟨extended, agree, held⟩ := ih accepted
    refine ⟨extended.trans (grows.trans keeps), agree, fun other member meaning names => ?_⟩
    rcases List.mem_cons.mp member with rfl | later
    · have sets := argument_sets flags other meaning names
      rw [step] at sets
      refine extended meaning ?_
      rw [after.give_has given value parameter takes, Bool.or_eq_true, decide_eq_true_iff]
      exact sets
    -- The next argument is taken as a value, so it names nothing.
    · rcases List.mem_cons.mp later with rfl | further
      · rw [canBeValue_of_names other meaning names] at fits
        cases fits
      · exact held other further meaning names
  | case8 => cases accepted
  | case9 => cases accepted

end StatusPrompt.CommandLine
