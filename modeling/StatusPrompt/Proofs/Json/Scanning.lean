import Mathlib.Tactic.IntervalCases
import StatusPrompt.Json.Token
import StatusPrompt.Proofs.Json.Grammar
import StatusPrompt.Proofs.Numeral

/-!
The scanner on what the grammar spells. A token is scanned as it is spelled, whatever stands behind
it; only a number has to end, and so the statement about a text is made for what may follow a value.
-/

namespace StatusPrompt.Json

namespace Scan

theorem run_cons (state next : Scan) (c : Char) (rest : Text) (tokens : List Token)
    (stepped : state.step c = some (next, tokens)) :
    run state (c :: rest) = (run next rest).map (tokens ++ ·) := by
  rw [run, stepped]

theorem run_silent (state next : Scan) (c : Char) (rest : Text)
    (stepped : state.step c = some (next, [])) : run state (c :: rest) = run next rest := by
  rw [run_cons state next c rest [] stepped]
  exact Option.map_id_apply

@[simp] theorem run_gap (gap rest : Text) (blank : Gap gap) :
    run between (gap ++ rest) = run between rest := by
  induction gap with
  | nil => rfl
  | cons c more ih =>
    have stepped : step between c = some (between, []) := by
      have character := blank c List.mem_cons_self
      simp only [List.mem_cons, List.not_mem_nil, or_false] at character
      rcases character with rfl | rfl | rfl | rfl <;> rfl
    rw [List.cons_append, run_silent between between c _ stepped]
    exact ih fun d member => blank d (List.mem_cons_of_mem c member)

theorem run_word (expected rest : Text) (token : Token) (filled : expected ≠ []) :
    run (word expected token) (expected ++ rest) = (run between rest).map (token :: ·) := by
  induction expected with
  | nil => exact absurd rfl filled
  | cons c more ih =>
    cases more with
    | nil =>
      have last : step (word [c] token) c = some (between, [token]) := if_pos rfl
      exact run_cons _ between c rest [token] last
    | cons d others =>
      have goesOn : step (word (c :: d :: others) token) c = some (word (d :: others) token, []) :=
        if_pos rfl
      rw [List.cons_append, run_silent _ _ c _ goesOn]
      exact ih (List.cons_ne_nil d others)

end Scan

section Strings

theorem hexValue?_of_hexDigit (c : Char) (value : Nat) (digit : HexDigit c value) :
    hexValue? c = some value := by
  obtain ⟨small, same⟩ := digit
  interval_cases value <;> rcases same with rfl | rfl <;> decide

theorem escapedBy?_of_mem (letter meant : Char) (escape : (letter, meant) ∈ shortEscapes) :
    letter ≠ 'u' ∧ escapedBy? letter = some meant := by
  simp only [shortEscapes, List.mem_cons, Prod.mk.injEq, List.not_mem_nil, or_false] at escape
  rcases escape with ⟨rfl, rfl⟩ | ⟨rfl, rfl⟩ | ⟨rfl, rfl⟩ | ⟨rfl, rfl⟩ | ⟨rfl, rfl⟩ | ⟨rfl, rfl⟩ |
    ⟨rfl, rfl⟩ | ⟨rfl, rfl⟩ <;> decide

theorem Scan.step_hex (digits code : Nat) (units : List StringUnit) (c : Char) (value : Nat)
    (more : digits ≠ 3) (digit : HexDigit c value) :
    step (hex digits code units) c = some (hex (digits + 1) (16 * code + value) units, []) := by
  simp only [step, hexValue?_of_hexDigit c value digit, Option.map_some, if_neg more]

theorem Scan.run_unit (text rest : Text) (unit : StringUnit) (units : List StringUnit)
    (spelled : UnitSpelling text unit) :
    run (string units) (text ++ rest) = run (string (unit :: units)) rest := by
  cases spelled with
  | plain c plain =>
    obtain ⟨printed, noQuote, noEscape⟩ := List.forall_mem_singleton.mp plain
    have visible : ¬c.toNat < 0x20 := by omega
    apply run_silent
    simp only [step, if_neg noQuote, if_neg noEscape, if_neg visible]
  | short letter meant escape =>
    obtain ⟨other, known⟩ := escapedBy?_of_mem letter meant escape
    refine (run_silent _ (escaped units) '\\' _ rfl).trans (run_silent _ _ letter _ ?_)
    simp only [step, if_neg other, known, Option.map_some]
  | hex first second third fourth a b c d one two three four =>
    have last : step (hex 3 (16 * (16 * (16 * 0 + a) + b) + c) units) fourth =
        some (string (.unit (((a * 16 + b) * 16 + c) * 16 + d) :: units), []) := by
      have code : 16 * (16 * (16 * (16 * 0 + a) + b) + c) + d =
          ((a * 16 + b) * 16 + c) * 16 + d := by omega
      simp only [step, hexValue?_of_hexDigit fourth d four, Option.map_some, ↓reduceIte, code]
    calc
      run (string units) ('\\' :: 'u' :: first :: second :: third :: fourth :: rest)
      _ = run (hex 0 0 units) (first :: second :: third :: fourth :: rest) :=
        (run_silent _ (escaped units) '\\' _ rfl).trans (run_silent _ _ 'u' _ rfl)
      _ = run (hex 1 (16 * 0 + a) units) (second :: third :: fourth :: rest) :=
        run_silent _ _ first _ (step_hex 0 0 units first a (by decide) one)
      _ = run (hex 2 (16 * (16 * 0 + a) + b) units) (third :: fourth :: rest) :=
        run_silent _ _ second _ (step_hex 1 _ units second b (by decide) two)
      _ = run (hex 3 (16 * (16 * (16 * 0 + a) + b) + c) units) (fourth :: rest) :=
        run_silent _ _ third _ (step_hex 2 _ units third c (by decide) three)
      _ = run (string (.unit (((a * 16 + b) * 16 + c) * 16 + d) :: units)) rest :=
        run_silent _ _ fourth _ last

theorem Scan.run_body (body rest : Text) (found before : List StringUnit)
    (spelled : BodySpelling body found) :
    run (string before) (body ++ rest) = run (string (found.reverse ++ before)) rest := by
  induction spelled generalizing before with
  | nil => rfl
  | cons text body unit units first _ ih =>
    rw [List.append_assoc, run_unit text _ unit before first, ih, List.reverse_cons,
      List.append_assoc, List.singleton_append]

def StringUnit.Bounded : StringUnit → Prop
  | .character _ => True
  | .unit code => code < 0x10000

theorem BodySpelling.bounded {body : Text} {units : List StringUnit}
    (spelled : BodySpelling body units) : ∀ unit ∈ units, unit.Bounded := by
  induction spelled with
  | nil => exact fun unit member => absurd member List.not_mem_nil
  | cons text body unit units first _ ih =>
    refine List.forall_mem_cons.mpr ⟨?_, ih⟩
    cases first with
    | plain => trivial
    | short => trivial
    | hex first second third fourth a b c d one two three four =>
      have bounds := And.intro one.1 (And.intro two.1 (And.intro three.1 four.1))
      change _ < _
      omega

theorem surrogates_of_pair (high low : Nat) (bounds : high < 0x400 ∧ low < 0x400) :
    isHighSurrogate (0xD800 + high) = true ∧ isLowSurrogate (0xDC00 + low) = true := by
  simp only [isHighSurrogate, isLowSurrogate, Bool.and_eq_true, decide_eq_true_eq]
  omega

theorem not_surrogate (c : Char) :
    isHighSurrogate c.toNat = false ∧ isLowSurrogate c.toNat = false := by
  have scalar : c.toNat < 0xD800 ∨ 0xDFFF < c.toNat ∧ c.toNat < 0x110000 := c.valid
  simp only [isHighSurrogate, isLowSurrogate, Bool.and_eq_false_iff, decide_eq_false_iff_not]
  omega

/-- A code unit that is no surrogate stands for a character by itself. -/
theorem textOf?_unit (code : Nat) (units : List StringUnit) (noHigh : isHighSurrogate code = false)
    (noLow : isLowSurrogate code = false) :
    textOf? (.unit code :: units) = (textOf? units).map (Char.ofNat code :: ·) := by
  cases units with
  | nil => simp [textOf?, noHigh, noLow]
  | cons next more => cases next <;> simp [textOf?, noHigh, noLow]

theorem textOf?_of_denotes (units : List StringUnit) (text : Text) (denotes : Denotes units text) :
    textOf? units = some text := by
  induction denotes with
  | nil => rfl
  | character c units text _ ih => rw [textOf?, ih, Option.map_some]
  | unit c units text _ ih =>
    obtain ⟨noHigh, noLow⟩ := not_surrogate c
    rw [textOf?_unit c.toNat units noHigh noLow, ih, Option.map_some, Char.ofNat_toNat]
  | pair c high low units text bounds code _ ih =>
    obtain ⟨isHigh, isLow⟩ := surrogates_of_pair high low bounds
    have whole : surrogatePair (0xD800 + high) (0xDC00 + low) = c := by
      have same : 0x10000 + 0x400 * (0xD800 + high - 0xD800) + (0xDC00 + low - 0xDC00) =
          c.toNat := by omega
      rw [surrogatePair, same, Char.ofNat_toNat]
    rw [textOf?, if_pos isHigh, if_pos isLow, ih, Option.map_some, whole]

theorem Denotes.single (code : Nat) (units : List StringUnit) (text : Text)
    (small : code < 0x10000) (noHigh : isHighSurrogate code = false)
    (noLow : isLowSurrogate code = false) (more : Denotes units text) :
    Denotes (.unit code :: units) (Char.ofNat code :: text) := by
  have whole : (Char.ofNat code).toNat = code := by
    simp only [isHighSurrogate, isLowSurrogate, Bool.and_eq_false_iff,
      decide_eq_false_iff_not] at noHigh noLow
    apply Utf8.val_ofNat
    unfold Nat.isValidChar
    omega
  have single := Denotes.unit (Char.ofNat code) units text more
  rwa [whole] at single

theorem toNat_surrogatePair (high low : Nat) (isHigh : isHighSurrogate high = true)
    (isLow : isLowSurrogate low = true) :
    (surrogatePair high low).toNat = 0x10000 + 0x400 * (high - 0xD800) + (low - 0xDC00) := by
  simp only [isHighSurrogate, isLowSurrogate, Bool.and_eq_true, decide_eq_true_eq] at isHigh isLow
  apply Utf8.val_ofNat
  unfold Nat.isValidChar
  omega

theorem denotes_of_textOf? (units : List StringUnit) (bounded : ∀ unit ∈ units, unit.Bounded)
    (text : Text) (found : textOf? units = some text) : Denotes units text := by
  induction units using textOf?.induct generalizing text with
  | case1 =>
    obtain rfl := Option.some.inj found
    exact .nil
  | case2 c rest ih =>
    rw [textOf?] at found
    obtain ⟨more, read, rfl⟩ := Option.map_eq_some_iff.mp found
    exact .character c rest more (ih (List.forall_mem_cons.mp bounded).2 more read)
  | case3 high low rest isHigh isLow ih =>
    -- The only case in which two code units make one character.
    rw [textOf?, if_pos isHigh, if_pos isLow] at found
    obtain ⟨more, read, rfl⟩ := Option.map_eq_some_iff.mp found
    have later := (List.forall_mem_cons.mp (List.forall_mem_cons.mp bounded).2).2
    have code := toNat_surrogatePair high low isHigh isLow
    simp only [isHighSurrogate, isLowSurrogate, Bool.and_eq_true, decide_eq_true_eq] at isHigh isLow
    have pair := Denotes.pair (surrogatePair high low) (high - 0xD800) (low - 0xDC00) rest more
      (by omega) code (ih later more read)
    rwa [Nat.add_sub_cancel' isHigh.1, Nat.add_sub_cancel' isLow.1] at pair
  | case4 high low rest isHigh isLow =>
    rw [textOf?, if_pos isHigh, if_neg isLow] at found
    cases found
  | case5 high low rest isHigh isLow =>
    rw [textOf?, if_neg isHigh, if_pos isLow] at found
    cases found
  | case6 high low rest isHigh isLow ih =>
    rw [Bool.not_eq_true] at isHigh isLow
    rw [textOf?_unit high _ isHigh isLow] at found
    obtain ⟨more, read, rfl⟩ := Option.map_eq_some_iff.mp found
    obtain ⟨small, later⟩ := List.forall_mem_cons.mp bounded
    exact .single high _ more small isHigh isLow (ih later more read)
  | case7 code rest alone surrogate =>
    rw [textOf?.eq_4 code rest alone, if_pos surrogate] at found
    cases found
  | case8 code rest alone surrogate ih =>
    rw [Bool.or_eq_true, not_or, Bool.not_eq_true, Bool.not_eq_true] at surrogate
    rw [textOf?_unit code rest surrogate.1 surrogate.2] at found
    obtain ⟨more, read, rfl⟩ := Option.map_eq_some_iff.mp found
    obtain ⟨small, later⟩ := List.forall_mem_cons.mp bounded
    exact .single code rest more small surrogate.1 surrogate.2 (ih later more read)

theorem textOf?_eq_some_iff (units : List StringUnit) (bounded : ∀ unit ∈ units, unit.Bounded)
    (text : Text) : textOf? units = some text ↔ Denotes units text :=
  ⟨denotes_of_textOf? units bounded text, textOf?_of_denotes units text⟩

theorem stringSpelling_of_body (body : Text) (units : List StringUnit)
    (spelled : BodySpelling body units) : StringSpelling ('"' :: (body ++ ['"'])) (textOf? units) :=
  ⟨body, units, rfl, spelled, textOf?_eq_some_iff units spelled.bounded⟩

@[simp] theorem textOf?_characters (text : Text) : textOf? (text.map .character) = some text := by
  induction text with
  | nil => rfl
  | cons c rest ih => rw [List.map_cons, textOf?, ih, Option.map_some]

theorem stringSpelling_plain (text : Text) (plain : Plain text) :
    StringSpelling ('"' :: (text ++ ['"'])) (some text) := by
  rw [← textOf?_characters text]
  exact stringSpelling_of_body text _ (.characters text plain)

/-- A string literal is one token, with the text that it denotes. -/
theorem Scan.run_string (literal rest : Text) (content : Option Text)
    (spelled : StringSpelling literal content) :
    run between (literal ++ rest) = (run between rest).map (.string content :: ·) := by
  obtain ⟨body, units, rfl, spells, means⟩ := spelled
  have same : textOf? units = content := by
    apply Option.ext
    intro text
    rw [means text, textOf?_eq_some_iff units spells.bounded]
  have closed : step (string units.reverse) '"' = some (between, [.string content]) := by
    simp only [step, ↓reduceIte, List.reverse_reverse, same]
  calc
    run between ('"' :: (body ++ ['"']) ++ rest)
    _ = run (string []) (body ++ '"' :: rest) := by
      rw [List.cons_append, List.append_assoc]
      exact run_silent between (string []) '"' _ rfl
    _ = run (string units.reverse) ('"' :: rest) := by
      rw [run_body body _ units [] spells, List.append_nil]
    _ = (run between rest).map (.string content :: ·) :=
      run_cons _ between '"' rest [.string content] closed

end Strings

section Numbers

/-- What may follow a value. -/
def Ends (rest : Text) : Prop := ∀ c ∈ rest.head?, c ∈ [' ', '\t', '\n', '\r', ',', ']', '}']

theorem Ends.gap {gap rest : Text} (blank : Gap gap) (ends : Ends rest) : Ends (gap ++ rest) := by
  cases gap with
  | nil => exact ends
  | cons c more =>
    intro d first
    obtain rfl : c = d := Option.some.inj first
    have character := blank c List.mem_cons_self
    simp only [List.mem_cons, List.not_mem_nil, or_false] at character ⊢
    tauto

theorem Ends.mark {c : Char} (rest : Text) (mark : c ∈ [',', ']', '}']) : Ends (c :: rest) := by
  intro d first
  obtain rfl : c = d := Option.some.inj first
  simp only [List.mem_cons, List.not_mem_nil, or_false] at mark ⊢
  tauto

namespace NumberPhase

def through (phase : NumberPhase) (text : Text) : Option NumberPhase := text.foldlM next phase

theorem through_append (phase middle : NumberPhase) (first second : Text)
    (passed : phase.through first = some middle) :
    phase.through (first ++ second) = middle.through second := by
  unfold through at passed ⊢
  rw [List.foldlM_append, passed]
  rfl

theorem through_cons (phase middle : NumberPhase) (c : Char) (rest : Text)
    (passed : phase.next c = some middle) : phase.through (c :: rest) = middle.through rest := by
  rw [through, List.foldlM_cons, passed]
  rfl

/-- The phases that digits do not end. -/
theorem through_digits (phase : NumberPhase)
    (steady : phase = whole ∨ phase = fraction ∨ phase = exponentDigits) (digits : Text)
    (all : ∀ c ∈ digits, '0' ≤ c ∧ c ≤ '9') : phase.through digits = some phase := by
  induction digits with
  | nil => rfl
  | cons c rest ih =>
    obtain ⟨first, later⟩ := List.forall_mem_cons.mp all
    have digit : Numeral.isDigit c = true := (Numeral.isDigit_iff c).mpr first
    have stays : phase.next c = some phase := by
      rcases steady with rfl | rfl | rfl <;> simp only [next, digit, ↓reduceIte]
    rw [through_cons phase phase c rest stays]
    exact ih later

/-- The first digit leads to a phase that the others do not end. -/
theorem through_entered (phase later : NumberPhase)
    (enters : ∀ c, Numeral.isDigit c = true → phase.next c = some later)
    (steady : later = whole ∨ later = fraction ∨ later = exponentDigits) (digits : Text)
    (spelled : Digits digits) : phase.through digits = some later := by
  obtain ⟨filled, all⟩ := spelled
  obtain ⟨c, rest, rfl⟩ := List.exists_cons_of_ne_nil filled
  obtain ⟨first, others⟩ := List.forall_mem_cons.mp all
  rw [through_cons phase later c rest (enters c ((Numeral.isDigit_iff c).mpr first))]
  exact through_digits later steady rest others

theorem through_fraction (phase : NumberPhase) (before : phase = zero ∨ phase = whole)
    (text : Text) (part : FractionPart text) :
    ∃ later, phase.through text = some later ∧
      (later = zero ∨ later = whole ∨ later = fraction) := by
  cases part with
  | none =>
    refine ⟨phase, rfl, ?_⟩
    tauto
  | digits text digits =>
    have opens : phase.next '.' = some point := by rcases before with rfl | rfl <;> rfl
    refine ⟨fraction, ?_, Or.inr (Or.inr rfl)⟩
    rw [through_cons phase point '.' text opens]
    refine through_entered point fraction (fun c digit => ?_) (Or.inr (Or.inl rfl)) text digits
    simp only [next, digit, ↓reduceIte]

theorem through_exponent (phase : NumberPhase)
    (before : phase = zero ∨ phase = whole ∨ phase = fraction) (text : Text)
    (part : ExponentPart text) :
    ∃ later, phase.through text = some later ∧ later.mayEnd = true := by
  cases part with
  | none =>
    refine ⟨phase, rfl, ?_⟩
    rcases before with rfl | rfl | rfl <;> rfl
  | digits mark sign text marked signed digits =>
    simp only [List.mem_cons, List.not_mem_nil, or_false] at marked signed
    have opens : phase.next mark = some exponent := by
      rcases before with rfl | rfl | rfl <;> rcases marked with rfl | rfl <;> rfl
    refine ⟨exponentDigits, ?_, rfl⟩
    rw [through_cons phase exponent mark _ opens]
    have steady : exponentDigits = whole ∨ exponentDigits = fraction ∨
      exponentDigits = exponentDigits := Or.inr (Or.inr rfl)
    have unsigned : exponent.through text = some exponentDigits := by
      refine through_entered exponent exponentDigits (fun c digit => ?_) steady text digits
      simp only [next, digit, ↓reduceIte]
    have behindSign : exponentSign.through text = some exponentDigits := by
      refine through_entered exponentSign exponentDigits (fun c digit => ?_) steady text digits
      simp only [next, digit, ↓reduceIte]
    rcases signed with rfl | rfl | rfl
    · exact unsigned
    · exact (through_cons exponent exponentSign '+' text rfl).trans behindSign
    · exact (through_cons exponent exponentSign '-' text rfl).trans behindSign

end NumberPhase

open NumberPhase in
/-- The first character of a whole number, at the start of a token or behind a minus sign. -/
theorem opening_wholePart (whole : Text) (part : WholePart whole) :
    ∃ first rest phase, whole = first :: rest ∧ (phase = .zero ∨ phase = .whole) ∧
      Scan.opening first = some (.number phase [first], []) ∧
        NumberPhase.minus.next first = some phase ∧ phase.through rest = some phase := by
  cases part with
  | zero => exact ⟨'0', [], .zero, rfl, Or.inl rfl, rfl, rfl, rfl⟩
  | digits first rest leading digits =>
    have bounds : 0x31 ≤ first.toNat ∧ first.toNat ≤ 0x39 := leading
    have opens : Scan.opening first = some (.number .whole [first], []) ∧
        NumberPhase.minus.next first = some .whole := by
      rw [← Char.ofNat_toNat first]
      generalize first.toNat = code at bounds
      obtain ⟨lower, upper⟩ := bounds
      interval_cases code <;> exact ⟨rfl, rfl⟩
    exact ⟨first, rest, .whole, rfl, Or.inr rfl, opens.1, opens.2,
      through_digits .whole (Or.inl rfl) rest digits⟩

theorem opening_number (literal : Text) (number : IsNumber literal) :
    ∃ first rest phase later, literal = first :: rest ∧
      Scan.opening first = some (.number phase [first], []) ∧ phase.through rest = some later ∧
        later.mayEnd = true := by
  obtain ⟨sign, digits, fraction, exponent, rfl, signed, isWhole, isFraction, isExponent⟩ := number
  obtain ⟨first, rest, phase, rfl, before, opens, behindMinus, read⟩ :=
    opening_wholePart digits isWhole
  obtain ⟨middle, passed, between⟩ := phase.through_fraction before fraction isFraction
  obtain ⟨later, ended, may⟩ := middle.through_exponent between exponent isExponent
  have whole : phase.through (rest ++ (fraction ++ exponent)) = some later := by
    rw [phase.through_append phase rest _ read, phase.through_append middle fraction _ passed]
    exact ended
  simp only [List.mem_cons, List.not_mem_nil, or_false] at signed
  rcases signed with rfl | rfl
  · exact ⟨first, _, phase, later, rfl, opens, whole, may⟩
  · refine ⟨'-', _, .minus, later, rfl, rfl, ?_, may⟩
    exact (NumberPhase.through_cons .minus phase first _ behindMinus).trans whole

theorem Scan.run_through (phase later : NumberPhase) (literal text rest : Text)
    (passed : phase.through text = some later) :
    run (number phase literal) (text ++ rest) =
      run (number later (text.reverse ++ literal)) rest := by
  induction text generalizing phase literal with
  | nil =>
    obtain rfl := Option.some.inj passed
    rfl
  | cons c more ih =>
    obtain ⟨middle, first, others⟩ := Option.bind_eq_some_iff.mp passed
    have stepped : step (number phase literal) c = some (number middle (c :: literal), []) := by
      simp only [step, first]
    rw [List.cons_append, run_silent _ _ c _ stepped, ih middle _ others, List.reverse_cons,
      List.append_assoc, List.singleton_append]

/-- What ends a number is scanned as if nothing stood in front of it. -/
theorem Scan.run_ended (phase : NumberPhase) (literal rest : Text) (may : phase.mayEnd = true)
    (ends : Ends rest) :
    run (number phase literal) rest = (run between rest).map (.number literal.reverse :: ·) := by
  cases rest with
  | nil =>
    simp only [run, finish, may, ↓reduceIte]
    rfl
  | cons c more =>
    have mark := ends c rfl
    simp only [List.mem_cons, List.not_mem_nil, or_false] at mark
    -- No character that may follow a value goes on with a number, in whatever phase it is.
    have stops : phase.next c = none := by
      rcases mark with rfl | rfl | rfl | rfl | rfl | rfl | rfl <;> cases phase <;> rfl
    have stepped : step (number phase literal) c =
        (opening c).map fun opened => (opened.1, .number literal.reverse :: opened.2) := by
      simp only [step, stops, may, ↓reduceIte]
    cases opens : opening c with
    | none =>
      rw [run, stepped, run, step, opens]
      rfl
    | some opened =>
      have fresh : step between c = some opened := opens
      rw [opens, Option.map_some] at stepped
      rw [run_cons _ _ c more _ stepped, run_cons _ _ c more _ fresh, Option.map_map]
      rfl

theorem Scan.run_number (literal rest : Text) (spelled : IsNumber literal) (ends : Ends rest) :
    run between (literal ++ rest) = (run between rest).map (.number literal :: ·) := by
  obtain ⟨first, others, phase, later, rfl, opens, passed, may⟩ := opening_number literal spelled
  have ended := run_ended later (others.reverse ++ [first]) rest may ends
  rw [List.reverse_append, List.reverse_reverse] at ended
  rw [List.cons_append, run_silent between (number phase [first]) first _ opens,
    run_through phase later [first] others rest passed]
  exact ended

end Numbers

def Scans (text : Text) (tokens : List Token) : Prop :=
  ∀ rest, Ends rest → Scan.run .between (text ++ rest) = (Scan.run .between rest).map (tokens ++ ·)

namespace Scans

theorem nil : Scans [] [] := fun _ _ => Option.map_id_apply.symm

theorem gap {gap text : Text} {tokens : List Token} (blank : Gap gap) (scans : Scans text tokens) :
    Scans (gap ++ text) tokens := by
  intro rest ends
  rw [List.append_assoc, Scan.run_gap gap _ blank]
  exact scans rest ends

theorem trailing {gap text : Text} {tokens : List Token} (scans : Scans text tokens)
    (blank : Gap gap) : Scans (text ++ gap) tokens := by
  intro rest ends
  rw [List.append_assoc, scans _ (Ends.gap blank ends), Scan.run_gap gap rest blank]

theorem mark {c : Char} {token : Token} {text : Text} {tokens : List Token}
    (opens : Scan.opening c = some (.between, [token])) (scans : Scans text tokens) :
    Scans (c :: text) (token :: tokens) := by
  intro rest ends
  rw [List.cons_append, Scan.run_cons .between .between c _ [token] opens, scans rest ends,
    Option.map_map]
  rfl

theorem string {literal text : Text} {content : Option Text} {tokens : List Token}
    (spelled : StringSpelling literal content) (scans : Scans text tokens) :
    Scans (literal ++ text) (.string content :: tokens) := by
  intro rest ends
  rw [List.append_assoc, Scan.run_string literal _ content spelled, scans rest ends, Option.map_map]
  rfl

theorem word {first : Char} {expected : Text} {token : Token}
    (opens : Scan.opening first = some (.word expected token, [])) (filled : expected ≠ []) :
    Scans (first :: expected) [token] := by
  intro rest _
  rw [List.cons_append, Scan.run_silent .between _ first _ opens]
  exact Scan.run_word expected rest token filled

theorem number {literal : Text} (spelled : IsNumber literal) : Scans literal [.number literal] :=
  fun rest ends => Scan.run_number literal rest spelled ends

theorem append {first second : Text} {before after : List Token} (scans : Scans first before)
    (ends : Ends second) (later : Scans second after) :
    Scans (first ++ second) (before ++ after) := by
  intro rest restEnds
  have further : Ends (second ++ rest) := by
    cases second with
    | nil => exact restEnds
    | cons c more => exact ends
  rw [List.append_assoc, scans _ further, later rest restEnds, Option.map_map]
  congr 1
  funext tokens
  exact (List.append_assoc before after tokens).symm

end Scans

end StatusPrompt.Json
