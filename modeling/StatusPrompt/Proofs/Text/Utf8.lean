import Mathlib.Data.List.Basic
import StatusPrompt.Text.Utf8

/-!
Decoding undoes encoding. The bytes that the strict reading accepts are exactly the encodings of
texts, character by character, and it gives back the text. A character takes one byte to four; for
every number of bytes the ranges that the scan checks are those of the encoded characters.
-/

namespace StatusPrompt.Utf8

def encode (text : Text) : List UInt8 := text.flatMap String.utf8EncodeChar

theorem val_ofNat (value : Nat) (scalar : value.isValidChar) :
    (Char.ofNat value).val.toNat = value := by
  rw [Char.ofNat, dif_pos scalar]
  rfl

section Openings

variable (byte : Nat)

theorem opening_one (range : byte < 0x80) :
    opening byte = .complete (some (Char.ofNat byte)) := by
  rw [opening, if_pos range]

theorem opening_two (range : 0xC2 ≤ byte ∧ byte ≤ 0xDF) :
    opening byte = .pending ⟨byte - 0xC0, 0, 0x80, 0xBF⟩ := by
  rw [opening, if_neg (by omega), if_pos range]

/-- The first of three bytes narrows the range of the second at both ends of its own range: below
stand the shorter forms, above the surrogates. -/
theorem opening_three (range : 0xE0 ≤ byte ∧ byte ≤ 0xEF) :
    opening byte = .pending ⟨byte - 0xE0, 1, if byte = 0xE0 then 0xA0 else 0x80,
      if byte = 0xED then 0x9F else 0xBF⟩ := by
  rw [opening, if_neg (by omega), if_neg (by omega)]
  split_ifs <;> first | omega | subst byte; rfl | rfl

theorem opening_four (range : 0xF0 ≤ byte ∧ byte ≤ 0xF4) :
    opening byte = .pending ⟨byte - 0xF0, 2, if byte = 0xF0 then 0x90 else 0x80,
      if byte = 0xF4 then 0x8F else 0xBF⟩ := by
  rw [opening, if_neg (by omega), if_neg (by omega), if_neg (by omega), if_neg (by omega),
    if_neg (by omega)]
  split_ifs <;> first | omega | subst byte; rfl | rfl

theorem opening_other (range : (0x80 ≤ byte ∧ byte < 0xC2) ∨ 0xF4 < byte) :
    opening byte = .complete none := by
  simp only [opening]
  split_ifs <;> first | omega | rfl

end Openings

section Units

variable (bits lowest highest : Nat) (bytes : List UInt8) (c : Char) (more : List (Option Char))

theorem units_last :
    units (some ⟨bits, 0, lowest, highest⟩) bytes = some c :: more ↔
      ∃ byte rest, bytes = byte :: rest ∧ (lowest ≤ byte.toNat ∧ byte.toNat ≤ highest) ∧
        Char.ofNat (64 * bits + byte.toNat % 64) = c ∧ units none rest = more := by
  cases bytes with
  | nil => simp [units]
  | cons byte rest =>
    by_cases range : lowest ≤ byte.toNat ∧ byte.toNat ≤ highest <;> simp [units, range]

theorem units_further (after : Nat) :
    units (some ⟨bits, after + 1, lowest, highest⟩) bytes = some c :: more ↔
      ∃ byte rest, bytes = byte :: rest ∧ (lowest ≤ byte.toNat ∧ byte.toNat ≤ highest) ∧
        units (some ⟨64 * bits + byte.toNat % 64, after, 0x80, 0xBF⟩) rest = some c :: more := by
  cases bytes with
  | nil => simp [units]
  | cons byte rest =>
    by_cases range : lowest ≤ byte.toNat ∧ byte.toNat ≤ highest <;> simp [units, range]

end Units

/-- A scan from the start that begins with a character, read off the first byte. -/
theorem units_first (bytes : List UInt8) (c : Char) (more : List (Option Char)) :
    units none bytes = some c :: more ↔
      ∃ byte rest, bytes = byte :: rest ∧
        ((opening byte.toNat = .complete (some c) ∧ units none rest = more) ∨
          ∃ begun, opening byte.toNat = .pending begun ∧
            units (some begun) rest = some c :: more) := by
  cases bytes with
  | nil => simp [units]
  | cons byte rest => cases opened : opening byte.toNat <;> simp [units, opened]

/-- The bytes of one character: how many there are, the range of each, and what they spell. -/
inductive Forms (c : Char) : List UInt8 → Prop
  | one (lead : UInt8) (leadRange : lead.toNat < 0x80)
      (spelled : Char.ofNat lead.toNat = c) : Forms c [lead]
  | two (lead second : UInt8) (leadRange : 0xC2 ≤ lead.toNat ∧ lead.toNat ≤ 0xDF)
      (secondRange : 0x80 ≤ second.toNat ∧ second.toNat ≤ 0xBF)
      (spelled : Char.ofNat (64 * (lead.toNat - 0xC0) + second.toNat % 64) = c) :
      Forms c [lead, second]
  | three (lead second third : UInt8) (leadRange : 0xE0 ≤ lead.toNat ∧ lead.toNat ≤ 0xEF)
      (secondRange : (if lead.toNat = 0xE0 then 0xA0 else 0x80) ≤ second.toNat ∧
        second.toNat ≤ if lead.toNat = 0xED then 0x9F else 0xBF)
      (thirdRange : 0x80 ≤ third.toNat ∧ third.toNat ≤ 0xBF)
      (spelled : Char.ofNat
        (64 * (64 * (lead.toNat - 0xE0) + second.toNat % 64) + third.toNat % 64) = c) :
      Forms c [lead, second, third]
  | four (lead second third fourth : UInt8) (leadRange : 0xF0 ≤ lead.toNat ∧ lead.toNat ≤ 0xF4)
      (secondRange : (if lead.toNat = 0xF0 then 0x90 else 0x80) ≤ second.toNat ∧
        second.toNat ≤ if lead.toNat = 0xF4 then 0x8F else 0xBF)
      (thirdRange : 0x80 ≤ third.toNat ∧ third.toNat ≤ 0xBF)
      (fourthRange : 0x80 ≤ fourth.toNat ∧ fourth.toNat ≤ 0xBF)
      (spelled : Char.ofNat
        (64 * (64 * (64 * (lead.toNat - 0xF0) + second.toNat % 64) + third.toNat % 64) +
          fourth.toNat % 64) = c) :
      Forms c [lead, second, third, fourth]

theorem units_eq_cons_iff (bytes : List UInt8) (c : Char) (more : List (Option Char)) :
    units none bytes = some c :: more ↔
      ∃ taken rest, Forms c taken ∧ bytes = taken ++ rest ∧ units none rest = more := by
  rw [units_first]
  constructor
  · rintro ⟨lead, rest, rfl, found⟩
    have classes : lead.toNat < 0x80 ∨ (0xC2 ≤ lead.toNat ∧ lead.toNat ≤ 0xDF) ∨
        (0xE0 ≤ lead.toNat ∧ lead.toNat ≤ 0xEF) ∨ (0xF0 ≤ lead.toNat ∧ lead.toNat ≤ 0xF4) ∨
        ((0x80 ≤ lead.toNat ∧ lead.toNat < 0xC2) ∨ 0xF4 < lead.toNat) := by omega
    rcases classes with one | two | three | four | other
    · simp only [opening_one _ one, Opening.complete.injEq, Option.some.injEq, reduceCtorEq,
        false_and, exists_false, or_false] at found
      exact ⟨[lead], rest, .one lead one found.1, rfl, found.2⟩
    · simp only [opening_two _ two, reduceCtorEq, false_and, false_or, Opening.pending.injEq,
        exists_eq_left', units_last] at found
      obtain ⟨second, rest, rfl, secondRange, spelled, later⟩ := found
      exact ⟨[lead, second], rest, .two lead second two secondRange spelled, rfl, later⟩
    · simp only [opening_three _ three, reduceCtorEq, false_and, false_or, Opening.pending.injEq,
        exists_eq_left', units_further, units_last] at found
      obtain ⟨second, _, rfl, secondRange, third, rest, rfl, thirdRange, spelled, later⟩ := found
      exact ⟨[lead, second, third], rest,
        .three lead second third three secondRange thirdRange spelled, rfl, later⟩
    · simp only [opening_four _ four, reduceCtorEq, false_and, false_or, Opening.pending.injEq,
        exists_eq_left', units_further, units_last] at found
      obtain ⟨second, _, rfl, secondRange, third, _, rfl, thirdRange, found⟩ := found
      obtain ⟨fourth, rest, rfl, fourthRange, spelled, later⟩ := found
      exact ⟨[lead, second, third, fourth], rest,
        .four lead second third fourth four secondRange thirdRange fourthRange spelled, rfl, later⟩
    · simp [opening_other _ other] at found
  · rintro ⟨taken, rest, formed, rfl, later⟩
    cases formed with
    | one lead leadRange spelled =>
      exact ⟨lead, rest, rfl, Or.inl ⟨by rw [opening_one _ leadRange, spelled], later⟩⟩
    | two lead second leadRange secondRange spelled =>
      refine ⟨lead, second :: rest, rfl, Or.inr ⟨_, opening_two _ leadRange, ?_⟩⟩
      rw [units_last]
      exact ⟨second, rest, rfl, secondRange, spelled, later⟩
    | three lead second third leadRange secondRange thirdRange spelled =>
      refine ⟨lead, second :: third :: rest, rfl, Or.inr ⟨_, opening_three _ leadRange, ?_⟩⟩
      rw [units_further]
      refine ⟨second, third :: rest, rfl, secondRange, ?_⟩
      rw [units_last]
      exact ⟨third, rest, rfl, thirdRange, spelled, later⟩
    | four lead second third fourth leadRange secondRange thirdRange fourthRange spelled =>
      refine ⟨lead, second :: third :: fourth :: rest, rfl,
        Or.inr ⟨_, opening_four _ leadRange, ?_⟩⟩
      rw [units_further]
      refine ⟨second, third :: fourth :: rest, rfl, secondRange, ?_⟩
      rw [units_further]
      refine ⟨third, fourth :: rest, rfl, thirdRange, ?_⟩
      rw [units_last]
      exact ⟨fourth, rest, rfl, fourthRange, spelled, later⟩

theorem ofNat_eq_byte (value : Nat) (byte : UInt8) (same : value = byte.toNat) :
    UInt8.ofNat value = byte := by
  rw [same, UInt8.ofNat_toNat]

theorem encodeChar_of_forms (c : Char) (bytes : List UInt8) (formed : Forms c bytes) :
    String.utf8EncodeChar c = bytes := by
  cases formed with
  | one lead leadRange spelled =>
    have scalar := val_ofNat lead.toNat (Or.inl (by omega))
    rw [spelled] at scalar
    simp only [String.utf8EncodeChar, scalar]
    rw [if_pos (by omega), UInt8.ofNat_toNat]
  | two lead second leadRange secondRange spelled =>
    have scalar := val_ofNat (64 * (lead.toNat - 0xC0) + second.toNat % 64) (Or.inl (by omega))
    rw [spelled] at scalar
    simp only [String.utf8EncodeChar, scalar]
    rw [if_neg (by omega), if_pos (by omega), ofNat_eq_byte _ lead (by omega),
      ofNat_eq_byte _ second (by omega)]
  | three lead second third leadRange secondRange thirdRange spelled =>
    have scalar := val_ofNat
      (64 * (64 * (lead.toNat - 0xE0) + second.toNat % 64) + third.toNat % 64)
      (by unfold Nat.isValidChar; split_ifs at secondRange <;> omega)
    rw [spelled] at scalar
    simp only [String.utf8EncodeChar, scalar]
    -- The second byte keeps the shorter forms out, and so settles the branch of the encoder.
    have least :
        0x7FF < 64 * (64 * (lead.toNat - 0xE0) + second.toNat % 64) + third.toNat % 64 := by
      split_ifs at secondRange <;> omega
    rw [if_neg (by omega), if_neg (by omega), if_pos (by omega)]
    have range : 0x80 ≤ second.toNat ∧ second.toNat ≤ 0xBF := by split_ifs at secondRange <;> omega
    rw [ofNat_eq_byte _ lead (by omega), ofNat_eq_byte _ second (by omega),
      ofNat_eq_byte _ third (by omega)]
  | four lead second third fourth leadRange secondRange thirdRange fourthRange spelled =>
    have scalar := val_ofNat
      (64 * (64 * (64 * (lead.toNat - 0xF0) + second.toNat % 64) + third.toNat % 64) +
        fourth.toNat % 64)
      (by unfold Nat.isValidChar; split_ifs at secondRange <;> omega)
    rw [spelled] at scalar
    simp only [String.utf8EncodeChar, scalar]
    have least : 0xFFFF <
        64 * (64 * (64 * (lead.toNat - 0xF0) + second.toNat % 64) + third.toNat % 64) +
          fourth.toNat % 64 := by
      split_ifs at secondRange <;> omega
    rw [if_neg (by omega), if_neg (by omega), if_neg (by omega)]
    have range : 0x80 ≤ second.toNat ∧ second.toNat ≤ 0xBF := by split_ifs at secondRange <;> omega
    rw [ofNat_eq_byte _ lead (by omega), ofNat_eq_byte _ second (by omega),
      ofNat_eq_byte _ third (by omega), ofNat_eq_byte _ fourth (by omega)]

theorem toNat_ofNat_byte (value : Nat) (small : value < 256) :
    (UInt8.ofNat value).toNat = value := by
  rw [UInt8.toNat_ofNat']
  exact Nat.mod_eq_of_lt small

theorem forms_encodeChar (c : Char) : Forms c (String.utf8EncodeChar c) := by
  have scalar : c.val.toNat < 0xD800 ∨ (0xDFFF < c.val.toNat ∧ c.val.toNat < 0x110000) := c.valid
  have back : ∀ value, value = c.val.toNat → Char.ofNat value = c := by
    rintro value rfl
    exact Char.ofNat_toNat c
  simp only [String.utf8EncodeChar]
  generalize c.val.toNat = value at scalar back ⊢
  split_ifs with one two three
  · have lead := toNat_ofNat_byte value (by omega)
    exact .one _ (by omega) (back _ lead)
  · have lead := toNat_ofNat_byte (value / 64 % 32 + 192) (by omega)
    have second := toNat_ofNat_byte (value % 64 + 128) (by omega)
    exact .two _ _ (by omega) (by omega) (back _ (by omega))
  · have lead := toNat_ofNat_byte (value / 4096 % 16 + 224) (by omega)
    have second := toNat_ofNat_byte (value / 64 % 64 + 128) (by omega)
    have third := toNat_ofNat_byte (value % 64 + 128) (by omega)
    exact .three _ _ _ (by omega) (by rw [lead, second]; split_ifs <;> omega) (by omega)
      (back _ (by omega))
  · have lead := toNat_ofNat_byte (value / 262144 % 8 + 240) (by omega)
    have second := toNat_ofNat_byte (value / 4096 % 64 + 128) (by omega)
    have third := toNat_ofNat_byte (value / 64 % 64 + 128) (by omega)
    have fourth := toNat_ofNat_byte (value % 64 + 128) (by omega)
    exact .four _ _ _ _ (by omega) (by rw [lead, second]; split_ifs <;> omega) (by omega) (by omega)
      (back _ (by omega))

theorem forms_iff (c : Char) (bytes : List UInt8) :
    Forms c bytes ↔ bytes = String.utf8EncodeChar c := by
  constructor
  · intro formed
    exact (encodeChar_of_forms c bytes formed).symm
  · rintro rfl
    exact forms_encodeChar c

theorem units_begun_ne_nil (begun : Pending) (bytes : List UInt8) :
    units (some begun) bytes ≠ [] := by
  induction bytes generalizing begun with
  | nil => exact List.cons_ne_nil _ _
  | cons byte rest ih =>
    rw [units]
    split_ifs
    · cases begun.after with
      | zero => exact List.cons_ne_nil _ _
      | succ after => exact ih _
    · exact List.cons_ne_nil _ _

theorem units_eq_nil_iff (bytes : List UInt8) : units none bytes = [] ↔ bytes = [] := by
  cases bytes with
  | nil => simp [units]
  | cons byte rest =>
    cases opened : opening byte.toNat with
    | complete unit => simp [units, opened]
    | pending begun => simp [units, opened, units_begun_ne_nil]

theorem mapM_id_eq_some_iff (found : List (Option Char)) (text : Text) :
    found.mapM id = some text ↔ found = text.map some := by
  induction found generalizing text with
  | nil => cases text <;> simp
  | cons unit rest ih =>
    cases unit with
    | none => cases text <;> simp
    | some c =>
      cases text with
      | nil => simp [Option.bind_eq_some_iff]
      | cons d more => simp [Option.bind_eq_some_iff, ih, and_comm]

/-- The strict reading accepts the encodings of texts and nothing else, and gives back the text. -/
theorem decode?_eq_some_iff (bytes : List UInt8) (text : Text) :
    decode? bytes = some text ↔ bytes = encode text := by
  rw [decode?, mapM_id_eq_some_iff]
  induction text generalizing bytes with
  | nil => exact units_eq_nil_iff bytes
  | cons c more ih =>
    rw [List.map_cons, units_eq_cons_iff]
    simp only [forms_iff, ih, encode, List.flatMap_cons]
    constructor
    · rintro ⟨taken, rest, rfl, rfl, rfl⟩
      rfl
    · rintro rfl
      exact ⟨_, _, rfl, rfl, rfl⟩

theorem decode?_eq_none_iff (bytes : List UInt8) :
    decode? bytes = none ↔ ∀ text, bytes ≠ encode text := by
  rw [Option.eq_none_iff_forall_ne_some]
  simp only [ne_eq, decode?_eq_some_iff]

end StatusPrompt.Utf8
