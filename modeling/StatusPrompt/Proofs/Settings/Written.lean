import StatusPrompt.Proofs.Settings.Loaded

/-!
Settings written down. Whatever characters the format and the glyphs hold, there is a file that
loads them: a string literal can spell any text, and an object gives every field by its name.
-/

namespace StatusPrompt

namespace Json

/-- A character as it stands between quotes. Control characters are given by their numbers. -/
def quotedChar (c : Char) : Text :=
  if c.toNat < 0x20 then
    ['\\', 'u', '0', '0', Nat.digitChar (c.toNat / 16), Nat.digitChar (c.toNat % 16)]
  else if c = '"' ∨ c = '\\' then ['\\', c]
  else [c]

/-- The element of a string that the quoted character spells. -/
def quotedUnit (c : Char) : StringUnit :=
  if c.toNat < 0x20 then .unit c.toNat else .character c

def quoted (text : Text) : Text := '"' :: (text.flatMap quotedChar ++ ['"'])

theorem unitSpelling_quotedChar (c : Char) : UnitSpelling (quotedChar c) (quotedUnit c) := by
  unfold quotedChar quotedUnit
  by_cases control : c.toNat < 0x20
  · rw [if_pos control, if_pos control]
    have value : ((0 * 16 + 0) * 16 + c.toNat / 16) * 16 + c.toNat % 16 = c.toNat := by omega
    have spelled := UnitSpelling.hex '0' '0' _ _ 0 0 (c.toNat / 16) (c.toNat % 16)
      (by decide) (by decide) ⟨by omega, Or.inl rfl⟩ ⟨by omega, Or.inl rfl⟩
    rwa [value] at spelled
  · rw [if_neg control, if_neg control]
    split_ifs with special
    · have escape : (c, c) ∈ shortEscapes := by
        rcases special with rfl | rfl <;> decide
      exact .short c c escape
    · rw [not_or] at special
      exact .plain c (List.forall_mem_singleton.mpr ⟨Nat.le_of_not_lt control, special⟩)

theorem bodySpelling_quoted (text : Text) :
    BodySpelling (text.flatMap quotedChar) (text.map quotedUnit) := by
  induction text with
  | nil => exact .nil
  | cons c rest ih => exact .cons _ _ _ _ (unitSpelling_quotedChar c) ih

theorem denotes_quoted (text : Text) : Denotes (text.map quotedUnit) text := by
  induction text with
  | nil => exact .nil
  | cons c rest ih =>
    rw [List.map_cons, quotedUnit]
    split_ifs
    · exact .unit c _ rest ih
    · exact .character c _ rest ih

theorem stringSpelling_quoted (text : Text) : StringSpelling (quoted text) (some text) := by
  have spelled := stringSpelling_of_body _ _ (bodySpelling_quoted text)
  rwa [textOf?_of_denotes _ text (denotes_quoted text)] at spelled

example : quoted "\"\t%b\\".toList = "\"\\\"\\u0009%b\\\\\"".toList := by decide

theorem Spelling.exists_members (members : List (Text × Value)) (filled : members ≠ [])
    (written : ∀ member ∈ members, ∃ text, Spelling (.value member.2) text) :
    ∃ text, Spelling (.members (members.map fun member => (some member.1, member.2))) text := by
  induction members with
  | nil => exact absurd rfl filled
  | cons member more ih =>
    obtain ⟨⟨text, spelled⟩, later⟩ := List.forall_mem_cons.mp written
    have named := stringSpelling_quoted member.1
    by_cases last : more = []
    · rw [last]
      exact ⟨_, .lastMember [] [] [] [] _ text _ _ (by decide) named spelled⟩
    · obtain ⟨rest, further⟩ := ih last later
      exact ⟨_, .member [] [] [] [] _ text rest _ _ _ (by decide) named spelled further⟩

end Json

namespace Settings

open Json

def glyphMembers (glyphs : Glyphs) : List (Text × Value) :=
  glyphFields.map fun field => (field.1, .string (some (field.2 glyphs)))

def members (settings : Settings) : List (Text × Value) :=
  [("format".toList, settings.format.elim .null fun text => .string (some text)),
    ("color".toList, .boolean settings.color), ("no_tag".toList, .boolean settings.noTag),
    ("stash".toList, .boolean settings.stash),
    ("glyphs".toList,
      .object ((glyphMembers settings.glyphs).map fun member => (some member.1, member.2)))]

def value (settings : Settings) : Value :=
  .object (settings.members.map fun member => (some member.1, member.2))

theorem ofValue?_value (settings : Settings) : ofValue? settings.value = some settings := by
  rcases settings with ⟨_ | format, color, noTag, stash, glyphs⟩
  · rfl
  · rfl

/-- Every field has a text: a switch or null is a word, and a text has its literal. -/
theorem exists_spelling_of_mem_members (settings : Settings) :
    ∀ member ∈ settings.members, ∃ text, Spelling (.value member.2) text := by
  have flag : ∀ flag, ∃ text, Spelling (.value (.boolean flag)) text := by
    intro flag
    cases flag with
    | true => exact ⟨_, .yes⟩
    | false => exact ⟨_, .no⟩
  have format : ∃ text, Spelling (.value
      (settings.format.elim .null fun template => .string (some template))) text := by
    cases settings.format with
    | none => exact ⟨_, .null⟩
    | some template => exact ⟨_, .string _ _ (stringSpelling_quoted template)⟩
  have glyphs : ∀ member ∈ glyphMembers settings.glyphs,
      ∃ text, Spelling (.value member.2) text := by
    intro member inside
    obtain ⟨field, -, rfl⟩ := List.mem_map.mp inside
    exact ⟨_, .string _ _ (stringSpelling_quoted (field.2 settings.glyphs))⟩
  obtain ⟨inner, spelled⟩ := Spelling.exists_members _ (List.cons_ne_nil _ _) glyphs
  simp only [members, List.forall_mem_cons]
  exact ⟨format, flag _, flag _, flag _, ⟨_, .object _ inner spelled⟩, List.forall_mem_nil _⟩

theorem exists_spells_value (settings : Settings) : ∃ text, Spells text settings.value := by
  obtain ⟨text, spelled⟩ := Spelling.exists_members settings.members (List.cons_ne_nil _ _)
    settings.exists_spelling_of_mem_members
  exact ⟨_, [], _, [], rfl, List.forall_mem_nil _, List.forall_mem_nil _, .object _ text spelled⟩

theorem exists_file (settings : Settings) (path : Text) :
    ∃ content, load path (some (.file content)) = .ok settings := by
  obtain ⟨text, spelled⟩ := settings.exists_spells_value
  refine ⟨Utf8.encode text, ?_⟩
  rw [load_file_eq path text _ spelled, settings.ofValue?_value]
  rfl

end Settings

end StatusPrompt
