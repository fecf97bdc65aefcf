import StatusPrompt.Proofs.Settings.Described
import StatusPrompt.Proofs.Text.Utf8

/-!
Loading a settings file. Any text of a value is as good as any other, since reading gives back the
value; what the value describes is then the whole of the settings, and a value that describes none
is refused.
-/

namespace StatusPrompt.Settings

open Json

theorem load_file_eq (path text : Text) (value : Value) (spelled : Spells text value) :
    load path (some (.file (Utf8.encode text))) =
      (ofValue? value).elim (.error (.badSettings path "these are no settings".toList)) .ok := by
  have decoded : Utf8.decode? (Utf8.encode text) = some text :=
    (Utf8.decode?_eq_some_iff _ text).mpr rfl
  have read : ofText? text = ofValue? value := by
    rw [ofText?, read?_of_spells text value spelled, Option.bind_some]
  simp only [load, decoded, read]
  cases ofValue? value <;> rfl

/-- A file with a text of a value loads exactly if the value is a record of settings, and gives the
settings that it describes, all else with its default. Otherwise the file is refused. Without a file
everything has its default. -/
theorem load_of_spells (path text : Text) (value : Value) (spelled : Spells text value) :
    ((∃ settings, load path (some (.file (Utf8.encode text))) = .ok settings) ↔ Accepts value) ∧
      (∀ settings, load path (some (.file (Utf8.encode text))) = .ok settings ↔
        Describes value settings) ∧
      (¬Accepts value → ∃ reason,
        load path (some (.file (Utf8.encode text))) = .error (.badSettings path reason)) ∧
      load path none = .ok {} := by
  have loaded := load_file_eq path text value spelled
  have describes : ∀ settings, load path (some (.file (Utf8.encode text))) = .ok settings ↔
      Describes value settings := by
    intro settings
    rw [loaded, ← ofValue?_eq_some_iff]
    cases ofValue? value <;> simp
  refine ⟨?_, describes, ?_, rfl⟩
  · simp only [describes, exists_describes_iff]
  · intro refused
    have none : ofValue? value = none := by
      rw [Option.eq_none_iff_forall_ne_some]
      intro settings found
      exact refused ((exists_describes_iff value).mp
        ⟨settings, (ofValue?_eq_some_iff value settings).mp found⟩)
    rw [loaded, none]
    exact ⟨_, rfl⟩

/-- One name with an escape, one that no field has, and a glyph among the defaults. -/
def settingsText : Text :=
  "\x7b\"c\\u006flor\" :false, \"x\":[\x7b\x7d,-1.5e+3],".toList ++
    "\"glyphs\":\x7b\"ahead\":\"^\"\x7d\x7d\n".toList

def settingsValue : Value := .object
  [(some "color".toList, .boolean false),
    (some ['x'], .array [.object [], .number "-1.5e+3".toList]),
    (some "glyphs".toList, .object [(some "ahead".toList, .string (some ['^']))])]

theorem spells_settingsText : Spells settingsText settingsValue := by
  have letter : UnitSpelling ['\\', 'u', '0', '0', '6', 'f'] (.unit 0x6f) :=
    .hex '0' '0' '6' 'f' 0 0 6 15 (by decide) (by decide) (by decide) (by decide)
  have color : StringSpelling ('"' :: ("c\\u006flor".toList ++ ['"'])) (some "color".toList) :=
    stringSpelling_of_body _ _ ((BodySpelling.characters ['c'] (by decide)).append
      (.cons _ _ _ _ letter (.characters ['l', 'o', 'r'] (by decide))))
  have number : IsNumber "-1.5e+3".toList :=
    ⟨['-'], ['1'], ['.', '5'], ['e', '+', '3'], rfl, by decide, .digits '1' [] (by decide) nofun,
      .digits ['5'] (by decide), .digits 'e' ['+'] ['3'] (by decide) (by decide) (by decide)⟩
  have items : Spelling (.items [.object [], .number "-1.5e+3".toList])
      "\x7b\x7d,-1.5e+3".toList :=
    .item [] [] _ _ _ _ (by decide) (.emptyObject [] (by decide))
      (.lastItem [] [] _ _ (by decide) (.number _ number))
  have caret : Spelling (.members [(some "ahead".toList, .string (some ['^']))])
      "\"ahead\":\"^\"".toList :=
    .lastMember [] [] [] [] _ _ _ _ (by decide) (stringSpelling_plain "ahead".toList (by decide))
      (.string _ _ (stringSpelling_plain ['^'] (by decide)))
  have members := Spelling.member [] [' '] [] [] _ _ _ _ _ _ (by decide) color .no
    (.member [' '] [] [] [] _ _ _ _ _ _ (by decide) (stringSpelling_plain ['x'] (by decide))
      (.array _ _ items)
      (.lastMember [] [] [] [] _ _ _ _ (by decide)
        (stringSpelling_plain "glyphs".toList (by decide)) (.object _ _ caret)))
  exact ⟨[], _, ['\n'], by decide, by decide, by decide, .object _ _ members⟩

theorem not_accepts_flag : ¬Accepts (.array [.boolean true]) := by
  intro accepts
  rcases accepts.format (.boolean true) rfl with null | ⟨text, given⟩
  · cases null
  · cases given

theorem load_of_spells_settingsText :
    Spells settingsText settingsValue ∧
      load [] (some (.file (Utf8.encode settingsText))) =
        .ok { color := false, glyphs := { ahead := ['^'] } } ∧
      Spells "[true]".toList (.array [.boolean true]) ∧ ¬Accepts (.array [.boolean true]) ∧
      ∃ reason, load [] (some (.file (Utf8.encode "[true]".toList))) =
        .error (.badSettings [] reason) := by
  have described : Describes settingsValue { color := false, glyphs := { ahead := ['^'] } } :=
    (ofValue?_eq_some_iff _ _).mp (by decide +kernel)
  have flag : Spells "[true]".toList (.array [.boolean true]) :=
    ⟨[], _, [], by decide, by decide, by decide, .array _ _ (.lastItem [] [] _ _ (by decide) .yes)⟩
  have loads := load_of_spells [] settingsText settingsValue spells_settingsText
  have refuses := load_of_spells [] "[true]".toList _ flag
  exact ⟨spells_settingsText, (loads.2.1 _).mpr described, flag, not_accepts_flag,
    refuses.2.2.1 not_accepts_flag⟩

end StatusPrompt.Settings
