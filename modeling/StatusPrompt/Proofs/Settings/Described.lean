import Mathlib.Data.List.Forall2
import StatusPrompt.Proofs.Json.Reading
import StatusPrompt.Settings.Basic

/-!
Settings as a JSON value describes them. A record gives some of its fields, an object by their names
and an array by their places; a field has what is given for it, and its default where nothing is.
The order of the members of an object and the members under other names make no difference, since
neither is spoken of.
-/

namespace StatusPrompt.Settings

open Json

/-- What a value gives for the field of a name. In an array the place of a field is that of its name
in the list of names. -/
def Gives (names : List Text) (value : Value) (name : Text) (content : Value) : Prop :=
  match value with
  | .object members => (some name, content) ∈ members
  | .array items => items[names.idxOf name]? = some content
  | _ => False

/-- An object that names no field twice, or an array without an item too many. The names must be
texts; one that is not has a surrogate without its partner. -/
def IsRecord (names : List Text) : Value → Prop
  | .object members => (∀ member ∈ members, member.1 ≠ none) ∧
      ∀ name ∈ names, (members.map Prod.fst).count (some name) ≤ 1
  | .array items => items.length ≤ names.length
  | _ => False

def Holds {α : Type} (given : Value → Prop) (means : Value → α → Prop) (usual actual : α) : Prop :=
  (∀ content, given content → means content actual) ∧ ((¬∃ content, given content) → actual = usual)

def MeansText (content : Value) (text : Text) : Prop := content = .string (some text)

def MeansFlag (content : Value) (flag : Bool) : Prop := content = .boolean flag

def MeansTextOrNull (content : Value) : Option Text → Prop
  | none => content = .null
  | some text => MeansText content text

def glyphFields : List (Text × (Glyphs → Text)) :=
  [("branch".toList, Glyphs.branch), ("modified".toList, Glyphs.modified),
    ("dirty".toList, Glyphs.dirty), ("clean".toList, Glyphs.clean),
    ("untracked".toList, Glyphs.untracked), ("unmerged".toList, Glyphs.unmerged),
    ("ahead".toList, Glyphs.ahead), ("behind".toList, Glyphs.behind),
    ("stash".toList, Glyphs.stash)]

structure DescribesGlyphs (value : Value) (glyphs : Glyphs) : Prop where
  record : IsRecord glyphNames value
  fields : ∀ field ∈ glyphFields,
    Holds (Gives glyphNames value field.1) MeansText (field.2 {}) (field.2 glyphs)

structure Describes (value : Value) (settings : Settings) : Prop where
  record : IsRecord names value
  format : Holds (Gives names value "format".toList) MeansTextOrNull none settings.format
  color : Holds (Gives names value "color".toList) MeansFlag true settings.color
  noTag : Holds (Gives names value "no_tag".toList) MeansFlag false settings.noTag
  stash : Holds (Gives names value "stash".toList) MeansFlag false settings.stash
  glyphs : Holds (Gives names value "glyphs".toList) DescribesGlyphs {} settings.glyphs

structure AcceptsGlyphs (value : Value) : Prop where
  record : IsRecord glyphNames value
  texts : ∀ name ∈ glyphNames, ∀ content, Gives glyphNames value name content →
    ∃ text, content = .string (some text)

/-- A record of settings with every field that is given of its type. -/
structure Accepts (value : Value) : Prop where
  record : IsRecord names value
  format : ∀ content, Gives names value "format".toList content →
    content = .null ∨ ∃ text, content = .string (some text)
  flags : ∀ name ∈ ["color".toList, "no_tag".toList, "stash".toList], ∀ content,
    Gives names value name content → ∃ flag, content = .boolean flag
  glyphs : ∀ content, Gives names value "glyphs".toList content → AcceptsGlyphs content

section Slots

variable (names : List Text)

def IsSlot (value : Value) (name : Text) (slot : Option Value) : Prop :=
  ∀ content, slot = some content ↔ Gives names value name content

theorem isSlot_unique (value : Value) : Relator.RightUnique (IsSlot names value) := by
  intro name first second isFirst isSecond
  apply Option.ext
  intro content
  rw [isFirst content, isSecond content]

theorem count_name (members : List (Option Text × Value)) (name : Text) :
    (members.map Prod.fst).count (some name) =
      (members.filter fun member => member.1 == some name).length := by
  rw [List.count, List.countP_map, List.countP_eq_length_filter]
  rfl

theorem exists_member? (members : List (Option Text × Value)) (name : Text)
    (once : (members.map Prod.fst).count (some name) ≤ 1) :
    ∃ slot, member? name members = some slot := by
  rw [count_name] at once
  unfold member?
  generalize members.filter (fun member => member.1 == some name) = chosen at once ⊢
  match chosen, once with
  | [], _ => exact ⟨none, rfl⟩
  | [(_, value)], _ => exact ⟨some value, rfl⟩
  | _ :: _ :: _, once => exact absurd once (by simp)

theorem member?_eq_some_iff (members : List (Option Text × Value)) (name : Text)
    (slot : Option Value) :
    member? name members = some slot ↔
      (members.map Prod.fst).count (some name) ≤ 1 ∧ IsSlot names (.object members) name slot := by
  have found : ∀ content, (some name, content) ∈ members ↔
      (some name, content) ∈ members.filter fun member => member.1 == some name := by
    intro content
    simp
  have named : ∀ member ∈ members.filter fun member => member.1 == some name,
      member.1 = some name := by
    intro member inside
    simpa using (List.mem_filter.mp inside).2
  unfold member? IsSlot Gives
  simp only [count_name, found]
  generalize members.filter (fun member => member.1 == some name) = chosen at named ⊢
  match chosen, named with
  | [], _ =>
    simp only [Option.some.injEq, List.length_nil, Nat.zero_le, List.not_mem_nil, iff_false,
      true_and]
    rw [eq_comm, Option.eq_none_iff_forall_ne_some]
  | [(key, value)], named =>
    obtain rfl : key = some name := named _ List.mem_cons_self
    simp only [Option.some.injEq, List.length_singleton, Nat.le_refl, List.mem_singleton,
      Prod.mk.injEq, true_and]
    constructor
    · rintro rfl content
      rw [Option.some.injEq, eq_comm]
    · intro given
      exact ((given value).mpr rfl).symm
  | first :: second :: rest, _ => simp

theorem mapM_eq_some_iff {α β : Type} (image : α → Option β) (items : List α) (results : List β) :
    items.mapM image = some results ↔
      List.Forall₂ (fun item result => image item = some result) items results := by
  induction items generalizing results with
  | nil => cases results <;> simp
  | cons item rest ih =>
    cases results with
    | nil => simp [Option.bind_eq_some_iff]
    | cons result more => simp [Option.bind_eq_some_iff, ih]

theorem exists_mapM {α β : Type} (image : α → Option β) (items : List α)
    (each : ∀ item ∈ items, ∃ result, image item = some result) :
    ∃ results, items.mapM image = some results := by
  induction items with
  | nil => exact ⟨[], rfl⟩
  | cons item rest ih =>
    obtain ⟨⟨result, first⟩, later⟩ := List.forall_mem_cons.mp each
    obtain ⟨more, others⟩ := ih later
    exact ⟨result :: more, by simp [first, others]⟩

theorem isSlot_items (distinct : names.Nodup) (items : List Value)
    (short : items.length ≤ names.length) :
    List.Forall₂ (IsSlot names (.array items)) names
      (items.map some ++ List.replicate (names.length - items.length) none) := by
  rw [List.forall₂_iff_get]
  refine ⟨by simp [Nat.add_sub_cancel' short], ?_⟩
  intro place inside _ content
  have placed : names.idxOf (names.get ⟨place, inside⟩) = place :=
    distinct.idxOf_getElem place inside
  rw [Gives, placed, List.get_eq_getElem]
  by_cases within : place < items.length
  · simp [within]
  · simp [List.getElem_append, within]

theorem all_readable_iff (members : List (Option Text × Value)) :
    (members.all fun member => member.1.isSome) = true ↔ ∀ member ∈ members, member.1 ≠ none := by
  simp only [List.all_eq_true, Option.isSome_iff_ne_none]

theorem slots?_eq_some_iff (distinct : names.Nodup) (value : Value) (slots : List (Option Value)) :
    slots? names value = some slots ↔
      IsRecord names value ∧ List.Forall₂ (IsSlot names value) names slots := by
  cases value with
  | object members =>
    rw [slots?, Option.ite_none_right_eq_some, all_readable_iff, mapM_eq_some_iff]
    simp only [member?_eq_some_iff names members, IsRecord, List.forall₂_and_left, and_assoc]
  | array items =>
    rw [slots?, Option.ite_none_right_eq_some, IsRecord, Option.some.injEq]
    apply and_congr_right
    intro short
    have placed := isSlot_items names distinct items short
    constructor
    · rintro rfl
      exact placed
    · exact List.right_unique_forall₂' (isSlot_unique names _) placed
  | _ => simp [slots?, IsRecord]

theorem exists_slots (value : Value) (record : IsRecord names value) :
    ∃ slots, slots? names value = some slots := by
  cases value with
  | object members =>
    rw [slots?, if_pos ((all_readable_iff members).mpr record.1)]
    exact exists_mapM _ names fun name member => exists_member? members name (record.2 name member)
  | array items => exact ⟨_, if_pos record⟩
  | _ => exact absurd record id

theorem slots?_eq_none (distinct : names.Nodup) (value : Value) (other : ¬IsRecord names value) :
    slots? names value = none := by
  rw [Option.eq_none_iff_forall_ne_some]
  intro slots found
  exact other ((slots?_eq_some_iff names distinct value slots).mp found).1

/-- A record gives one thing for a field. -/
theorem gives_unique (value : Value) (record : IsRecord names value) (name : Text)
    (field : name ∈ names) (first second : Value) (one : Gives names value name first)
    (other : Gives names value name second) : first = second := by
  cases value with
  | object members =>
    obtain ⟨slot, found⟩ := exists_member? members name (record.2 name field)
    have isSlot := ((member?_eq_some_iff names members name slot).mp found).2
    have same := ((isSlot first).mpr one).symm.trans ((isSlot second).mpr other)
    exact Option.some.inj same
  | array items => exact Option.some.inj (Eq.symm one |>.trans other)
  | _ => exact absurd one id

variable {α : Type} (means : Value → α → Prop) (usual : α)

theorem slot?_eq_some_iff (given : Value → Prop) (slot : Option Value)
    (isSlot : ∀ content, slot = some content ↔ given content) (read : Value → Option α)
    (reads : ∀ content actual, read content = some actual ↔ means content actual) (actual : α) :
    slot? usual read slot = some actual ↔ Holds given means usual actual := by
  simp only [Holds, ← isSlot]
  cases slot with
  | none => simp [slot?, eq_comm]
  | some content => simp [slot?, reads]

/-- A field of a record can be filled if what is given for it has a meaning. -/
theorem exists_holds (value : Value) (record : IsRecord names value) (name : Text)
    (field : name ∈ names)
    (typed : ∀ content, Gives names value name content → ∃ actual, means content actual) :
    ∃ actual, Holds (Gives names value name) means usual actual := by
  by_cases given : ∃ content, Gives names value name content
  · obtain ⟨content, gives⟩ := given
    obtain ⟨actual, meant⟩ := typed content gives
    refine ⟨actual, ?_, fun absent => absurd ⟨content, gives⟩ absent⟩
    intro other givesOther
    rwa [gives_unique names value record name field other content givesOther gives]
  · exact ⟨usual, fun content gives => absurd ⟨content, gives⟩ given, fun _ => rfl⟩

end Slots

theorem text?_eq_some_iff (content : Value) (text : Text) :
    text? content = some text ↔ MeansText content text := by
  cases content <;> simp [text?, MeansText]

theorem boolean?_eq_some_iff (content : Value) (flag : Bool) :
    boolean? content = some flag ↔ MeansFlag content flag := by
  cases content <;> simp [boolean?, MeansFlag]

theorem textOrNull?_eq_some_iff (content : Value) (text : Option Text) :
    textOrNull? content = some text ↔ MeansTextOrNull content text := by
  cases content with
  | string found => cases text <;> simp [textOrNull?, MeansTextOrNull, MeansText]
  | _ => cases text <;> simp [textOrNull?, MeansTextOrNull, MeansText]

theorem glyphs?_eq_some_iff (value : Value) (glyphs : Glyphs) :
    glyphs? value = some glyphs ↔ DescribesGlyphs value glyphs := by
  have distinct : glyphNames.Nodup := by decide
  by_cases record : IsRecord glyphNames value
  · obtain ⟨slots, found⟩ := exists_slots glyphNames value record
    -- The slots stand in the order of the names, one for each.
    have places : List.Forall₂ (IsSlot glyphNames value) (glyphFields.map Prod.fst) slots :=
      ((slots?_eq_some_iff glyphNames distinct value slots).mp found).2
    simp only [glyphFields, List.map_cons, List.map_nil, List.forall₂_cons_left_iff,
      List.forall₂_nil_left_iff] at places
    obtain ⟨branch, _, isBranch, ⟨modified, _, isModified, ⟨dirty, _, isDirty, ⟨clean, _, isClean,
      ⟨untracked, _, isUntracked, ⟨unmerged, _, isUnmerged, ⟨ahead, _, isAhead,
      ⟨behind, _, isBehind, ⟨stash, _, isStash, rfl, rfl⟩, rfl⟩, rfl⟩, rfl⟩, rfl⟩, rfl⟩, rfl⟩,
      rfl⟩, rfl⟩ := places
    have holds := fun (usual : Text) (name : Text) (slot : Option Value)
      (isSlot : IsSlot glyphNames value name slot) (text : Text) =>
        slot?_eq_some_iff MeansText usual _ slot isSlot text? text?_eq_some_iff text
    simp only [glyphs?, found, Option.bind_eq_bind, Option.bind_eq_some_iff, Option.some.injEq,
      holds _ _ _ isBranch, holds _ _ _ isModified, holds _ _ _ isDirty, holds _ _ _ isClean,
      holds _ _ _ isUntracked, holds _ _ _ isUnmerged, holds _ _ _ isAhead, holds _ _ _ isBehind,
      holds _ _ _ isStash]
    constructor
    · rintro ⟨branch, one, modified, two, dirty, three, clean, four, untracked, five, unmerged, six,
        ahead, seven, behind, eight, stash, nine, rfl⟩
      refine ⟨record, ?_⟩
      simp only [glyphFields, List.forall_mem_cons]
      exact ⟨one, two, three, four, five, six, seven, eight, nine, nofun⟩
    · rintro ⟨-, fields⟩
      simp only [glyphFields, List.forall_mem_cons] at fields
      obtain ⟨one, two, three, four, five, six, seven, eight, nine, -⟩ := fields
      exact ⟨_, one, _, two, _, three, _, four, _, five, _, six, _, seven, _, eight, _, nine, rfl⟩
  · have none := slots?_eq_none glyphNames distinct value record
    simp only [glyphs?, none, reduceCtorEq, false_iff]
    exact fun describes => record describes.record

theorem ofValue?_eq_some_iff (value : Value) (settings : Settings) :
    ofValue? value = some settings ↔ Describes value settings := by
  have distinct : names.Nodup := by decide
  by_cases record : IsRecord names value
  · obtain ⟨slots, found⟩ := exists_slots names value record
    have places : List.Forall₂ (IsSlot names value)
        ["format".toList, "color".toList, "no_tag".toList, "stash".toList, "glyphs".toList] slots :=
      ((slots?_eq_some_iff names distinct value slots).mp found).2
    simp only [List.forall₂_cons_left_iff, List.forall₂_nil_left_iff] at places
    obtain ⟨format, _, isFormat, ⟨color, _, isColor, ⟨noTag, _, isNoTag, ⟨stash, _, isStash,
      ⟨glyphs, _, isGlyphs, rfl, rfl⟩, rfl⟩, rfl⟩, rfl⟩, rfl⟩ := places
    have flag := fun (usual : Bool) (name : Text) (slot : Option Value)
      (isSlot : IsSlot names value name slot) (flag : Bool) =>
        slot?_eq_some_iff MeansFlag usual _ slot isSlot boolean? boolean?_eq_some_iff flag
    simp only [ofValue?, found, Option.bind_eq_bind, Option.bind_eq_some_iff, Option.some.injEq,
      slot?_eq_some_iff _ _ _ format isFormat textOrNull? textOrNull?_eq_some_iff,
      flag _ _ _ isColor, flag _ _ _ isNoTag, flag _ _ _ isStash,
      slot?_eq_some_iff _ _ _ glyphs isGlyphs glyphs? glyphs?_eq_some_iff]
    constructor
    · rintro ⟨format, one, color, two, noTag, three, stash, four, glyphs, five, rfl⟩
      exact ⟨record, one, two, three, four, five⟩
    · rintro ⟨-, one, two, three, four, five⟩
      exact ⟨_, one, _, two, _, three, _, four, _, five, rfl⟩
  · have none := slots?_eq_none names distinct value record
    simp only [ofValue?, none, reduceCtorEq, false_iff]
    exact fun describes => record describes.record

theorem exists_describesGlyphs_iff (value : Value) :
    (∃ glyphs, DescribesGlyphs value glyphs) ↔ AcceptsGlyphs value := by
  have listed : glyphNames = glyphFields.map Prod.fst := rfl
  constructor
  · rintro ⟨glyphs, record, fields⟩
    refine ⟨record, ?_⟩
    intro name member content gives
    rw [listed] at member
    obtain ⟨field, inside, rfl⟩ := List.mem_map.mp member
    exact ⟨_, (fields field inside).1 content gives⟩
  · rintro ⟨record, texts⟩
    have filled : ∀ field ∈ glyphFields,
        ∃ text, Holds (Gives glyphNames value field.1) MeansText (field.2 {}) text := by
      intro field member
      have named : field.1 ∈ glyphNames := by
        rw [listed]
        exact List.mem_map_of_mem member
      exact exists_holds glyphNames MeansText _ value record field.1 named (texts field.1 named)
    simp only [glyphFields, List.forall_mem_cons] at filled
    obtain ⟨⟨branch, one⟩, ⟨modified, two⟩, ⟨dirty, three⟩, ⟨clean, four⟩, ⟨untracked, five⟩,
      ⟨unmerged, six⟩, ⟨ahead, seven⟩, ⟨behind, eight⟩, ⟨stash, nine⟩, -⟩ := filled
    refine ⟨⟨branch, modified, dirty, clean, untracked, unmerged, ahead, behind, stash⟩, record, ?_⟩
    simp only [glyphFields, List.forall_mem_cons]
    exact ⟨one, two, three, four, five, six, seven, eight, nine, nofun⟩

theorem exists_describes_iff (value : Value) :
    (∃ settings, Describes value settings) ↔ Accepts value := by
  constructor
  · rintro ⟨settings, describes⟩
    refine ⟨describes.record, ?_, ?_, ?_⟩
    · intro content gives
      have meant := describes.format.1 content gives
      cases format : settings.format with
      | none =>
        rw [format] at meant
        exact Or.inl meant
      | some text =>
        rw [format] at meant
        exact Or.inr ⟨text, meant⟩
    · simp only [List.forall_mem_cons]
      exact ⟨fun content gives => ⟨_, describes.color.1 content gives⟩,
        fun content gives => ⟨_, describes.noTag.1 content gives⟩,
        fun content gives => ⟨_, describes.stash.1 content gives⟩, nofun⟩
    · intro content gives
      exact (exists_describesGlyphs_iff content).mp ⟨_, describes.glyphs.1 content gives⟩
  · rintro ⟨record, format, flags, glyphs⟩
    simp only [List.forall_mem_cons] at flags
    have formatted : ∀ content, Gives names value "format".toList content →
        ∃ text, MeansTextOrNull content text := by
      intro content gives
      rcases format content gives with null | ⟨text, given⟩
      · exact ⟨none, null⟩
      · exact ⟨some text, given⟩
    have glyphed : ∀ content, Gives names value "glyphs".toList content →
        ∃ glyphs, DescribesGlyphs content glyphs :=
      fun content gives => (exists_describesGlyphs_iff content).mpr (glyphs content gives)
    obtain ⟨format, one⟩ := exists_holds names _ none value record _ (by decide) formatted
    obtain ⟨color, two⟩ := exists_holds names MeansFlag true value record _ (by decide) flags.1
    obtain ⟨noTag, three⟩ := exists_holds names MeansFlag false value record _ (by decide) flags.2.1
    obtain ⟨stash, four⟩ :=
      exists_holds names MeansFlag false value record _ (by decide) flags.2.2.1
    obtain ⟨glyphs, five⟩ := exists_holds names _ {} value record _ (by decide) glyphed
    exact ⟨⟨format, color, noTag, stash, glyphs⟩, record, one, two, three, four, five⟩

end StatusPrompt.Settings
