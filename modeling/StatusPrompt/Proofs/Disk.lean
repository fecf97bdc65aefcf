import Mathlib.Tactic.SplitIfs
import StatusPrompt.Disk

/-!
A file is given other content. Nothing but that file changes: what stands anywhere else stays, and
every path leads where it led before.
-/

namespace StatusPrompt

namespace Listing

@[simp] theorem find?_directory (first : Text) (inside rest : Listing) (name : Text)
    (below : List Text) :
    (directory first inside rest).find? name below =
      if first = name then
        match below with
        | [] => some .directory
        | next :: more => inside.find? next more
      else rest.find? name below := by
  cases below <;> rfl

theorem put_directory (first : Text) (inside rest : Listing) (name : Text) (below : List Text)
    (content : List UInt8) :
    (directory first inside rest).put name below (.file content) =
      if first = name then
        match below with
        | [] => file name content rest
        | next :: more => directory first (inside.put next more (.file content)) rest
      else directory first inside (rest.put name below (.file content)) := by
  cases below <;> rfl

theorem find?_put (listing : Listing) (name : Text) (below : List Text)
    (old content : List UInt8) (stands : listing.find? name below = some (.file old))
    (other : Text) (path : List Text) :
    (listing.put name below (.file content)).find? other path =
      if other = name ∧ path = below then some (.file content)
      else listing.find? other path := by
  induction listing generalizing name below other path with
  | done => cases stands
  | file first held rest ih =>
    rw [find?] at stands
    rw [put]
    by_cases here : first = name
    · rw [if_pos here] at stands ⊢
      split_ifs at stands with whole
      rw [whole, single, find?, find?, here]
      grind
    · rw [if_neg here] at stands ⊢
      rw [find?, find?, ih name below stands]
      grind
  | directory first inside rest deeper ih =>
    rw [find?_directory] at stands
    rw [put_directory]
    by_cases here : first = name
    · rw [if_pos here] at stands ⊢
      cases below with
      | nil => cases stands
      | cons next more =>
        dsimp only at stands ⊢
        rw [find?_directory, find?_directory]
        cases path with
        | nil => grind
        | cons step steps =>
          dsimp only
          rw [deeper next more stands]
          grind
    · rw [if_neg here] at stands ⊢
      rw [find?_directory, find?_directory, ih name below stands]
      grind

end Listing

namespace Disk

theorem put_apply (disk : Disk) (place : Place) (old content : List UInt8)
    (stands : disk place = some (.file old)) (other : Place) :
    disk.put place (.file content) other =
      if other = place then some (.file content) else disk other := by
  cases place with
  | nil => cases stands
  | cons name below =>
    cases other with
    | nil => rfl
    | cons first path =>
      simp only [List.cons.injEq]
      exact disk.root.find?_put name below old content stands first path

structure SameShape (first second : Disk) : Prop where
  present : ∀ place, (second place).isSome = (first place).isSome
  directory : ∀ place, second place = some .directory ↔ first place = some .directory

theorem sameShape_put (disk : Disk) (place : Place) (old content : List UInt8)
    (stands : disk place = some (.file old)) :
    SameShape disk (disk.put place (.file content)) where
  present other := by
    rw [disk.put_apply place old content stands]
    split_ifs with here
    · rw [here, stands]
      rfl
    · rfl
  directory other := by
    rw [disk.put_apply place old content stands]
    split_ifs with here
    · rw [here, stands]
      simp only [Option.some.injEq, reduceCtorEq]
    · exact Iff.rfl

variable {first second : Disk} (same : first.SameShape second)

include same

theorem SameShape.follow (place : Place) (components : List Text) :
    second.follow place components = first.follow place components := by
  induction components generalizing place with
  | nil => rfl
  | cons component rest ih =>
    have present := same.present place
    have directory := same.directory place
    unfold Disk.follow
    cases one : first place with
    | none =>
      rw [one] at present
      have missing : second place = none := Option.isNone_iff_eq_none.mp (by simpa using present)
      rw [missing]
    | some entry =>
      cases entry with
      | directory =>
        rw [directory.mpr one]
        dsimp only
        rw [same.present, ih]
      | file held =>
        rw [one] at present directory
        cases two : second place with
        | none =>
          rw [two] at present
          cases present
        | some other =>
          cases other with
          | directory => cases directory.mp two
          | file => rfl

theorem SameShape.route (base : Place) (path : Text) :
    second.route base path = first.route base path := by
  simp only [Disk.route, same.follow]

theorem SameShape.locate (base : Place) (path : Text) :
    second.locate base path = first.locate base path := by
  simp only [Disk.locate, same.route]

theorem SameShape.isPresent (base : Place) (path : Text) :
    second.isPresent base path = first.isPresent base path := by
  rw [Disk.isPresent, Disk.isPresent, entryAt, entryAt, same.locate]
  cases first.locate base path with
  | none => rfl
  | some place => exact same.present place

end Disk

end StatusPrompt
