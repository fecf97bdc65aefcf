import StatusPrompt.DiffSummary
import StatusPrompt.Proofs.Report.KeyPosition
import StatusPrompt.Proofs.Text.Cutting

/-!
The snapshots that a report and diff summaries can leave. What a report says of names are words of
its lines or parts of them, and the tag of a detached head is the one name that comes from
elsewhere; so while that tag stands on one line, every name of such a snapshot does.
-/

namespace StatusPrompt

open Text (Unbroken)

/-- What one report leaves, and then any number of diff summaries. -/
inductive Gathered (reader : Report.Reader) : Snapshot → Prop where
  | report (text : Text) (snapshot : Snapshot) (readable : (reader.read text).1 = .ok snapshot) :
      Gathered reader snapshot
  | summary (text : Text) (before after : Snapshot) (gathered : Gathered reader before)
      (readable : DiffSummary.addTo before text = .ok after) : Gathered reader after

structure Snapshot.NamesUnbroken (snapshot : Snapshot) : Prop where
  branch : Unbroken snapshot.branch
  remote : Unbroken snapshot.remote
  tracking : Unbroken snapshot.tracking

namespace Report

/-- The value of a key is one of the words behind it, or empty. -/
theorem not_blank_of_mem_valuesOf (key : Key) (text name : Text)
    (member : name ∈ valuesOf key text) : ∀ c ∈ name, isBlank c = false := by
  obtain ⟨words, standing, rfl⟩ := List.mem_map.mp member
  obtain ⟨line, -, taken⟩ := List.mem_flatMap.mp standing
  obtain ⟨position, -, rfl⟩ := List.mem_map.mp taken
  cases first : ((headerWords line).drop (position + 1)).head? with
  | none => exact fun c inside => absurd inside List.not_mem_nil
  | some word =>
    have inside : word ∈ headerWords line := List.mem_of_mem_drop (List.mem_of_head? first)
    rcases headerWords_eq_or line with empty | split
    · rw [empty] at inside
      exact absurd inside List.not_mem_nil
    · apply Text.not_blank_of_mem_words line
      rw [split]
      exact List.mem_cons_of_mem _ inside

theorem unbroken_of_valueOf? (key : Key) (valued : key ≠ .drift) (text name : Text) (fact : Fact)
    (stated : fact ∈ factsOf text) (given : fact.valueOf? key = some name) : Unbroken name := by
  apply Text.unbroken_of_words
  apply not_blank_of_mem_valuesOf key text
  rw [← factsOf_valueOf? key valued text]
  exact List.mem_filterMap.mpr ⟨fact, stated, given⟩

theorem mem_of_before? (mark : Char) (text part : Text)
    (found : Text.before? mark text = some part) : ∀ c ∈ part, c ∈ text := by
  induction text generalizing part with
  | nil => cases found
  | cons c rest ih =>
    rw [Text.before?] at found
    split_ifs at found with same
    · cases found
      nofun
    · obtain ⟨more, later, rfl⟩ := Option.map_eq_some_iff.mp found
      intro d member
      rcases List.mem_cons.mp member with rfl | inside
      · exact List.mem_cons_self
      · exact List.mem_cons_of_mem c (ih more later d inside)

namespace Reader

variable (reader : Reader) (tagged : ∀ tag, reader.tag = some tag → Unbroken tag)
include tagged

theorem shownBranch_unbroken (name : Text) (unbroken : Unbroken name) :
    Unbroken (reader.shownBranch name) := by
  unfold shownBranch
  split_ifs
  · cases known : reader.tag with
    | none => exact unbroken
    | some tag => exact tagged tag known
  · exact unbroken

omit tagged in
theorem remoteFor_unbroken (snapshot : Snapshot) (tracking : Text)
    (remote : Unbroken snapshot.remote) (unbroken : Unbroken tracking) :
    Unbroken (remoteFor snapshot tracking) := by
  unfold remoteFor
  split_ifs
  · cases found : Text.before? '/' tracking with
    | none => decide
    | some part =>
      have inside := mem_of_before? '/' tracking part found
      exact ⟨fun feed => unbroken.1 (inside _ feed), fun back => unbroken.2 (inside _ back)⟩
  · exact remote

/-- One fact leaves names on one line if it brings a name on one line or none. -/
theorem takeIn_namesUnbroken (reading : Reading) (fact : Fact)
    (before : reading.snapshot.NamesUnbroken)
    (branch : ∀ name, fact = .branch name → Unbroken name)
    (tracking : ∀ name, fact = .tracking name → Unbroken name) :
    (reader.takeIn reading fact).snapshot.NamesUnbroken := by
  rw [takeIn_snapshot]
  cases fact with
  | branch name =>
    have shown := shownBranch_unbroken reader tagged name (branch name rfl)
    exact ⟨shown, before.remote, before.tracking⟩
  | tracking name =>
    have first := remoteFor_unbroken _ name before.remote (tracking name rfl)
    exact ⟨before.branch, first, tracking name rfl⟩
  | _ => exact ⟨before.branch, before.remote, before.tracking⟩

theorem foldl_namesUnbroken (facts : List Fact) (reading : Reading)
    (before : reading.snapshot.NamesUnbroken)
    (branch : ∀ name, .branch name ∈ facts → Unbroken name)
    (tracking : ∀ name, .tracking name ∈ facts → Unbroken name) :
    (facts.foldl reader.takeIn reading).snapshot.NamesUnbroken := by
  induction facts generalizing reading with
  | nil => exact before
  | cons fact rest ih =>
    rw [List.foldl_cons]
    apply ih
    · apply takeIn_namesUnbroken reader tagged reading fact before
      · intro name same
        exact branch name (same ▸ List.mem_cons_self)
      · intro name same
        exact tracking name (same ▸ List.mem_cons_self)
    · exact fun name member => branch name (List.mem_cons_of_mem fact member)
    · exact fun name member => tracking name (List.mem_cons_of_mem fact member)

theorem read_namesUnbroken (text : Text) (snapshot : Snapshot)
    (readable : (reader.read text).1 = .ok snapshot) : snapshot.NamesUnbroken := by
  obtain ⟨-, rfl⟩ := (read_eq_ok_iff reader text snapshot).mp readable
  apply foldl_namesUnbroken reader tagged
  · have empty : Unbroken [] := by decide
    exact ⟨empty, empty, empty⟩
  · intro name stated
    exact unbroken_of_valueOf? .branch (by decide) text name _ stated rfl
  · intro name stated
    exact unbroken_of_valueOf? .tracking (by decide) text name _ stated rfl

end Reader

end Report

theorem DiffSummary.addTo_names (before after : Snapshot) (text : Text)
    (readable : DiffSummary.addTo before text = .ok after) :
    after.branch = before.branch ∧ after.remote = before.remote ∧
      after.tracking = before.tracking := by
  obtain ⟨added, -, rfl⟩ := (DiffSummary.addTo_eq_ok_iff before after text).mp readable
  exact ⟨rfl, rfl, rfl⟩

theorem Gathered.namesUnbroken {reader : Report.Reader}
    (tagged : ∀ tag, reader.tag = some tag → Unbroken tag) {snapshot : Snapshot}
    (gathered : Gathered reader snapshot) : snapshot.NamesUnbroken := by
  induction gathered with
  | report text snapshot readable => exact reader.read_namesUnbroken tagged text snapshot readable
  | summary text before after _ readable ih =>
    obtain ⟨branch, remote, tracking⟩ := DiffSummary.addTo_names before after text readable
    exact ⟨branch ▸ ih.branch, remote ▸ ih.remote, tracking ▸ ih.tracking⟩

end StatusPrompt
