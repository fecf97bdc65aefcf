import Mathlib.Data.List.Perm.Basic
import StatusPrompt.Proofs.Report.KeyPosition

/-!
What a reading rests on. Facts of different keys say different things of a working copy, and a
fact without a key only counts, so two facts can be taken in either way round unless they have one
key. A reading therefore rests on what is said under each key, in order, and on the number of facts
of each kind without a key.
-/

namespace StatusPrompt

theorem Tally.record_comm (tally : Tally) (first second : Change) :
    (tally.record first).record second = (tally.record second).record first := by
  cases first <;> cases second <;> rfl

namespace Report

def Fact.Apart (first second : Fact) : Prop := first.key? = none ∨ first.key? ≠ second.key?

def underKey (kind : Option Key) (facts : List Fact) : List Fact :=
  facts.filter fun fact => fact.key? = kind

theorem mem_underKey (facts : List Fact) (fact : Fact) (member : fact ∈ facts) :
    fact ∈ underKey fact.key? facts :=
  List.mem_filter.mpr ⟨member, decide_eq_true rfl⟩

@[simp] theorem underKey_append (kind : Option Key) (before after : List Fact) :
    underKey kind (before ++ after) = underKey kind before ++ underKey kind after :=
  List.filter_append before after

@[simp] theorem underKey_cons (fact : Fact) (rest : List Fact) :
    underKey fact.key? (fact :: rest) = fact :: underKey fact.key? rest :=
  List.filter_cons_of_pos (decide_eq_true rfl)

theorem underKey_other (kind : Option Key) (fact : Fact) (rest : List Fact)
    (other : fact.key? ≠ kind) : underKey kind (fact :: rest) = underKey kind rest :=
  List.filter_cons_of_neg (by simp [other])

/-- What the lists say about each key is the same in the same order, and what they say without a
key is the same in any order. -/
structure SameByKey (first second : List Fact) : Prop where
  keyed : ∀ key : Key, underKey (some key) first = underKey (some key) second
  keyless : (underKey none first).Perm (underKey none second)

namespace SameByKey

theorem perm {first second : List Fact} (same : SameByKey first second) (kind : Option Key) :
    (underKey kind first).Perm (underKey kind second) := by
  cases kind with
  | none => exact same.keyless
  | some key => rw [same.keyed key]

theorem mem {first second : List Fact} (same : SameByKey first second) (fact : Fact)
    (member : fact ∈ second) : fact ∈ first :=
  List.mem_of_mem_filter ((same.perm fact.key?).mem_iff.mpr (mem_underKey second fact member))

/-- The lists still say the same when a fact is taken out of both: what they say under any other
key is not concerned. -/
theorem without {fact : Fact} {rest before after : List Fact}
    (same : SameByKey (fact :: rest) (before ++ fact :: after))
    (keyed : fact.key? ≠ none → underKey fact.key? before = []) :
    SameByKey rest (before ++ after) := by
  have others : ∀ kind, fact.key? ≠ kind →
      underKey kind (fact :: rest) = underKey kind rest ∧
        underKey kind (before ++ fact :: after) = underKey kind (before ++ after) := by
    intro kind other
    rw [underKey_append, underKey_append, underKey_other kind fact rest other,
      underKey_other kind fact after other]
    exact ⟨rfl, rfl⟩
  constructor
  · intro key
    have whole := same.keyed key
    by_cases named : fact.key? = some key
    · rw [← named] at whole ⊢
      have none : underKey fact.key? before = [] := keyed (by rw [named]; simp)
      rw [underKey_append, none, underKey_cons, underKey_cons] at whole
      rw [underKey_append, none]
      exact (List.cons.inj whole).2
    · rw [← (others _ named).1, ← (others _ named).2]
      exact whole
  · have whole := same.keyless
    by_cases named : fact.key? = none
    · rw [← named] at whole ⊢
      rw [underKey_append, underKey_cons, underKey_cons] at whole
      rw [underKey_append]
      exact (whole.trans List.perm_middle).cons_inv
    · rw [← (others _ named).1, ← (others _ named).2]
      exact whole

/-- The first fact of the one list stands in the other behind facts that are apart from it, and
without it the lists still say the same. -/
theorem front {fact : Fact} {rest second : List Fact} (same : SameByKey (fact :: rest) second) :
    ∃ before after, second = before ++ fact :: after ∧ (∀ other ∈ before, fact.Apart other) ∧
      SameByKey rest (before ++ after) := by
  cases named : fact.key? with
  | none =>
    have inside : fact ∈ second :=
      List.mem_of_mem_filter ((same.perm _).mem_iff.mp (mem_underKey _ fact List.mem_cons_self))
    obtain ⟨before, after, rfl⟩ := List.append_of_mem inside
    exact ⟨before, after, rfl, fun _ _ => Or.inl named,
      same.without fun keyed => absurd named keyed⟩
  | some key =>
    -- Among the facts of its key it comes first on both sides.
    have leads := same.keyed key
    rw [← named, underKey_cons] at leads
    obtain ⟨before, after, rfl, others, -, -⟩ := List.filter_eq_cons_iff.mp leads.symm
    refine ⟨before, after, rfl, fun other member => Or.inr fun equal => ?_,
      same.without fun _ => List.filter_eq_nil_iff.mpr others⟩
    exact others other member (decide_eq_true equal.symm)

end SameByKey

theorem fault?_of_key? (fact : Fact) (other : fact.key? ≠ some .drift) : fact.fault? = none := by
  cases fact with
  | malformed word => exact absurd rfl other
  | _ => rfl

theorem findSome?_fault? (facts : List Fact) :
    facts.findSome? Fact.fault? = (underKey (some .drift) facts).findSome? Fact.fault? := by
  induction facts with
  | nil => rfl
  | cons fact rest ih =>
    by_cases drift : fact.key? = some .drift
    · rw [← drift] at ih ⊢
      simp [List.findSome?_cons, ih]
    · rw [underKey_other _ fact rest drift, List.findSome?_cons, fault?_of_key? fact drift, ih]

theorem SameByKey.findSome?_fault? {first second : List Fact} (same : SameByKey first second) :
    first.findSome? Fact.fault? = second.findSome? Fact.fault? := by
  rw [Report.findSome?_fault? first, Report.findSome?_fault? second, same.keyed]

namespace Reader

variable (reader : Reader)

theorem note_comm (snapshot : Snapshot) (first second : Fact) (apart : first.Apart second) :
    note (note snapshot first) second = note (note snapshot second) first := by
  have differ : ∀ key, first.key? = some key → second.key? ≠ some key := by
    intro key named same
    rcases apart with none | different
    · rw [none] at named
      cases named
    · exact different (named.trans same.symm)
  cases first with
  | commit id =>
    cases second with
    | commit other => exact absurd rfl (differ .commit rfl)
    | _ => rfl
  | branch name =>
    cases second with
    | branch other => exact absurd rfl (differ .branch rfl)
    | _ => rfl
  | tracking name =>
    cases second with
    | tracking other => exact absurd rfl (differ .tracking rfl)
    | _ => rfl
  | ahead count =>
    cases second with
    | ahead other => exact absurd rfl (differ .drift rfl)
    | _ => rfl
  | behind count =>
    cases second with
    | behind other => exact absurd rfl (differ .drift rfl)
    | _ => rfl
  | malformed word => cases second <;> rfl
  | staged change =>
    cases second with
    | staged other => simp only [note, Tally.record_comm snapshot.staged change other]
    | _ => rfl
  | unstaged change =>
    cases second with
    | unstaged other => simp only [note, Tally.record_comm snapshot.unstaged change other]
    | _ => rfl
  | unmerged => cases second <;> rfl
  | untracked => cases second <;> rfl

theorem shown_key? (fact : Fact) : (reader.shown fact).key? = fact.key? := by
  cases fact <;> rfl

theorem takeIn_lookups (reading : Reading) (fact : Fact) :
    (reader.takeIn reading fact).lookups =
      reading.lookups + if reader.asksTag fact then 1 else 0 := by
  unfold takeIn
  split_ifs <;> rfl

theorem takeIn_eq (reading : Reading) (fact : Fact) :
    reader.takeIn reading fact = ⟨note reading.snapshot (reader.shown fact),
      reading.lookups + if reader.asksTag fact then 1 else 0⟩ := by
  rw [← takeIn_snapshot, ← takeIn_lookups]

theorem takeIn_comm (reading : Reading) (first second : Fact) (apart : first.Apart second) :
    reader.takeIn (reader.takeIn reading first) second =
      reader.takeIn (reader.takeIn reading second) first := by
  have shownApart : (reader.shown first).Apart (reader.shown second) := by
    unfold Fact.Apart
    rw [shown_key?, shown_key?]
    exact apart
  simp only [takeIn_eq, note_comm _ _ _ shownApart, Reading.mk.injEq, true_and]
  omega

theorem takeIn_foldl_comm (reading : Reading) (fact : Fact) (facts : List Fact)
    (apart : ∀ other ∈ facts, fact.Apart other) :
    facts.foldl reader.takeIn (reader.takeIn reading fact) =
      reader.takeIn (facts.foldl reader.takeIn reading) fact := by
  induction facts generalizing reading with
  | nil => rfl
  | cons other rest ih =>
    rw [List.foldl_cons, List.foldl_cons,
      takeIn_comm reader reading fact other (apart other List.mem_cons_self)]
    exact ih _ fun later member => apart later (List.mem_cons_of_mem other member)

/-- Facts that say the same by key have the same effect. The first fact of the one list comes to
the front of the other past facts that are all apart from it. -/
theorem foldl_eq_of_sameByKey (reading : Reading) (first second : List Fact)
    (same : SameByKey first second) :
    first.foldl reader.takeIn reading = second.foldl reader.takeIn reading := by
  induction first generalizing second reading with
  | nil =>
    rw [List.eq_nil_iff_forall_not_mem.mpr fun fact member =>
      List.not_mem_nil (same.mem fact member)]
  | cons fact rest ih =>
    obtain ⟨before, after, rfl, apart, left⟩ := same.front
    rw [List.foldl_cons, ih _ (before ++ after) left, List.foldl_append, List.foldl_append,
      List.foldl_cons, takeIn_foldl_comm reader reading fact before apart]

theorem asksTag_of_keyless (fact : Fact) (keyless : fact.key? = none) :
    reader.asksTag fact = false := by
  cases fact with
  | branch name => cases keyless
  | _ => rfl

theorem foldl_lookups (reading : Reading) (facts : List Fact) :
    (facts.foldl reader.takeIn reading).lookups =
      reading.lookups + facts.countP fun fact => reader.asksTag fact := by
  induction facts generalizing reading with
  | nil => rfl
  | cons fact rest ih =>
    rw [List.foldl_cons, ih, takeIn_lookups, List.countP_cons]
    omega

theorem read_lookups (text : Text) :
    (reader.read text).2 = ((factsOf text).takeWhile fun fact => fact.fault?.isNone).countP
      fun fact => reader.asksTag fact := by
  have counted : (reader.read text).2 =
      (reader.absorb reader.start (factsOf text)).1.lookups := by
    unfold read
    split
    next found => rw [found]
    next found => rw [found]
  rw [counted, absorb_eq_foldl, foldl_lookups]
  exact Nat.zero_add _

theorem countP_keyed (facts : List Fact) :
    (facts.takeWhile fun fact => fact.fault?.isNone).countP (fun fact => reader.asksTag fact) =
      ((facts.filter fun fact => fact.key?.isSome).takeWhile fun fact => fact.fault?.isNone).countP
        fun fact => reader.asksTag fact := by
  induction facts with
  | nil => rfl
  | cons fact rest ih =>
    cases named : fact.key? with
    | none =>
      have sound : fact.fault? = none := fault?_of_key? fact (by rw [named]; simp)
      simp [named, sound, ih, asksTag_of_keyless reader fact named]
    | some key =>
      cases fault : fact.fault? with
      | none => simp [named, fault, List.countP_cons, ih]
      | some word => simp [named, fault]

theorem lookups_of_keyed (first second : Text)
    (same : ((factsOf first).filter fun fact => fact.key?.isSome) =
      (factsOf second).filter fun fact => fact.key?.isSome) :
    (reader.read first).2 = (reader.read second).2 := by
  rw [read_lookups, read_lookups, countP_keyed reader (factsOf first),
    countP_keyed reader (factsOf second), same]

/-- Whether a report is refused and what a readable one holds rest on what is said by key. -/
theorem read_of_sameByKey (first second : Text)
    (same : SameByKey (factsOf first) (factsOf second)) :
    (reader.read first).1 = (reader.read second).1 := by
  have faults : fault? first = fault? second := same.findSome?_fault?
  cases fault : fault? first with
  | none =>
    rw [read_of_sound reader first fault, read_of_sound reader second (faults ▸ fault),
      foldl_eq_of_sameByKey reader _ _ _ same]
  | some word =>
    rw [read_of_fault reader first word fault, read_of_fault reader second word (faults ▸ fault)]

theorem lookups_of_sameByKey (first second : Text)
    (same : SameByKey (factsOf first) (factsOf second)) (snapshot : Snapshot)
    (readable : (reader.read first).1 = .ok snapshot) :
    (reader.read first).2 = (reader.read second).2 := by
  obtain ⟨sound, -⟩ := (read_eq_ok_iff reader first snapshot).mp readable
  have otherSound : fault? second = none := same.findSome?_fault?.symm.trans sound
  unfold read
  rw [absorb_of_sound reader reader.start _ sound, absorb_of_sound reader reader.start _ otherSound,
    foldl_eq_of_sameByKey reader _ _ _ same]

end Reader

end Report

end StatusPrompt
