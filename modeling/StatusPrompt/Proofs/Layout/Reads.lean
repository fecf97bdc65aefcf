import StatusPrompt.Layout
import StatusPrompt.Proofs.Layout.Directives

/-!
What a layout reads of the probes. The metadata directory is read by none. The stash is read by
one directive, which a format cannot hold without the two characters of its name side by side.
The merge mark is read by the fixed layout alone, and only while no unmerged file is counted.
-/

namespace StatusPrompt

theorem Text.contains_iff_infix (part text : Text) :
    Text.contains part text = true ↔ part <:+: text := by
  induction text with
  | nil => rw [Text.contains, List.isEmpty_iff, List.infix_nil]
  | cons c rest ih =>
    rw [Text.contains, Bool.or_eq_true, ih, List.isPrefixOf_iff_prefix, List.infix_cons_iff]

def Snapshot.withProbes (snapshot : Snapshot) (directory : Option Text) (merging stashed : Bool) :
    Snapshot :=
  { snapshot with metadataDir := directory, merging := merging, stashed := stashed }

theorem Directive.ofLetter_eq_stash_iff (letter : Char) :
    ofLetter letter = stash ↔ letter = 't' := by
  constructor
  · intro named
    unfold ofLetter at named
    split at named <;> cases named
    rfl
  · rintro rfl
    rfl

/-- The scan reaches a directive only where its name stands in the format. How percent signs pair
up decides which names it reaches, but it cannot reach one that is not there. -/
theorem Format.infix_of_mem_letters (template : Text) (letter : Char)
    (reached : letter ∈ letters template) : ['%', letter] <:+: template := by
  obtain ⟨front, rest, rfl, ends⟩ := (Scan.copy.mem_letters_iff template letter).mp reached
  have incomplete : isComplete front = false := by
    rw [← Bool.not_eq_true, isComplete_iff, ends]
    decide
  obtain ⟨before, rfl, -⟩ := exists_front front incomplete
  refine ⟨before, rest, ?_⟩
  simp

namespace Layout

/-- Whether the layout can show a stash: it is a format that holds the name of its directive. -/
def NamesStash : Layout → Prop
  | .format template => ['%', 't'] <:+: template
  | _ => False

theorem render_withProbes (look : Appearance) (layout : Layout) (snapshot : Snapshot)
    (directory other : Option Text) (merging merges stashed stashes : Bool)
    (sameMerge : 0 < snapshot.unmerged ∨ merging = merges)
    (sameStash : layout.NamesStash → stashed = stashes) :
    layout.render look (snapshot.withProbes directory merging stashed) =
      layout.render look (snapshot.withProbes other merges stashes) := by
  cases layout with
  | fixed =>
    have unmerged : (snapshot.withProbes directory merging stashed).hasUnmerged =
        (snapshot.withProbes other merges stashes).hasUnmerged := by
      rcases sameMerge with counted | rfl
      · simp [Snapshot.hasUnmerged, Snapshot.withProbes, counted]
      · rfl
    unfold Layout.render Fixed.render Fixed.cluster
    rw [unmerged]
    rfl
  | format template =>
    have alike : ∀ letter ∈ Format.letters template,
        (Directive.ofLetter letter).ReadsAlike look.color
          (snapshot.withProbes directory merging stashed)
          (snapshot.withProbes other merges stashes) := by
      intro letter reached
      apply Directive.readsAlike_withUnread look.color (snapshot.withProbes other merges stashes)
        (snapshot.withProbes directory merging stashed) stashed _ rfl
      intro stash
      apply sameStash
      rw [Directive.ofLetter_eq_stash_iff] at stash
      subst stash
      exact Format.infix_of_mem_letters template 't' reached
    exact congrArg Text.collapse (Format.expand_of_readsAlike look _ _ template alike)
  | raw => rfl

end Layout

end StatusPrompt
