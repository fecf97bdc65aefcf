import StatusPrompt.Proofs.Counter
import StatusPrompt.Proofs.Layout.Composition

/-!
What a format writes of itself and of a snapshot. A text whose percent signs are doubled is written
as it is. A directive with nothing to show can be taken out of a format: it writes nothing, not even
an empty pair of escape sequences, and the scanner goes on behind it as it does without it. And a
format reads no more of a snapshot than the directives do whose letters the scanner meets behind a
percent sign, so two snapshots that agree on that much are shown alike.
-/

namespace StatusPrompt

def Snapshot.withUnread (snapshot other : Snapshot) : Snapshot :=
  { snapshot with
    workDir := other.workDir
    metadataDir := other.metadataDir
    commit := other.commit
    tracking := other.tracking
    unmerged := other.unmerged
    merging := other.merging }

@[simp] theorem Snapshot.shortCommit_eq_nil_iff (snapshot : Snapshot) :
    snapshot.shortCommit = [] ↔ snapshot.commit = [] := by
  unfold Snapshot.shortCommit
  split_ifs
  · exact Iff.rfl
  · simp [shortLength]

@[simp] theorem Appearance.paint_eq_nil_iff (look : Appearance) (style : Style) (text : Text) :
    look.paint style text = [] ↔ text = [] := by
  unfold Appearance.paint Style.paint
  split_ifs with bare
  · exact Iff.rfl
  · have filled : text ≠ [] := fun empty => bare (Or.inr empty)
    simp [Escape.setting, filled]

theorem Appearance.paint_congr (look : Appearance) (style other : Style) (text : Text)
    (same : look.color = true → style = other) :
    look.paint style text = look.paint other text := by
  unfold Appearance.paint
  cases color : look.color with
  | true => rw [same color]
  | false => simp only [Style.paint, true_or, ↓reduceIte]

namespace Directive

def IsIdle (glyphs : Glyphs) (snapshot : Snapshot) : Directive → Prop
  | branchGlyph => glyphs.branch = []
  | systemName => False
  | branch => snapshot.branch = []
  | remote => snapshot.remote = []
  | commit => snapshot.commit = []
  | drift => snapshot.ahead = 0 ∧ snapshot.behind = 0
  | untracked => snapshot.untracked = 0 ∨ glyphs.untracked = []
  | unstaged => snapshot.unstaged.total = 0
  | staged => snapshot.staged.total = 0
  | lines => snapshot.insertions = 0 ∧ snapshot.deletions = 0
  | stash => snapshot.stashed = false ∨ glyphs.stash = []
  | character _ => False

/-- The snapshots agree on what the directive reads of them. The health is read for its colour
alone. -/
def ReadsAlike (color : Bool) (first second : Snapshot) : Directive → Prop
  | branch => first.branch = second.branch ∧ (color = true → first.health = second.health)
  | remote => first.remote = second.remote
  | commit =>
    first.shortCommit = second.shortCommit ∧ (color = true → first.health = second.health)
  | drift => first.ahead = second.ahead ∧ first.behind = second.behind
  | untracked => 0 < first.untracked ↔ 0 < second.untracked
  | unstaged => first.unstaged.total = second.unstaged.total
  | staged => first.staged.total = second.staged.total
  | lines => first.insertions = second.insertions ∧ first.deletions = second.deletions
  | stash => first.stashed = second.stashed
  | branchGlyph | systemName | character _ => True

section Idle

variable (look : Appearance)

@[simp] theorem shownIf_eq_nil_iff (shown : Bool) (style : Style) (text : Text) :
    shownIf shown look style text = [] ↔ shown = false ∨ text = [] := by
  cases shown with
  | true => simp [shownIf, Appearance.paint_eq_nil_iff]
  | false => simp [shownIf]

@[simp] theorem counted_eq_nil_iff (style : Style) (glyph : Text) (count : Nat) :
    counted look style glyph count = [] ↔ count = 0 := by
  have filled : glyph ++ Numeral.write count ≠ [] :=
    List.append_ne_nil_of_right_ne_nil _ Nat.toDigits_ne_nil
  rw [counted, shownIf_eq_nil_iff, or_iff_left filled, decide_eq_false_iff_not]
  omega

@[simp] theorem lineStats_eq_nil_iff (insertions deletions : Nat) :
    lineStats look insertions deletions = [] ↔ insertions = 0 ∧ deletions = 0 := by
  rw [lineStats, List.append_eq_nil_iff, List.append_eq_nil_iff, counted_eq_nil_iff,
    counted_eq_nil_iff]
  constructor
  · intro empty
    exact ⟨empty.1.1, empty.2⟩
  · intro zero
    have noSlash : ¬(0 < insertions ∧ 0 < deletions) := by omega
    exact ⟨⟨zero.1, if_neg noSlash⟩, zero.2⟩

end Idle

theorem shows_eq_nil_iff (look : Appearance) (snapshot : Snapshot) (directive : Directive) :
    directive.shows look snapshot = [] ↔ directive.IsIdle look.glyphs snapshot := by
  cases directive with
  | branchGlyph => exact Iff.rfl
  | systemName => simp [shows, IsIdle]
  | branch => exact look.paint_eq_nil_iff _ _
  | remote => exact Iff.rfl
  | commit =>
    simp [shows, IsIdle]
  | drift =>
    rw [shows, List.append_eq_nil_iff, counted_eq_nil_iff, counted_eq_nil_iff,
      Counter.toNat_eq_zero_iff, Counter.toNat_eq_zero_iff, IsIdle]
  | untracked =>
    rw [shows, shownIf_eq_nil_iff, decide_eq_false_iff_not, UInt32.not_lt, UInt32.le_zero_iff,
      IsIdle]
  | unstaged => rw [shows, counted_eq_nil_iff, Counter.toNat_eq_zero_iff, IsIdle]
  | staged => rw [shows, counted_eq_nil_iff, Counter.toNat_eq_zero_iff, IsIdle]
  | lines =>
    simp [shows, IsIdle]
  | stash => exact shownIf_eq_nil_iff look _ _ _
  | character c => simp [shows, IsIdle]

theorem shows_of_readsAlike (look : Appearance) (first second : Snapshot) (directive : Directive)
    (alike : directive.ReadsAlike look.color first second) :
    directive.shows look first = directive.shows look second := by
  cases directive with
  | branch =>
    obtain ⟨branch, health⟩ := alike
    rw [shows, shows, branch]
    exact look.paint_congr _ _ _ fun color => congrArg Style.health (health color)
  | remote => exact alike
  | commit =>
    obtain ⟨commit, health⟩ := alike
    rw [shows, shows, commit]
    exact look.paint_congr _ _ _ fun color => congrArg Style.commit (health color)
  | drift =>
    obtain ⟨ahead, behind⟩ := alike
    rw [shows, shows, ahead, behind]
  | untracked =>
    have same : decide (0 < first.untracked) = decide (0 < second.untracked) :=
      decide_eq_decide.mpr alike
    rw [shows, shows, same]
  | unstaged =>
    have same : first.unstaged.total = second.unstaged.total := alike
    rw [shows, shows, same]
  | staged =>
    have same : first.staged.total = second.staged.total := alike
    rw [shows, shows, same]
  | lines =>
    obtain ⟨insertions, deletions⟩ := alike
    rw [shows, shows, insertions, deletions]
  | stash =>
    have same : first.stashed = second.stashed := alike
    rw [shows, shows, same]
  | _ => rfl

theorem readsAlike_withUnread (color : Bool) (snapshot other : Snapshot) (stashed : Bool)
    (directive : Directive) (short : other.shortCommit = snapshot.shortCommit)
    (same : directive = stash → stashed = snapshot.stashed) :
    directive.ReadsAlike color { snapshot.withUnread other with stashed := stashed } snapshot := by
  cases directive with
  | branch => exact ⟨rfl, fun _ => rfl⟩
  | commit => exact ⟨short, fun _ => rfl⟩
  | drift => exact ⟨rfl, rfl⟩
  | untracked => exact Iff.rfl
  | lines => exact ⟨rfl, rfl⟩
  | stash => exact same rfl
  | branchGlyph | systemName | character _ => trivial
  | remote | unstaged | staged => rfl

end Directive

namespace Format

/-- The letters that the scanner meets behind a percent sign, in their order. -/
def Scan.letters : Scan → Text → List Char
  | _, [] => []
  | copy, c :: rest => letters (copy.next c) rest
  | afterPercent, c :: rest => c :: letters copy rest

def letters (template : Text) : List Char := Scan.copy.letters template

def escaped (text : Text) : Text := text.flatMap fun c => if c = '%' then ['%', '%'] else [c]

@[simp] theorem escaped_percent (rest : Text) : escaped ('%' :: rest) = '%' :: '%' :: escaped rest := by
  rw [escaped, List.flatMap_cons, if_pos rfl]
  rfl

@[simp] theorem escaped_other (c : Char) (rest : Text) (other : c ≠ '%') :
    escaped (c :: rest) = c :: escaped rest := by
  rw [escaped, List.flatMap_cons, if_neg other]
  rfl

@[simp] theorem isComplete_cons (c : Char) (rest : Text) (other : c ≠ '%') :
    isComplete (c :: rest) = isComplete rest := by
  rw [Bool.eq_iff_iff, isComplete_iff, isComplete_iff, Scan.after_cons, Scan.next_copy c other]

section Outputs

variable (look : Appearance) (snapshot : Snapshot)

@[simp] theorem expand_cons (c : Char) (rest : Text) (other : c ≠ '%') :
    expand look snapshot (c :: rest) = c :: expand look snapshot rest := by
  rw [expand_eq_output, expand_eq_output, Scan.output, Scan.after_cons,
    Scan.writes_copy look snapshot c other, Scan.next_copy c other]
  rfl

@[simp] theorem isComplete_escaped (text : Text) : isComplete (escaped text) = true := by
  induction text with
  | nil => rfl
  | cons c rest ih =>
    by_cases percent : c = '%'
    · rw [percent, escaped_percent]
      exact ih
    · rw [escaped_other c rest percent, isComplete_cons c _ percent]
      exact ih

@[simp] theorem expand_escaped (text : Text) : expand look snapshot (escaped text) = text := by
  induction text with
  | nil => rfl
  | cons c rest ih =>
    by_cases percent : c = '%'
    · rw [percent, escaped_percent]
      show '%' :: expand look snapshot (escaped rest) = '%' :: rest
      rw [ih]
    · simp [percent, ih]

end Outputs

/-- Percent signs that are doubled stand for themselves, wherever they are and however many there
are side by side. The scanner is back at copying behind them, so a format that follows is read from
its own beginning. -/
theorem render_escaped (look : Appearance) (snapshot : Snapshot) (text : Text) :
    render look snapshot (escaped text) = text.collapse ∧
      isComplete (escaped text) = true ∧
      ∀ template, expand look snapshot (escaped text ++ template) =
        text ++ expand look snapshot template := by
  refine ⟨?_, isComplete_escaped text, ?_⟩
  · simp [render]
  · intro template
    simp [expand_append look snapshot _ _ (isComplete_escaped text)]

example : render {} { branch := "main".toList } (escaped "9% %b%%".toList) = "9% %b%%".toList := by
  decide

/-- Behind a complete format, a directive with nothing to show can be taken out: the texts are the
same before and after their blanks are collapsed, and what follows is read alike. No other directive
can be taken out without a change to what is written. -/
theorem render_append_idle (look : Appearance) (snapshot : Snapshot) (first second : Text)
    (letter : Char) (complete : isComplete first = true) :
    ((Directive.ofLetter letter).IsIdle look.glyphs snapshot →
        render look snapshot (first ++ '%' :: letter :: second) =
          render look snapshot (first ++ second)) ∧
      ((Directive.ofLetter letter).IsIdle look.glyphs snapshot ↔
        expand look snapshot (first ++ '%' :: letter :: second) =
          expand look snapshot (first ++ second)) ∧
      isComplete (first ++ '%' :: letter :: second) = isComplete (first ++ second) := by
  have written : expand look snapshot (first ++ '%' :: letter :: second) =
      expand look snapshot first ++
        ((Directive.ofLetter letter).shows look snapshot ++ expand look snapshot second) :=
    expand_append look snapshot first _ complete
  have without := expand_append look snapshot first second complete
  have unseen : (Directive.ofLetter letter).IsIdle look.glyphs snapshot ↔
      expand look snapshot (first ++ '%' :: letter :: second) =
        expand look snapshot (first ++ second) := by
    rw [written, without, List.append_cancel_left_eq, List.append_left_eq_self,
      Directive.shows_eq_nil_iff]
  refine ⟨?_, unseen, ?_⟩
  · intro idle
    rw [render, render, unseen.mp idle]
  · rw [isComplete_append first _ complete, isComplete_append first second complete]
    rfl

/-- The directive stands between a doubled percent sign and the letter of another directive. -/
theorem render_append_idle_drift :
    let snapshot : Snapshot := { branch := "main".toList, staged := { added := 2 } }
    isComplete "5%%".toList = true ∧ (Directive.ofLetter 'a').IsIdle {} snapshot ∧
      ¬(Directive.ofLetter 's').IsIdle {} snapshot ∧
      render {} snapshot ("5%%".toList ++ '%' :: 'a' :: "b %b".toList) =
        render {} snapshot ("5%%".toList ++ "b %b".toList) ∧
      expand {} snapshot ("5%%".toList ++ '%' :: 's' :: "b %b".toList) ≠
        expand {} snapshot ("5%%".toList ++ "b %b".toList) := by
  intro snapshot
  have complete : isComplete "5%%".toList = true := by decide
  have idle : (Directive.ofLetter 'a').IsIdle {} snapshot := ⟨rfl, rfl⟩
  have busy : ¬(Directive.ofLetter 's').IsIdle {} snapshot := by
    show ¬snapshot.staged.total = 0
    decide
  obtain ⟨vanishes, -, -⟩ :=
    render_append_idle {} snapshot "5%%".toList "b %b".toList 'a' complete
  obtain ⟨-, seen, -⟩ := render_append_idle {} snapshot "5%%".toList "b %b".toList 's' complete
  exact ⟨complete, idle, busy, vanishes idle, fun same => busy (seen.mpr same)⟩

theorem Scan.output_of_readsAlike (look : Appearance) (first second : Snapshot) (scan : Scan)
    (template : Text)
    (alike : ∀ letter ∈ scan.letters template,
      (Directive.ofLetter letter).ReadsAlike look.color first second) :
    scan.output look first template = scan.output look second template := by
  induction template generalizing scan with
  | nil => rfl
  | cons c rest ih =>
    -- Both runs are in the same state, since the scanner moves by the characters of the format.
    cases scan with
    | copy =>
      rw [output, output, ih (copy.next c) alike]
      rfl
    | afterPercent =>
      have here := alike c List.mem_cons_self
      have later := ih copy fun letter member => alike letter (List.mem_cons_of_mem c member)
      show (Directive.ofLetter c).shows look first ++ copy.output look first rest =
        (Directive.ofLetter c).shows look second ++ copy.output look second rest
      rw [Directive.shows_of_readsAlike look first second _ here, later]

theorem Scan.mem_letters_iff (scan : Scan) (template : Text) (letter : Char) :
    letter ∈ scan.letters template ↔
      ∃ front rest, template = front ++ letter :: rest ∧ scan.after front = .afterPercent := by
  induction template generalizing scan with
  | nil => simp [letters]
  | cons c more ih =>
    -- A cut of the format is in front of its first character or goes through the rest of it.
    have cut : (∃ front rest, c :: more = front ++ letter :: rest ∧
        scan.after front = .afterPercent) ↔
          (letter = c ∧ scan = .afterPercent) ∨ letter ∈ (scan.next c).letters more := by
      rw [ih (scan.next c)]
      constructor
      · intro ⟨front, rest, split, ends⟩
        cases front with
        | nil => exact Or.inl ⟨(List.cons.inj split).1.symm, ends⟩
        | cons d front =>
          obtain ⟨rfl, later⟩ := List.cons.inj split
          exact Or.inr ⟨front, rest, later, ends⟩
      · intro reached
        rcases reached with ⟨rfl, ends⟩ | ⟨front, rest, rfl, ends⟩
        · exact ⟨[], more, rfl, ends⟩
        · exact ⟨c :: front, rest, rfl, ends⟩
    rw [cut]
    cases scan with
    | copy => simp [letters]
    | afterPercent => simp [letters, next]

theorem expand_of_readsAlike (look : Appearance) (first second : Snapshot) (template : Text)
    (alike : ∀ letter ∈ letters template,
      (Directive.ofLetter letter).ReadsAlike look.color first second) :
    expand look first template = expand look second template := by
  rw [expand_eq_output, expand_eq_output,
    Scan.output_of_readsAlike look first second .copy template alike]

/-- A format shows of a snapshot what the directives read whose letters the scanner meets behind a
percent sign, and nothing else. So no format shows a directory, what is tracked, what is unmerged or
being merged, or the commit beyond its abbreviation. -/
theorem render_of_readsAlike (look : Appearance) (template : Text) :
    (∀ letter, letter ∈ letters template ↔ ∃ front rest, template = front ++ letter :: rest ∧
        Scan.copy.after front = .afterPercent) ∧
      (∀ first second : Snapshot,
        (∀ letter ∈ letters template,
          (Directive.ofLetter letter).ReadsAlike look.color first second) →
        render look first template = render look second template) ∧
      ∀ snapshot other : Snapshot, other.shortCommit = snapshot.shortCommit →
        render look (snapshot.withUnread other) template = render look snapshot template := by
  have alike : ∀ first second : Snapshot,
      (∀ letter ∈ letters template,
        (Directive.ofLetter letter).ReadsAlike look.color first second) →
      render look first template = render look second template := by
    intro first second reads
    rw [render, render, expand_of_readsAlike look first second template reads]
  refine ⟨Scan.copy.mem_letters_iff template, alike, ?_⟩
  intro snapshot other short
  apply alike
  intro letter _
  exact Directive.readsAlike_withUnread look.color snapshot other snapshot.stashed _ short
    fun _ => rfl

/-- The first percent signs pair up, so `%%b` names no branch. -/
theorem render_of_readsAlike_percents :
    let first : Snapshot :=
      { branch := "main".toList, commit := "0123456789".toList, untracked := 1
        unstaged := { modified := 2 } }
    let second : Snapshot :=
      { branch := "side".toList, commit := "0123456".toList, tracking := "origin/side".toList
        untracked := 7, unmerged := 3, unstaged := { added := 1, deleted := 1 }
        merging := true }
    letters "%%b %c%u%%%m%".toList = ['%', 'c', 'u', '%', 'm'] ∧
      (∀ letter ∈ letters "%%b %c%u%%%m%".toList,
        (Directive.ofLetter letter).ReadsAlike true first second) ∧
      render {} first "%%b %c%u%%%m%".toList = render {} second "%%b %c%u%%%m%".toList ∧
      second.shortCommit = first.shortCommit ∧
      render {} (first.withUnread second) "%b %c".toList = render {} first "%b %c".toList := by
  intro first second
  have named : letters "%%b %c%u%%%m%".toList = ['%', 'c', 'u', '%', 'm'] := by decide
  have dirty : first.health = second.health := by decide
  have short : second.shortCommit = first.shortCommit := by decide
  have alike : ∀ letter ∈ letters "%%b %c%u%%%m%".toList,
      (Directive.ofLetter letter).ReadsAlike true first second := by
    rw [named]
    simp only [List.forall_mem_cons]
    refine ⟨trivial, ⟨short.symm, fun _ => dirty⟩, ?_, trivial, ?_, nofun⟩
    · show 0 < first.untracked ↔ 0 < second.untracked
      decide
    · show first.unstaged.total = second.unstaged.total
      decide
  obtain ⟨-, same, -⟩ := render_of_readsAlike {} "%%b %c%u%%%m%".toList
  obtain ⟨-, -, hidden⟩ := render_of_readsAlike {} "%b %c".toList
  exact ⟨named, alike, same first second alike, short, hidden first second short⟩

end Format

end StatusPrompt
