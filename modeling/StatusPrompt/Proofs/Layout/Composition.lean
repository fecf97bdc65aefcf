import StatusPrompt.Format
import StatusPrompt.Proofs.Text.Collapse

/-!
Formats put together. A format is read by a scanner with two states, which moves by the characters
of the format alone and writes what the look and the snapshot hold, so nothing that is written is
ever read for directives. A format is complete if the scanner does not end behind a percent sign.
The output of a complete format followed by another is the one output followed by the other; when
blanks are collapsed this holds only where a blank stands between the two.
-/

namespace StatusPrompt.Format

/-- Whether the next character stands for itself or names a directive. -/
inductive Scan where
  | copy
  | afterPercent
  deriving DecidableEq, Repr

namespace Scan

def next : Scan → Char → Scan
  | copy, c => if c = '%' then afterPercent else copy
  | afterPercent, _ => copy

def writes (look : Appearance) (snapshot : Snapshot) : Scan → Char → Text
  | copy, c => if c = '%' then [] else [c]
  | afterPercent, letter => (Directive.ofLetter letter).shows look snapshot

def after (scan : Scan) (format : Text) : Scan := format.foldl next scan

def output (look : Appearance) (snapshot : Snapshot) : Scan → Text → Text
  | _, [] => []
  | scan, c :: rest => scan.writes look snapshot c ++ output look snapshot (scan.next c) rest

/-- What is written at the end of a format. -/
def closing : Scan → Text
  | copy => []
  | afterPercent => ['%']

@[simp] theorem next_copy (c : Char) (other : c ≠ '%') : copy.next c = copy := if_neg other

theorem next_eq_afterPercent_iff (scan : Scan) (c : Char) :
    scan.next c = afterPercent ↔ scan = copy ∧ c = '%' := by
  cases scan with
  | copy =>
    by_cases percent : c = '%'
    · exact ⟨fun _ => ⟨rfl, percent⟩, fun _ => if_pos percent⟩
    · rw [next_copy c percent]
      exact ⟨nofun, fun both => absurd both.2 percent⟩
  | afterPercent => exact ⟨nofun, nofun⟩

@[simp] theorem writes_copy (look : Appearance) (snapshot : Snapshot) (c : Char) (other : c ≠ '%') :
    copy.writes look snapshot c = [c] := if_neg other

@[simp] theorem after_cons (scan : Scan) (c : Char) (rest : Text) :
    scan.after (c :: rest) = (scan.next c).after rest := rfl

@[simp] theorem after_append (scan : Scan) (first second : Text) :
    scan.after (first ++ second) = (scan.after first).after second :=
  List.foldl_append

theorem output_append (look : Appearance) (snapshot : Snapshot) (scan : Scan)
    (first second : Text) :
    scan.output look snapshot (first ++ second) =
      scan.output look snapshot first ++ (scan.after first).output look snapshot second := by
  induction first generalizing scan with
  | nil => rfl
  | cons c rest ih =>
    have step := ih (scan.next c)
    rw [List.cons_append, output, step, output, List.append_assoc]
    rfl

end Scan

theorem ne_percent (c : Char) (rest : Text) (alone : c = '%' → rest = [] → False)
    (directive : ∀ letter more, c = '%' → rest = letter :: more → False) : c ≠ '%' := by
  intro percent
  cases rest with
  | nil => exact alone percent rfl
  | cons letter more => exact directive letter more percent rfl

theorem isComplete_iff (format : Text) :
    isComplete format = true ↔ Scan.copy.after format = .copy := by
  fun_induction isComplete format with
  | case1 => exact ⟨fun _ => rfl, fun _ => rfl⟩
  | case2 => exact ⟨nofun, nofun⟩
  | case3 letter rest ih => exact ih
  | case4 c rest alone directive ih =>
    rwa [Scan.after_cons, Scan.next_copy c (ne_percent c rest alone directive)]

@[simp] theorem isComplete_append (first second : Text) (complete : isComplete first = true) :
    isComplete (first ++ second) = isComplete second := by
  have ends := (isComplete_iff first).mp complete
  rw [Bool.eq_iff_iff, isComplete_iff, isComplete_iff, Scan.after_append, ends]

theorem exists_front (format : Text) (incomplete : isComplete format = false) :
    ∃ front, format = front ++ ['%'] ∧ isComplete front = true := by
  have ends : Scan.copy.after format = .afterPercent := by
    cases reached : Scan.copy.after format with
    | copy => simp [(isComplete_iff format).mpr reached] at incomplete
    | afterPercent => rfl
  rcases List.eq_nil_or_concat format with rfl | ⟨front, last, rfl⟩
  · cases ends
  · rw [List.concat_eq_append] at ends ⊢
    rw [Scan.after_append] at ends
    obtain ⟨before, rfl⟩ := (Scan.next_eq_afterPercent_iff (Scan.copy.after front) last).mp ends
    exact ⟨front, rfl, (isComplete_iff front).mpr before⟩

section Outputs

variable (look : Appearance) (snapshot : Snapshot)

theorem expand_eq_output (format : Text) :
    expand look snapshot format =
      Scan.copy.output look snapshot format ++ (Scan.copy.after format).closing := by
  unfold expand
  fun_induction pieces format with
  | case1 => rfl
  | case2 => rfl
  | case3 letter rest ih =>
    rw [List.flatMap_cons, ih, ← List.append_assoc]
    rfl
  | case4 c rest alone directive ih =>
    have other := ne_percent c rest alone directive
    rw [List.flatMap_cons, ih, Scan.output, Scan.writes_copy look snapshot c other,
      Scan.after_cons, Scan.next_copy c other, List.append_assoc]
    rfl

theorem expand_append (first second : Text) (complete : isComplete first = true) :
    expand look snapshot (first ++ second) =
      expand look snapshot first ++ expand look snapshot second := by
  have ends := (isComplete_iff first).mp complete
  simp only [expand_eq_output, Scan.output_append, Scan.after_append, ends, Scan.closing,
    List.append_nil, List.append_assoc]

theorem render_append_space (first second : Text) (complete : isComplete first = true) :
    render look snapshot (first ++ ' ' :: second) =
      Text.collapse (render look snapshot first ++ ' ' :: render look snapshot second) := by
  have space : expand look snapshot (' ' :: second) = ' ' :: expand look snapshot second := rfl
  unfold render
  rw [expand_append look snapshot first _ complete, space, Text.collapse, Text.collapse,
    Text.words_append_blank ' ' (by decide), Text.words_append_blank ' ' (by decide),
    Text.words_collapse, Text.words_collapse]

end Outputs

/-- The laws of formats under concatenation. The scanner gives every format its output, and a
complete format is one that it ends in `copy` on. In the middle of a format stands what its
directive shows, whatever that is, and what follows is read as if it stood alone. -/
theorem formats_compose (look : Appearance) (snapshot : Snapshot) (first : Text) :
    (expand look snapshot first =
        Scan.copy.output look snapshot first ++ (Scan.copy.after first).closing ∧
      (isComplete first = true ↔ Scan.copy.after first = .copy)) ∧
      (isComplete first = true → ∀ second,
        render look snapshot (first ++ ' ' :: second) =
            Text.collapse (render look snapshot first ++ ' ' :: render look snapshot second) ∧
          isComplete (first ++ second) = isComplete second ∧
          ∀ letter, expand look snapshot (first ++ '%' :: letter :: second) =
            expand look snapshot first ++ (Directive.ofLetter letter).shows look snapshot ++
              expand look snapshot second) ∧
      (isComplete first = false → ∃ front, first = front ++ ['%'] ∧ isComplete front = true ∧
        render look snapshot first = Text.collapse (expand look snapshot front ++ ['%'])) := by
  refine ⟨⟨expand_eq_output look snapshot first, isComplete_iff first⟩, ?_, ?_⟩
  · intro complete second
    refine ⟨render_append_space look snapshot first second complete,
      isComplete_append first second complete, ?_⟩
    intro letter
    rw [expand_append look snapshot first _ complete, List.append_assoc]
    rfl
  · intro incomplete
    obtain ⟨front, rfl, complete⟩ := exists_front first incomplete
    refine ⟨front, rfl, complete, ?_⟩
    rw [render, expand_append look snapshot front _ complete]
    rfl

/-- A branch named like a directive is shown as it is. Percent signs pair up from the left, so the
last of three at the end is left alone. -/
theorem formats_compose_percents :
    let snapshot : Snapshot := { branch := "%c%".toList, untracked := 2 }
    let look : Appearance := { color := false }
    isComplete "%%%b".toList = true ∧
      render look snapshot ("%%%b".toList ++ ' ' :: " %t %u%%".toList) = "%%c% ?%".toList ∧
      render look snapshot "%%%b%%%".toList =
        Text.collapse (expand look snapshot "%%%b%%".toList ++ ['%']) := by
  intro snapshot look
  have complete : isComplete "%%%b".toList = true := by decide
  have odd : isComplete "%%%b%%%".toList = false := by decide
  obtain ⟨-, joins, -⟩ := formats_compose look snapshot "%%%b".toList
  obtain ⟨-, -, ends⟩ := formats_compose look snapshot "%%%b%%%".toList
  obtain ⟨front, cut, -, shown⟩ := ends odd
  have seam : "%%%b%%".toList ++ ['%'] = front ++ ['%'] := cut
  have same : "%%%b%%".toList = front := List.append_cancel_right seam
  refine ⟨complete, ?_, ?_⟩
  · rw [(joins complete " %t %u%%".toList).1]
    decide
  · rwa [same]

end StatusPrompt.Format
