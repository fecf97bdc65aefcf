import StatusPrompt.Json.Reader
import StatusPrompt.Proofs.Json.Scanning

/-!
Reading gives back the value of a text. By induction on the grammar every phrase is scanned to some
tokens, and these tokens take the reader from where the phrase begins to where it has ended, with
whatever containers are open around it.
-/

namespace StatusPrompt.Json

def Opens (tokens : List Token) : Prop :=
  ∃ first more, tokens = first :: more ∧ first ≠ .closeArray

/-- What some tokens are to the reader. The items and members of a container are taken to those that
are there already. -/
def Reads : Phrase → List Token → Prop
  | .value value, tokens => Opens tokens ∧ ∀ stack rest,
      readValue stack (tokens ++ rest) = close stack value rest
  | .items items, tokens => Opens tokens ∧ ∀ done stack rest,
      readValue (.array done :: stack) (tokens ++ .closeArray :: rest) =
        close stack (.array (done.reverse ++ items)) rest
  | .members members, tokens => ∃ name more, tokens = .string name :: .colon :: more ∧
      ∀ done stack rest, readValue (.object done name :: stack) (more ++ .closeObject :: rest) =
        close stack (.object (done.reverse ++ members)) rest

namespace Reads

variable {value : Value} {items : List Value} {members : List (Option Text × Value)}
  {name : Option Text} {tokens more : List Token}

theorem token {token : Token} (opens : token ≠ .closeArray)
    (read : ∀ stack rest, readValue stack (token :: rest) = close stack value rest) :
    Reads (.value value) [token] :=
  ⟨⟨token, [], rfl, opens⟩, read⟩

theorem emptyArray : Reads (.value (.array [])) [.openArray, .closeArray] :=
  ⟨⟨_, _, rfl, by decide⟩, fun _ _ => by rw [List.cons_append, List.cons_append, readValue]; rfl⟩

theorem array (read : Reads (.items items) tokens) :
    Reads (.value (.array items)) (.openArray :: (tokens ++ [.closeArray])) := by
  obtain ⟨⟨first, more, rfl, opens⟩, read⟩ := read
  refine ⟨⟨_, _, rfl, by decide⟩, ?_⟩
  intro stack rest
  -- An array that is closed at once is read as the empty one, so the first item has to rule it out.
  have behind : readValue stack (.openArray :: first :: (more ++ .closeArray :: rest)) =
      readValue (.array [] :: stack) (first :: (more ++ .closeArray :: rest)) := by
    cases first with
    | closeArray => exact absurd rfl opens
    | _ => rfl
  have inside := read [] stack rest
  simpa [behind] using inside

theorem emptyObject : Reads (.value (.object [])) [.openObject, .closeObject] :=
  ⟨⟨_, _, rfl, by decide⟩, fun _ _ => by rw [List.cons_append, List.cons_append, readValue]; rfl⟩

theorem object (read : Reads (.members members) tokens) :
    Reads (.value (.object members)) (.openObject :: (tokens ++ [.closeObject])) := by
  obtain ⟨name, more, rfl, read⟩ := read
  refine ⟨⟨_, _, rfl, by decide⟩, ?_⟩
  intro stack rest
  have inside := read [] stack rest
  simpa [readValue] using inside

theorem lastItem (read : Reads (.value value) tokens) :
    Reads (.items [value]) tokens := by
  refine ⟨read.1, ?_⟩
  intro done stack rest
  rw [read.2, close, List.reverse_cons]

theorem item (read : Reads (.value value) tokens) (later : Reads (.items items) more) :
    Reads (.items (value :: items)) (tokens ++ .comma :: more) := by
  obtain ⟨⟨first, others, rfl, opens⟩, read⟩ := read
  refine ⟨⟨first, _, rfl, opens⟩, ?_⟩
  intro done stack rest
  rw [List.append_assoc, read, List.cons_append, close, later.2, List.reverse_cons,
    List.append_assoc, List.singleton_append]

theorem lastMember (read : Reads (.value value) tokens) :
    Reads (.members [(name, value)]) (.string name :: .colon :: tokens) := by
  refine ⟨name, tokens, rfl, ?_⟩
  intro done stack rest
  rw [read.2, close, List.reverse_cons]

theorem member (read : Reads (.value value) tokens)
    (later : Reads (.members members) more) :
    Reads (.members ((name, value) :: members))
      (.string name :: .colon :: (tokens ++ .comma :: more)) := by
  obtain ⟨next, others, rfl, later⟩ := later
  refine ⟨name, _, rfl, ?_⟩
  intro done stack rest
  rw [List.append_assoc, read.2]
  simp only [List.cons_append]
  rw [close, later, List.reverse_cons, List.append_assoc, List.singleton_append]

end Reads

/-- Every phrase of the grammar is scanned to tokens that read as this phrase. -/
theorem Spelling.reads {phrase : Phrase} {text : Text} (spelled : Spelling phrase text) :
    ∃ tokens, Scans text tokens ∧ Reads phrase tokens := by
  have comma : Scan.opening ',' = some (.between, [.comma]) := rfl
  have colon : Scan.opening ':' = some (.between, [.colon]) := rfl
  induction spelled with
  | null => exact ⟨_, Scans.word rfl (by decide), .token (by decide) fun _ _ => by rw [readValue]⟩
  | yes => exact ⟨_, Scans.word rfl (by decide), .token (by decide) fun _ _ => by rw [readValue]⟩
  | no => exact ⟨_, Scans.word rfl (by decide), .token (by decide) fun _ _ => by rw [readValue]⟩
  | number literal number =>
    exact ⟨_, Scans.number number, .token nofun fun _ _ => by rw [readValue]⟩
  | string literal content spelled =>
    have scans := Scans.string spelled Scans.nil
    rw [List.append_nil] at scans
    exact ⟨_, scans, .token nofun fun _ _ => by rw [readValue]⟩
  | emptyArray gap blank =>
    exact ⟨_, .mark rfl (.gap blank (.mark rfl .nil)), .emptyArray⟩
  | array items text _ ih =>
    obtain ⟨tokens, scans, reads⟩ := ih
    have ends : Ends [']'] := Ends.mark [] (by decide)
    exact ⟨_, .mark rfl (scans.append ends (.mark rfl .nil)), reads.array⟩
  | emptyObject gap blank =>
    exact ⟨_, .mark rfl (.gap blank (.mark rfl .nil)), .emptyObject⟩
  | object members text _ ih =>
    obtain ⟨tokens, scans, reads⟩ := ih
    have ends : Ends ['}'] := Ends.mark [] (by decide)
    exact ⟨_, .mark rfl (scans.append ends (.mark rfl .nil)), reads.object⟩
  | lastItem before after text value blank _ ih =>
    obtain ⟨tokens, scans, reads⟩ := ih
    exact ⟨_, .gap blank.1 (scans.trailing blank.2), reads.lastItem⟩
  | item before after text rest value items blank _ _ ih later =>
    obtain ⟨tokens, scans, reads⟩ := ih
    obtain ⟨more, scansRest, readsRest⟩ := later
    have ends : Ends (after ++ ',' :: rest) := Ends.gap blank.2 (Ends.mark rest (by decide))
    exact ⟨_, .gap blank.1 (scans.append ends (.gap blank.2 (.mark comma scansRest))),
      reads.item readsRest⟩
  | lastMember before behind inside after literal text name value blank named _ ih =>
    obtain ⟨tokens, scans, reads⟩ := ih
    have scansValue := Scans.gap blank.2.2.1 (scans.trailing blank.2.2.2)
    have scansName := Scans.string named (.gap blank.2.1 (.mark colon scansValue))
    exact ⟨_, .gap blank.1 scansName, reads.lastMember⟩
  | member before behind inside after literal text rest name value members blank named _ _ ih
      later =>
    obtain ⟨tokens, scans, reads⟩ := ih
    obtain ⟨more, scansRest, readsRest⟩ := later
    have ends : Ends (after ++ ',' :: rest) := Ends.gap blank.2.2.2 (Ends.mark rest (by decide))
    have scansValue := Scans.gap blank.2.2.1
      (scans.append ends (.gap blank.2.2.2 (.mark comma scansRest)))
    have scansName := Scans.string named (.gap blank.2.1 (.mark colon scansValue))
    exact ⟨_, .gap blank.1 scansName, reads.member readsRest⟩

/-- Reading a text of a value gives the value. -/
theorem read?_of_spells (text : Text) (value : Value) (spelled : Spells text value) :
    read? text = some value := by
  obtain ⟨before, body, after, rfl, blank, further, inside⟩ := spelled
  obtain ⟨tokens, scans, reads⟩ := inside.reads
  have ends : Ends [] := nofun
  have scanned := Scans.gap blank (scans.trailing further) [] ends
  have found : readValue [] (tokens ++ []) = some value := reads.2 [] []
  rw [List.append_nil] at scanned found
  rw [read?, tokens?, scanned]
  simpa [Scan.run, Scan.finish] using found

end StatusPrompt.Json
