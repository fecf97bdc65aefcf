import StatusPrompt.OnDisk.Tags
import StatusPrompt.OnDisk.WorkTree.State

/-!
The tag that names the commit of the head exactly. The state of the work tree is taken with it, so
that without one there is no answer; nor is there one where any tag of the repository leads to
nothing that is known.
-/

namespace StatusPrompt.OnDisk.Opened

open Reference

def tagOn? (objects : Objects) (references : References) (commit : ObjectName) (name : Text) :
    Option (Option Tag) :=
  match references.resolve name with
  | .found target =>
    (objects.endOf? target).map fun reached =>
      let short := name.drop tagDirectory.length
      if reached ≠ commit then none
      else if target.object = reached then some { name := short }
      else match objects.find target.object with
        | .found (.tag _ _ own seconds) => some ⟨own, .made seconds⟩
        | _ => some ⟨short, .lost⟩
  | _ => none

def tagsOn? (objects : Objects) (references : References) (commit : ObjectName) :
    Option (List Tag) :=
  references.tagNames?.bind fun names =>
    (names.mapM (tagOn? objects references commit)).map List.reduceOption

def exactTag? (vantage : Vantage) (opened : Opened) : Option Text :=
  let references := References.ofOpened vantage.disk opened
  let objects := Objects.ofCommon vantage opened.common
  match references.follow linkLimit Discovery.headName with
  | .found target =>
    if objects.isCommit target.object ∧ opened.hasState vantage objects references then
      ((tagsOn? objects references target.object).bind Tag.best).bind Tag.shown?
    else none
  | _ => none

end StatusPrompt.OnDisk.Opened
