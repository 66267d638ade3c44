import Rulebook.Proofs.Program.Only
import Rulebook.Rule.Kept
import Rulebook.Ruleset.Kept

/-!
# What is asked about rules and rulesets

Every operation on rulesets asks the store about the collection of rulesets and nothing else, and
every operation on the rules of a ruleset asks about the collection of these rules. Listing and
fetching only look.
-/

namespace Rulebook

open Attempt (Only only_one only_pure only_throw)

namespace Rulesets

theorem views_list : list.Only (Call.Views .rulesets) :=
  Only.bind (only_one ⟨rfl, trivial⟩) fun _ => only_pure _

theorem views_listOfProject (projectId : String) :
    (listOfProject projectId).Only (Call.Views .rulesets) :=
  Only.bind (only_one ⟨rfl, trivial⟩) fun _ => only_pure _

theorem views_get (id : String) : (get id).Only (Call.Views .rulesets) := by
  refine Only.bind (only_one ⟨rfl, trivial⟩) fun doc => ?_
  cases kind.ofDocument? doc with
  | none => exact only_throw _
  | some r => exact only_pure _

theorem views_findByHash (hash : String) : (findByHash hash).Only (Call.Views .rulesets) :=
  Only.bind views_list fun _ => only_pure _

theorem only_create (now : Time.Timestamp) (draft : RulesetDraft) :
    (create now draft).Only (Call.About .rulesets) :=
  Only.bind (only_one rfl) fun _ => only_pure _

theorem only_update (now : Time.Timestamp) (id : String) (draft : RulesetDraft) :
    (update now id draft).Only (Call.About .rulesets) :=
  Only.bind (views_get id).about fun _ => Only.bind (only_one rfl) fun _ => only_pure _

theorem only_delete (id : String) : (delete id).Only (Call.About .rulesets) :=
  only_one rfl

end Rulesets

namespace Rules

variable (now : Time.Timestamp) (rulesetId ruleId : String) (draft : RuleDraft)

theorem views_list : (list rulesetId).Only (Call.Views (.rules rulesetId)) :=
  Only.bind (only_one ⟨rfl, trivial⟩) fun _ => only_pure _

theorem views_get : (get rulesetId ruleId).Only (Call.Views (.rules rulesetId)) := by
  refine Only.bind (only_one ⟨rfl, trivial⟩) fun doc => ?_
  cases kind.ofDocument? doc with
  | none => exact only_throw _
  | some r => exact only_pure _

theorem only_create : (create now rulesetId draft).Only (Call.About (.rules rulesetId)) :=
  Only.bind (views_list rulesetId).about fun _ => Only.bind (only_one rfl) fun _ => only_pure _

theorem only_update : (update now rulesetId ruleId draft).Only (Call.About (.rules rulesetId)) :=
  Only.bind (views_get rulesetId ruleId).about fun _ => Only.bind (only_one rfl) fun _ => only_pure _

theorem only_delete : (delete rulesetId ruleId).Only (Call.About (.rules rulesetId)) :=
  only_one rfl

theorem only_reorder (direction : Direction) :
    (reorder now rulesetId ruleId direction).Only (Call.About (.rules rulesetId)) := by
  refine Only.bind (views_list rulesetId).about fun listing => ?_
  dsimp only
  split
  · exact only_throw _
  · split
    · exact only_pure _
    · exact Only.bind (only_one rfl) fun _ => only_pure _

end Rules

end Rulebook
