import Rulebook.Proofs.Program.Crowd
import Rulebook.Proofs.Ruleset.ReadBack

/-!
# Calls that write, question by question

The calls of the service that change rulesets and rules, each at the time it reads off the clock.
When calls run side by side it matters which questions a call asks, in which order, and what it does
in between: a value is changed by fetching its document and writing it again, a value is made by one
question, a rule is made after a listing, and a move writes what it has seen in a listing.
-/

namespace Rulebook

/-- The programs of a call: the result is the id of the document the call is about. -/
abbrev Reply :=
  Except StoreError String

/-- A change of what is kept: rulesets made, updated and deleted, and the edits of rules. -/
inductive Writing where
  | createRuleset (draft : RulesetDraft)
  | updateRuleset (id : String) (draft : RulesetDraft)
  | deleteRuleset (id : String)
  | editRule (rulesetId : String) (edit : Rules.Edit)

/-- A change at the time its call reads off the clock. -/
structure Writer where
  now : Time.Timestamp
  writing : Writing

namespace Writer

/-- A call of the service; the result is the id of the document it is about. -/
def perform (k : Writer) : Attempt StoreError String :=
  match k.writing with
  | .createRuleset draft => do return (← Rulesets.create k.now draft).id
  | .updateRuleset id draft => do
    let _ ← Rulesets.update k.now id draft
    return id
  | .deleteRuleset id => do
    Rulesets.delete id
    return id
  | .editRule rulesetId e => e.perform k.now rulesetId

/-- A call as a program. -/
def program (k : Writer) : Program Reply :=
  k.perform.run

/-- A call deletes a document. -/
def Deletes (k : Writer) : Prop :=
  match k.writing with
  | .deleteRuleset _ | .editRule _ (.delete _) => True
  | _ => False

end Writer

/-- Calls that all begin in one world. -/
def Crowd.ofWriters {ι : Type} (w : World) (calls : ι → Writer) : Crowd ι Reply :=
  ⟨w, fun i => (calls i).program⟩

/-! ## Questions -/

namespace DocumentKind

variable {α : Type} (kind : DocumentKind α) (c : Collection) (malformed : String → StoreError)
  (write : α → Json) (change : α → α) (id : String)

/-- How a change goes on once it has been told the document: it writes the changed value, whatever
has happened to the document in the meantime. -/
def goOn : Except StoreError Document → Program Reply
  | .error e => .done (.error e)
  | .ok doc =>
    match kind.ofDocument? doc with
    | none => .done (.error (malformed id))
    | some old => .ask (.store (.set c id (write (change old)))) fun a => .done (a.map fun _ => id)

/-- A change asks for the document and then goes on. -/
theorem run_rewrite :
    (do let _ ← kind.rewrite c malformed write change id
        return id : Attempt StoreError String).run =
      .ask (.store (.get c id)) (kind.goOn c malformed write change id) := by
  refine congrArg (Program.ask (.store (.get c id))) (funext fun a => ?_)
  cases a with
  | error e => rfl
  | ok doc =>
    dsimp only [Program.andThen, ExceptT.bindCont, goOn]
    cases kind.ofDocument? doc with
    | none => rfl
    | some old =>
      refine congrArg (Program.ask (.store (.set c id (write (change old))))) (funext fun a => ?_)
      cases a <;> rfl

/-- A new value is made by one question. -/
theorem run_make {kind : DocumentKind α} {write : α → Json} {idOf : α → String}
    (h : kind.Writes write idOf) (c : Collection) (x : α) :
    (do return idOf (← kind.make c write x) : Attempt StoreError String).run =
      .ask (.store (.add c (write x))) .done := by
  refine congrArg (Program.ask (.store (.add c (write x)))) (funext fun a => ?_)
  cases a with
  | error e => rfl
  | ok id => exact congrArg (fun id => Program.done (Except.ok id)) (h.idOf_withId x id)

end DocumentKind

namespace Rules

variable (now : Time.Timestamp) (rulesetId ruleId : String)

/-- How the making of a rule goes on once it has been told the other rules. -/
def makeAfter (draft : RuleDraft) : Except StoreError (List Document) → Program Reply
  | .error e => .done (.error e)
  | .ok docs => .ask (.store (.add (.rules rulesetId) (fresh now
      (rankAfter ((Rule.sort (kind.listing docs).items).map (·.order))) draft).toJson)) .done

theorem run_create (draft : RuleDraft) :
    (do return (← create now rulesetId draft).id : Attempt StoreError String).run =
      .ask (.store (.list (.rules rulesetId) none)) (makeAfter now rulesetId draft) := by
  refine congrArg (Program.ask (.store (.list (.rules rulesetId) none))) (funext fun a => ?_)
  cases a with
  | error e => rfl
  | ok docs => exact DocumentKind.run_make writes (.rules rulesetId) (fresh now _ draft)

/-- How a move goes on once it has been told the rules: it writes them as it was told. -/
def moveAfter (direction : Direction) : Except StoreError (List Document) → Program Reply
  | .error e => .done (.error e)
  | .ok docs =>
    let rules := Rule.sort (kind.listing docs).items
    match rules.findIdx? fun r => r.id = ruleId with
    | none => .done (.error (.missing (.rules rulesetId) ruleId))
    | some position =>
      match neighbour position rules.length direction with
      | none => .done (.ok ruleId)
      | some other =>
        .ask (.store (.setAll (.rules rulesetId)
          ((renumber now (swap rules position other)).map document)))
          fun a => .done (a.map fun _ => ruleId)

theorem run_reorder (direction : Direction) :
    (do
      let _ ← reorder now rulesetId ruleId direction
      return ruleId : Attempt StoreError String).run =
      .ask (.store (.list (.rules rulesetId) none))
        (moveAfter now rulesetId ruleId direction) := by
  refine congrArg (Program.ask (.store (.list (.rules rulesetId) none))) (funext fun a => ?_)
  cases a with
  | error e => rfl
  | ok docs =>
    dsimp only [Program.andThen, ExceptT.bindCont, moveAfter, pure, ExceptT.pure, ExceptT.mk]
    cases (Rule.sort (kind.listing docs).items).findIdx? fun r => r.id = ruleId with
    | none => rfl
    | some position =>
      dsimp only
      cases neighbour position (Rule.sort (kind.listing docs).items).length direction with
      | none => rfl
      | some other =>
        refine congrArg (Program.ask (.store (.setAll _ _))) (funext fun a => ?_)
        cases a <;> rfl

/-- A move is done after the listing, or it writes all rules of the listing, numbered afresh. -/
theorem moveAfter_cases (direction : Direction) (docs : List Document) :
    (∃ r, moveAfter now rulesetId ruleId direction (.ok docs) = .done r) ∨
      ∃ moved, moved.Perm (kind.listing docs).items ∧
        moveAfter now rulesetId ruleId direction (.ok docs) =
          .ask (.store (.setAll (.rules rulesetId) ((renumber now moved).map document)))
            fun a => .done (a.map fun _ => ruleId) := by
  have hsorted : (Rule.sort (kind.listing docs).items).Perm (kind.listing docs).items :=
    List.mergeSort_perm _ _
  dsimp only [moveAfter]
  cases hfind : (Rule.sort (kind.listing docs).items).findIdx? fun r => r.id = ruleId with
  | none => exact .inl ⟨_, rfl⟩
  | some i =>
    obtain ⟨hi, -, -⟩ := List.findIdx?_eq_some_iff_getElem.mp hfind
    dsimp only
    cases hother : neighbour i (Rule.sort (kind.listing docs).items).length direction with
    | none => exact .inl ⟨_, rfl⟩
    | some j => exact .inr ⟨_, (swap_perm hi hother).trans hsorted, rfl⟩

end Rules

namespace Writer

variable (now : Time.Timestamp)

theorem program_updateRuleset (id : String) (draft : RulesetDraft) :
    (mk now (.updateRuleset id draft)).program =
      .ask (.store (.get .rulesets id)) (Rulesets.kind.goOn .rulesets Rulesets.malformed
        Ruleset.toJson (draft.applyTo now) id) := by
  rw [← DocumentKind.run_rewrite, ← Rulesets.update_eq]
  rfl

theorem program_updateRule (rulesetId ruleId : String) (draft : RuleDraft) :
    (mk now (.editRule rulesetId (.update ruleId draft))).program =
      .ask (.store (.get (.rules rulesetId) ruleId)) (Rules.kind.goOn (.rules rulesetId)
        (.malformedDocument (.rules rulesetId)) Rule.toJson (draft.applyTo now) ruleId) := by
  rw [← DocumentKind.run_rewrite, ← Rules.update_eq]
  rfl

end Writer

end Rulebook
