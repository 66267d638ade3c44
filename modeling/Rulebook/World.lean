import Rulebook.Program

/-!
# The world a program runs in

`World` is what changes while programs run: the store, how far the supplies of ids and challenges
have been used, and the questions the platform has been asked. `Surroundings` is what stays the
same for one run: the supplies themselves, the platform and the outages of the store. An outage
makes every access of one kind fail, everywhere or in one collection; of two that apply the one
for the collection counts. An access that fails leaves the store as it was.
-/

namespace Rulebook

/-- The kinds of access to the store. -/
inductive StoreAccess where
  | get
  | add
  | set
  | delete
  | list
  | setAll
deriving DecidableEq, Repr

namespace StoreAccess

/-- The name of a kind of access. -/
def name : StoreAccess → String
  | .get => "get"
  | .add => "add"
  | .set => "set"
  | .delete => "delete"
  | .list => "list"
  | .setAll => "set_all"

/-- Every kind of access. -/
def all : List StoreAccess :=
  [.get, .add, .set, .delete, .list, .setAll]

end StoreAccess

/-- The kind of access a question to the store is. -/
def StoreCall.access : StoreCall → StoreAccess
  | .get _ _ => .get
  | .add _ _ => .add
  | .set _ _ _ => .set
  | .delete _ _ => .delete
  | .list _ _ => .list
  | .setAll _ _ => .setAll

/-- The collection a question to the store is about. -/
def StoreCall.collection : StoreCall → Collection
  | .get c _ | .add c _ | .set c _ _ | .delete c _ | .list c _ | .setAll c _ => c

/-- A failure of every access of one kind, in one collection or in all of them. -/
structure Outage where
  access : StoreAccess
  within : Option Collection
  error : StoreError

namespace Outage

/-- The failure of the first outage of a kind of access within exactly `place`. -/
def lookup (outages : List Outage) (access : StoreAccess) (place : Option Collection) :
    Option StoreError :=
  (outages.find? fun o => o.access = access ∧ o.within = place).map (·.error)

/-- The failure a question to the store meets, if any. -/
def meets? (outages : List Outage) (call : StoreCall) : Option StoreError :=
  (lookup outages call.access (some call.collection)).or (lookup outages call.access none)

end Outage

/-- What stays the same while a program runs. -/
structure Surroundings where
  supply : IdSupply
  challenges : Nat → ChallengeId
  platform : Platform
  outages : List Outage

/-- What changes while programs run. The log of questions to the platform has the latest first. -/
structure World where
  store : Store
  idsTried : Nat
  challengesDrawn : Nat
  asked : List PlatformCall

namespace World

/-- The world before anything has happened. -/
def start : World :=
  ⟨Store.empty, 0, 0, []⟩

/-- A failure that answers any question to the store. -/
def refusal (e : StoreError) : (call : StoreCall) → call.Answer
  | .get _ _ => .error e
  | .add _ _ => .error e
  | .set _ _ _ => .error e
  | .delete _ _ => .error e
  | .list _ _ => .error e
  | .setAll _ _ => .error e

/-- The store's own answer to a question, and the world after it. -/
def answerStore (supply : IdSupply) (w : World) : (call : StoreCall) → call.Answer × World
  | .get c id => (w.store.get c id, w)
  | .add c fields =>
    let (store, id, next) := w.store.add supply w.idsTried c fields
    (.ok id, { w with store := store, idsTried := next })
  | .set c id fields => (.ok (), { w with store := w.store.set c id fields })
  | .delete c id =>
    match w.store.delete c id with
    | .ok store => (.ok (), { w with store := store })
    | .error e => (.error e, w)
  | .list c filter => (.ok (w.store.list c filter), w)
  | .setAll c docs => (.ok (), { w with store := w.store.setAll c docs })

/-- The answer to a question, and the world after it. -/
def answer (around : Surroundings) : (call : Call) → World → call.Answer × World
  | .store call, w =>
    match Outage.meets? around.outages call with
    | some e => (refusal e call, w)
    | none => answerStore around.supply w call
  | .platform call, w => (around.platform.answer call, { w with asked := call :: w.asked })
  | .freshChallenge, w =>
    (around.challenges w.challengesDrawn, { w with challengesDrawn := w.challengesDrawn + 1 })

end World

/-- A program carried out in a world. -/
def Program.runIn {α : Type} (around : Surroundings) (p : Program α) (w : World) : α × World :=
  p.run (World.answer around) w

end Rulebook
