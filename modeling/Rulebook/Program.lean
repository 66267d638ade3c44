import Rulebook.Platform
import Rulebook.Store.Basic

/-!
# Programs over the outside world

A service call is a program: it asks the store, the platform or chance one question after the other
and goes on with the answers. Each question is one atomic step, so several programs can be run side
by side, one step of one at a time. `Program.run` carries out a whole program with a given way to
answer questions. The laws say that running is compatible with sequencing.
-/

namespace Rulebook

/-- A question put to the store. -/
inductive StoreCall where
  | get (c : Collection) (id : String)
  | add (c : Collection) (fields : Json)
  | set (c : Collection) (id : String) (fields : Json)
  | delete (c : Collection) (id : String)
  | list (c : Collection) (filter : Option FieldFilter)
  | setAll (c : Collection) (docs : List Document)

/-- The answer a question to the store has. -/
@[reducible] def StoreCall.Answer : StoreCall → Type
  | .get _ _ => Except StoreError Document
  | .add _ _ => Except StoreError String
  | .list _ _ => Except StoreError (List Document)
  | .set _ _ _ | .delete _ _ | .setAll _ _ => Except StoreError Unit

/-- A question of a program. -/
inductive Call where
  | store (call : StoreCall)
  | platform (call : PlatformCall)
  | freshChallenge

/-- The answer a question has. -/
@[reducible] def Call.Answer : Call → Type
  | .store call => call.Answer
  | .platform call => call.Answer
  | .freshChallenge => ChallengeId

/-- A program: its result, or a question and what comes after each answer. -/
inductive Program (α : Type) : Type where
  | done (result : α)
  | ask (call : Call) (next : call.Answer → Program α)

namespace Program

/-- One program after the other. -/
def andThen {α β : Type} : Program α → (α → Program β) → Program β
  | .done x, f => f x
  | .ask call next, f => .ask call fun a => andThen (next a) f

instance : Monad Program where
  pure := .done
  bind := andThen

@[simp] theorem pure_eq {α : Type} (x : α) : (pure x : Program α) = .done x :=
  rfl

@[simp] theorem done_bind {α β : Type} (x : α) (f : α → Program β) :
    (Program.done x >>= f) = f x :=
  rfl

@[simp] theorem ask_bind {α β : Type} (call : Call) (next : call.Answer → Program α)
    (f : α → Program β) :
    (Program.ask call next >>= f) = .ask call fun a => next a >>= f :=
  rfl

/-- A program followed by nothing is itself. -/
theorem bind_done {α : Type} (p : Program α) : (p >>= Program.done) = p := by
  induction p with
  | done x => rfl
  | ask call next ih => simp [ih]

/-- Sequencing is associative. -/
theorem bind_assoc' {α β γ : Type} (p : Program α) (f : α → Program β) (g : β → Program γ) :
    (p >>= f >>= g) = (p >>= fun x => f x >>= g) := by
  induction p with
  | done x => rfl
  | ask call next ih => simp [ih]

instance : LawfulMonad Program :=
  LawfulMonad.mk' Program (fun p => bind_done p) (fun _ _ => rfl) (fun p f g => bind_assoc' p f g)

/-- A single question. -/
def one (call : Call) : Program call.Answer :=
  .ask call .done

/-- A program carried out from a state, each question answered by `answer`. -/
def run {α σ : Type} (answer : (call : Call) → σ → call.Answer × σ) : Program α → σ → α × σ
  | .done x, s => (x, s)
  | .ask call next, s => run answer (next (answer call s).1) (answer call s).2

@[simp] theorem run_done {α σ : Type} (answer : (call : Call) → σ → call.Answer × σ) (x : α)
    (s : σ) : run answer (.done x) s = (x, s) :=
  rfl

@[simp] theorem run_ask {α σ : Type} (answer : (call : Call) → σ → call.Answer × σ) (call : Call)
    (next : call.Answer → Program α) (s : σ) :
    run answer (.ask call next) s = run answer (next (answer call s).1) (answer call s).2 :=
  rfl

/-- A sequence is carried out one part after the other. -/
theorem run_bind {α β σ : Type} (answer : (call : Call) → σ → call.Answer × σ) (p : Program α)
    (f : α → Program β) (s : σ) :
    run answer (p >>= f) s = run answer (f (run answer p s).1) (run answer p s).2 := by
  induction p generalizing s with
  | done x => rfl
  | ask call next ih => simp [ih]

end Program

/-- A program that may end in a failure. -/
abbrev Attempt (ε α : Type) :=
  ExceptT ε Program α

namespace Attempt

/-- The document under an id. -/
def get (c : Collection) (id : String) : Attempt StoreError Document :=
  ExceptT.mk (.ask (.store (.get c id)) .done)

/-- A new document; the result is its id. -/
def add (c : Collection) (fields : Json) : Attempt StoreError String :=
  ExceptT.mk (.ask (.store (.add c fields)) .done)

/-- A document put under an id. -/
def set (c : Collection) (id : String) (fields : Json) : Attempt StoreError Unit :=
  ExceptT.mk (.ask (.store (.set c id fields)) .done)

/-- A document removed. -/
def delete (c : Collection) (id : String) : Attempt StoreError Unit :=
  ExceptT.mk (.ask (.store (.delete c id)) .done)

/-- The documents of a collection that pass a filter. -/
def list (c : Collection) (filter : Option FieldFilter) : Attempt StoreError (List Document) :=
  ExceptT.mk (.ask (.store (.list c filter)) .done)

/-- Several documents put in place at once. -/
def setAll (c : Collection) (docs : List Document) : Attempt StoreError Unit :=
  ExceptT.mk (.ask (.store (.setAll c docs)) .done)

/-- The token granted for an access code. -/
def exchangeCode (credentials : AppCredentials) (code : AccessCode) (challenge : ChallengeId) :
    Attempt IdentityError TokenGrant :=
  ExceptT.mk (.ask (.platform (.exchangeCode credentials code challenge)) .done)

/-- The profile of a token's owner. -/
def activeUser (token : BearerToken) : Attempt IdentityError User :=
  ExceptT.mk (.ask (.platform (.activeUser token)) .done)

/-- A page of the projects of a token's owner. -/
def listProjects (token : BearerToken) (limit : Nat) (cursor : Option String) :
    Attempt CatalogueError ProjectPage :=
  ExceptT.mk (.ask (.platform (.listProjects token limit cursor)) .done)

/-- The projects that match a search. -/
def searchProjects (token : BearerToken) (query : String) (modelsLimit versionsLimit : Nat) :
    Attempt CatalogueError (List Project) :=
  ExceptT.mk (.ask (.platform (.searchProjects token query modelsLimit versionsLimit)) .done)

/-- A project with its models. -/
def projectDetails (token : BearerToken) (projectId : String) : Attempt CatalogueError Project :=
  ExceptT.mk (.ask (.platform (.projectDetails token projectId)) .done)

/-- A challenge nobody has seen. -/
def freshChallenge {ε : Type} : Attempt ε ChallengeId :=
  ExceptT.mk (.ask .freshChallenge fun c => .done (.ok c))

/-- The same program with its failures told differently. -/
def orFail {ε δ α : Type} (p : Attempt ε α) (tell : ε → δ) : Attempt δ α :=
  ExceptT.mk (p.run >>= fun r => .done (r.mapError tell))

/-- The outcome of a program as its result. -/
def outcome {ε δ α : Type} (p : Attempt ε α) : Attempt δ (Except ε α) :=
  ExceptT.mk (p.run >>= fun r => .done (.ok r))

end Attempt

end Rulebook
