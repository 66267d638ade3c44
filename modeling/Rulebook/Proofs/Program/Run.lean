import Rulebook.World

/-!
# Carrying out programs that may fail

`Attempt.runIn` carries out a program that may fail. Its laws take a run apart along the program: a
failure ends it, a result is handed to what comes next. Each question to the store is answered by
the store itself unless an outage covers it, and a failed access leaves the world alone.
-/

namespace Rulebook

/-- The same surroundings without outages. -/
def Surroundings.calm (s : Surroundings) : Surroundings :=
  { s with outages := [] }

/-- A platform that grants every access code as a token, whose owner is always the same user. -/
def Platform.ofUser (user : User) : Platform where
  answer
    | .exchangeCode _ code _ => .ok ⟨⟨code.text⟩, none⟩
    | .activeUser _ => .ok user
    | .listProjects _ _ _ => .ok ⟨0, none, []⟩
    | .searchProjects _ _ _ _ => .ok []
    | .projectDetails _ _ => .error (.status 404)
  authorizationUrl _ challenge := challenge.text

/-- Surroundings without outages, with numbered ids and challenges and a platform of one user. -/
def Surroundings.plain (user : User) : Surroundings where
  supply := .startingWith [] "doc" 3
  challenges n := ⟨IdSupply.numberedText "challenge" 3 n⟩
  platform := .ofUser user
  outages := []

namespace World

variable {around : Surroundings} {call : StoreCall} {w : World}

/-- An outage answers in place of the store. -/
theorem answer_of_outage {e : StoreError} (h : Outage.meets? around.outages call = some e) :
    answer around (.store call) w = (refusal e call, w) := by
  simp [answer, h]

/-- Where there is no outage the store itself answers. -/
theorem answer_of_no_outage (h : Outage.meets? around.outages call = none) :
    answer around (.store call) w = answerStore around.supply w call := by
  simp [answer, h]

end World

namespace Attempt

variable {ε δ α β : Type}

/-- A program that may fail, carried out in a world. -/
def runIn (around : Surroundings) (p : Attempt ε α) (w : World) : Except ε α × World :=
  Program.runIn around p.run w

variable (around : Surroundings) (w : World)

@[simp] theorem runIn_pure (x : α) : runIn around (pure x : Attempt ε α) w = (.ok x, w) :=
  rfl

@[simp] theorem runIn_throw (e : ε) : runIn around (throw e : Attempt ε α) w = (.error e, w) :=
  rfl

/-- What comes after a program goes on with its result, or is never begun. -/
theorem runIn_bind (p : Attempt ε α) (f : α → Attempt ε β) :
    runIn around (p >>= f) w =
      match runIn around p w with
      | (.ok x, w') => runIn around (f x) w'
      | (.error e, w') => (.error e, w') := by
  change Program.run (World.answer around) (p.run >>= ExceptT.bindCont f) w = _
  rw [Program.run_bind]
  change _ = match Program.run (World.answer around) p.run w with
    | (.ok x, w') => runIn around (f x) w'
    | (.error e, w') => (.error e, w')
  rcases Program.run (World.answer around) p.run w with ⟨e | x, w'⟩ <;> rfl

/-- A function of the result is applied to it and to nothing else. -/
@[simp] theorem runIn_map (f : α → β) (p : Attempt ε α) :
    runIn around (f <$> p) w = ((runIn around p w).1.map f, (runIn around p w).2) := by
  rw [map_eq_pure_bind, runIn_bind]
  rcases runIn around p w with ⟨e | x, w'⟩ <;> rfl

@[simp] theorem mapError_ok (tell : ε → δ) (x : α) :
    (Except.ok x : Except ε α).mapError tell = .ok x :=
  rfl

@[simp] theorem mapError_error (tell : ε → δ) (e : ε) :
    (Except.error e : Except ε α).mapError tell = .error (tell e) :=
  rfl

/-- What is made of a result changes nothing any more. -/
theorem world_bind_pure (p : Attempt ε α) (f : α → β) :
    ((p >>= fun x => pure (f x)).runIn around w).2 = (p.runIn around w).2 := by
  rw [runIn_bind]
  rcases p.runIn around w with ⟨e | x, w'⟩ <;> rfl

theorem runIn_orFail (p : Attempt ε α) (tell : ε → δ) :
    runIn around (p.orFail tell) w =
      ((runIn around p w).1.mapError tell, (runIn around p w).2) := by
  change Program.run _ (p.run >>= fun r => .done (r.mapError tell)) w = _
  rw [Program.run_bind]
  rfl

theorem runIn_outcome (p : Attempt ε α) :
    runIn around (p.outcome : Attempt δ _) w =
      (.ok (runIn around p w).1, (runIn around p w).2) := by
  change Program.run _ (p.run >>= fun r => .done (Except.ok r)) w = _
  rw [Program.run_bind]
  rfl

/-! ## Questions under outages, and questions to the platform -/

theorem runIn_get (c : Collection) (id : String) :
    runIn around (Attempt.get c id) w =
      (match Outage.meets? around.outages (.get c id) with
        | some e => .error e
        | none => w.store.get c id, w) := by
  change World.answer around (.store (.get c id)) w = _
  cases h : Outage.meets? around.outages (.get c id) with
  | some e => rw [World.answer_of_outage h]; rfl
  | none => rw [World.answer_of_no_outage h]; rfl

theorem runIn_set (c : Collection) (id : String) (fields : Json) :
    runIn around (Attempt.set c id fields) w =
      match Outage.meets? around.outages (.set c id fields) with
      | some e => (.error e, w)
      | none => (.ok (), { w with store := w.store.set c id fields }) := by
  change World.answer around (.store (.set c id fields)) w = _
  cases h : Outage.meets? around.outages (.set c id fields) with
  | some e => rw [World.answer_of_outage h]; rfl
  | none => rw [World.answer_of_no_outage h]; rfl

theorem runIn_list (c : Collection) (filter : Option FieldFilter) :
    runIn around (Attempt.list c filter) w =
      (match Outage.meets? around.outages (.list c filter) with
        | some e => .error e
        | none => .ok (w.store.list c filter), w) := by
  change World.answer around (.store (.list c filter)) w = _
  cases h : Outage.meets? around.outages (.list c filter) with
  | some e => rw [World.answer_of_outage h]; rfl
  | none => rw [World.answer_of_no_outage h]; rfl

@[simp] theorem runIn_exchangeCode (credentials : AppCredentials) (code : AccessCode)
    (challenge : ChallengeId) :
    runIn around (Attempt.exchangeCode credentials code challenge) w =
      (around.platform.answer (.exchangeCode credentials code challenge),
        { w with asked := .exchangeCode credentials code challenge :: w.asked }) :=
  rfl

@[simp] theorem runIn_activeUser (token : BearerToken) :
    runIn around (Attempt.activeUser token) w =
      (around.platform.answer (.activeUser token),
        { w with asked := .activeUser token :: w.asked }) :=
  rfl

@[simp] theorem runIn_freshChallenge :
    runIn around (Attempt.freshChallenge : Attempt ε ChallengeId) w =
      (.ok (around.challenges w.challengesDrawn),
        { w with challengesDrawn := w.challengesDrawn + 1 }) :=
  rfl

/-! ## Questions to the store without outages -/

@[simp] theorem runIn_calm_get (c : Collection) (id : String) :
    runIn around.calm (Attempt.get c id) w = (w.store.get c id, w) :=
  rfl

@[simp] theorem runIn_calm_list (c : Collection) (filter : Option FieldFilter) :
    runIn around.calm (Attempt.list c filter) w = (.ok (w.store.list c filter), w) :=
  rfl

@[simp] theorem runIn_calm_set (c : Collection) (id : String) (fields : Json) :
    runIn around.calm (Attempt.set c id fields) w =
      (.ok (), { w with store := w.store.set c id fields }) :=
  rfl

@[simp] theorem runIn_calm_setAll (c : Collection) (docs : List Document) :
    runIn around.calm (Attempt.setAll c docs) w =
      (.ok (), { w with store := w.store.setAll c docs }) :=
  rfl

/-- A new document gets an id from the supply that was free. -/
theorem runIn_calm_add (c : Collection) (fields : Json) :
    ∃ id next, (∃ n, id = around.supply.candidate n) ∧
      (∀ d ∈ (w.store.shelf c).documents, d.id ≠ id) ∧
      runIn around.calm (Attempt.add c fields) w =
        (.ok id, { w with store := w.store.set c id (fields.withId id), idsTried := next }) := by
  refine ⟨_, _, ⟨_, rfl⟩, fun d hd heq => ?_, rfl⟩
  exact IdSupply.candidate_firstFree around.supply (w.store.shelf c).ids w.idsTried
    (heq ▸ List.mem_map_of_mem hd)

/-- A document that is there can be deleted. -/
theorem runIn_calm_delete_of_some {c : Collection} {id : String} {fields : Json}
    (h : (w.store.shelf c).get? id = some fields) :
    runIn around.calm (Attempt.delete c id) w =
      (.ok (), { w with store := w.store.put c ((w.store.shelf c).erase id) }) := by
  have hdelete : w.store.delete c id = .ok (w.store.put c ((w.store.shelf c).erase id)) := by
    rw [Store.delete, h]
  change World.answerStore around.supply w (.delete c id) = _
  simp only [World.answerStore, hdelete]

/-- A document that is missing cannot be deleted. -/
theorem runIn_calm_delete_of_none {c : Collection} {id : String}
    (h : (w.store.shelf c).get? id = none) :
    runIn around.calm (Attempt.delete c id) w = (.error (.missing c id), w) := by
  have hdelete : w.store.delete c id = .error (.missing c id) := by
    rw [Store.delete, h]
  change World.answerStore around.supply w (.delete c id) = _
  simp only [World.answerStore, hdelete]

end Attempt

end Rulebook
