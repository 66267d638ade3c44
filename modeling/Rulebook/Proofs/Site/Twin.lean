import Rulebook.Proofs.Site.Questions
import Rulebook.Proofs.Store.Shelf

/-!
# Programs that differ in secrets

Two worlds are alike if they differ at most in the kept tokens and in what the platform was asked.
Two programs are twins (`Program.Twin`) if in alike worlds, with platforms that answer alike what
the two of them ask, they come to related results and leave worlds that are alike again. Twins are
closed under sequencing, and a program that asks about rulesets and rules only is its own twin. So
it is enough to look at the few places where a secret or a token is handled.
-/

namespace Rulebook

/-- Two outcomes with the same failure or with related results. -/
inductive Attempt.Same {ε α β : Type} (S : α → β → Prop) : Except ε α → Except ε β → Prop
  | error (e : ε) : Same S (.error e) (.error e)
  | ok {x : α} {y : β} (h : S x y) : Same S (.ok x) (.ok y)

theorem Attempt.Same.refl {ε α : Type} (r : Except ε α) : Same Eq r r := by
  cases r with
  | error e => exact .error e
  | ok x => exact .ok rfl

/-! ## Alike worlds -/

/-- Two token records that differ at most in the token. -/
def UserToken.Alike (r₁ r₂ : UserToken) : Prop :=
  { r₁ with token := r₂.token } = r₂

theorem UserToken.Alike.of_token (t₁ t₂ : String) (owner : UserId)
    (created updated : Time.Timestamp) :
    Alike ⟨t₁, owner, created, updated⟩ ⟨t₂, owner, created, updated⟩ :=
  rfl

theorem UserToken.Alike.createdAt_eq {r₁ r₂ : UserToken} (h : r₁.Alike r₂) :
    r₁.createdAt = r₂.createdAt := by
  rw [← h]

/-- Two bodies that are token records and differ at most in the token. -/
def UserToken.AlikeIn (x y : Json) : Prop :=
  ∃ r₁ r₂ : UserToken, r₁.Alike r₂ ∧ x = r₁.toJson ∧ y = r₂.toJson

/-- Two stores that differ at most in the kept tokens. -/
structure Store.Alike (s₁ s₂ : Store) : Prop where
  shelf : ∀ c, c ≠ .userTokens → s₁.shelf c = s₂.shelf c
  tokens : ∀ id, Option.Rel UserToken.AlikeIn ((s₁.shelf .userTokens).get? id)
    ((s₂.shelf .userTokens).get? id)

/-- Two worlds that differ at most in the kept tokens and in what the platform was asked. -/
structure World.Alike (w₁ w₂ : World) : Prop where
  store : w₁.store.Alike w₂.store
  idsTried : w₁.idsTried = w₂.idsTried
  challengesDrawn : w₁.challengesDrawn = w₂.challengesDrawn

namespace Store.Alike

variable {s₁ s₂ : Store} {c : Collection}

theorem put (h : s₁.Alike s₂) (hc : c ≠ .userTokens) (x : Shelf) :
    (s₁.put c x).Alike (s₂.put c x) where
  shelf d hd := by
    by_cases heq : d = c
    · subst heq
      rw [shelf_put_self, shelf_put_self]
    · rw [shelf_put_ne _ _ heq, shelf_put_ne _ _ heq]
      exact h.shelf d hd
  tokens id := by
    rw [shelf_put_ne _ _ hc.symm, shelf_put_ne _ _ hc.symm]
    exact h.tokens id

/-- A token record kept in both stores. -/
theorem setToken (h : s₁.Alike s₂) {r₁ r₂ : UserToken} (hr : r₁.Alike r₂) (id : String) :
    (s₁.set .userTokens id r₁.toJson).Alike (s₂.set .userTokens id r₂.toJson) where
  shelf c hc := by
    rw [Store.set, Store.set, shelf_put_ne _ _ hc, shelf_put_ne _ _ hc]
    exact h.shelf c hc
  tokens other := by
    rw [shelf_set_self, shelf_set_self, Shelf.get?_insert, Shelf.get?_insert]
    by_cases heq : other = id
    · rw [if_pos heq, if_pos heq]
      exact .some ⟨r₁, r₂, hr, rfl, rfl⟩
    · rw [if_neg heq, if_neg heq]
      exact h.tokens other

end Store.Alike

namespace World.Alike

variable {w₁ w₂ : World} {c : Collection}

/-- The same shelf put into alike worlds. -/
theorem put (h : w₁.Alike w₂) (hc : c ≠ .userTokens) {x y : Shelf} (hxy : x = y) :
    ({ w₁ with store := w₁.store.put c x } : World).Alike
      { w₂ with store := w₂.store.put c y } := by
  subst hxy
  exact ⟨h.store.put hc x, h.idsTried, h.challengesDrawn⟩

/-- Alike worlds answer what is asked about rulesets and rules in one way. -/
theorem answerStore (h : w₁.Alike w₂) (supply : IdSupply) {call : StoreCall}
    (hc : call.collection ≠ .userTokens) :
    (w₁.answerStore supply call).1 = (w₂.answerStore supply call).1 ∧
      (w₁.answerStore supply call).2.Alike (w₂.answerStore supply call).2 := by
  have hshelf := h.store.shelf _ hc
  cases call with
  | get c id =>
    refine ⟨?_, h⟩
    change w₁.store.get c id = w₂.store.get c id
    rw [Store.get, Store.get, show w₁.store.shelf c = w₂.store.shelf c from hshelf]
  | list c filter =>
    refine ⟨?_, h⟩
    change Except.ok (w₁.store.list c filter) = Except.ok (w₂.store.list c filter)
    rw [Store.list, Store.list, show w₁.store.shelf c = w₂.store.shelf c from hshelf]
  | set c id fields => exact ⟨rfl, h.put hc (congrArg (Shelf.insert · id fields) hshelf)⟩
  | setAll c docs => exact ⟨rfl, h.put hc (congrArg (Shelf.insertAll · docs) hshelf)⟩
  | delete c id =>
    simp only [World.answerStore, Store.delete,
      show w₁.store.shelf c = w₂.store.shelf c from hshelf]
    cases (w₂.store.shelf c).get? id with
    | none => exact ⟨rfl, h⟩
    | some fields => exact ⟨rfl, h.put hc rfl⟩
  | add c fields =>
    have hplace : supply.firstFree (w₁.store.shelf c).ids w₁.idsTried =
        supply.firstFree (w₂.store.shelf c).ids w₂.idsTried := by
      rw [show w₁.store.shelf c = w₂.store.shelf c from hshelf, h.idsTried]
    have hput := h.put hc (congrArg (Shelf.insert · (supply.candidate (supply.firstFree
      (w₂.store.shelf c).ids w₂.idsTried)) (fields.withId (supply.candidate (supply.firstFree
      (w₂.store.shelf c).ids w₂.idsTried)))) hshelf)
    simp only [World.answerStore, Store.add, hplace, Store.set]
    exact ⟨trivial, hput.store, rfl, hput.challengesDrawn⟩

end World.Alike

/-! ## What a run asks the platform -/

namespace Program

variable {α β γ δ : Type}

/-- The questions that a run puts to the platform, the latest first. -/
def questions (around : Surroundings) (p : Program α) (w : World) : List PlatformCall :=
  (p.runIn around w).2.asked.take ((p.runIn around w).2.asked.length - w.asked.length)

theorem questions_eq {around : Surroundings} {p : Program α} {w : World} {new : List PlatformCall}
    (h : (p.runIn around w).2.asked = new ++ w.asked) : p.questions around w = new := by
  rw [questions, h]
  simp

/-- The log grows by the questions of the run. -/
theorem asked_runIn (around : Surroundings) (p : Program α) (w : World) :
    (p.runIn around w).2.asked = p.questions around w ++ w.asked := by
  have hanything : p.Only fun _ => True := by
    induction p with
    | done x => exact .done x
    | ask call next ih => exact .ask trivial ih
  have hlogs : p.Logs around w fun _ => True := logs_of_only hanything
  obtain ⟨new, hasked, -⟩ := hlogs
  rw [questions_eq hasked, hasked]

theorem questions_bind (around : Surroundings) (p : Program α) (f : α → Program β) (w : World) :
    (p >>= f).questions around w =
      (f (p.runIn around w).1).questions around (p.runIn around w).2 ++ p.questions around w := by
  refine questions_eq ?_
  rw [runIn_bind, asked_runIn around (f _), asked_runIn around p, List.append_assoc]

end Program

/-! ## Twins -/

/-- Two platforms that answer two questions alike. Where the questions differ at most in the app
secret and in the token they are asked with, the answers are the same, whatever is granted. -/
def Platform.AnswersAlike (p q : Platform) : PlatformCall → PlatformCall → Prop
  | .exchangeCode c k ch, .exchangeCode c' k' ch' => c.appId = c'.appId → k = k' → ch = ch' →
    Attempt.Same (fun _ _ => True) (p.answer (.exchangeCode c k ch))
      (q.answer (.exchangeCode c' k' ch'))
  | .activeUser t, .activeUser t' => p.answer (.activeUser t) = q.answer (.activeUser t')
  | .listProjects t n cursor, .listProjects t' n' cursor' => n = n' → cursor = cursor' →
    p.answer (.listProjects t n cursor) = q.answer (.listProjects t' n' cursor')
  | .searchProjects t text m n, .searchProjects t' text' m' n' => text = text' → m = m' → n = n' →
    p.answer (.searchProjects t text m n) = q.answer (.searchProjects t' text' m' n')
  | .projectDetails t id, .projectDetails t' id' => id = id' →
    p.answer (.projectDetails t id) = q.answer (.projectDetails t' id')
  | _, _ => True

/-- The same surroundings with another platform. -/
def Surroundings.facing (around : Surroundings) (platform : Platform) : Surroundings :=
  { around with platform := platform }

namespace Program

variable {α β γ δ : Type}

/-- Two programs that come to related results and leave alike worlds if they are run in alike worlds
and the platforms answer alike what they ask. -/
def Twin (S : α → β → Prop) (p : Program α) (q : Program β) : Prop :=
  ∀ (around : Surroundings) (platform : Platform) (w₁ w₂ : World), w₁.Alike w₂ →
    (∀ x ∈ p.questions around w₁, ∀ y ∈ q.questions (around.facing platform) w₂,
      around.platform.AnswersAlike platform x y) →
    S (p.runIn around w₁).1 (q.runIn (around.facing platform) w₂).1 ∧
      (p.runIn around w₁).2.Alike (q.runIn (around.facing platform) w₂).2

variable {S : α → β → Prop} {T : γ → δ → Prop} {p : Program α} {q : Program β}

theorem Twin.done {x : α} {y : β} (h : S x y) : Twin S (.done x) (.done y) :=
  fun _ _ _ _ hw _ => ⟨h, hw⟩

/-- One pair of twins after the other. -/
theorem Twin.bind (h : Twin S p q) {f : α → Program γ} {g : β → Program δ}
    (hfg : ∀ x y, S x y → Twin T (f x) (g y)) : Twin T (p >>= f) (q >>= g) := by
  intro around platform w₁ w₂ hw hagree
  rw [questions_bind, questions_bind] at hagree
  obtain ⟨hresult, hafter⟩ := h around platform w₁ w₂ hw fun x hx y hy =>
    hagree x (List.mem_append_right _ hx) y (List.mem_append_right _ hy)
  rw [runIn_bind, runIn_bind]
  exact hfg _ _ hresult around platform _ _ hafter fun x hx y hy =>
    hagree x (List.mem_append_left _ hx) y (List.mem_append_left _ hy)

/-- A question about rulesets or rules has one answer in alike worlds. -/
theorem Twin.kept {call : Call} (h : call.Kept) : Twin Eq (.ask call .done) (.ask call .done) := by
  intro around platform w₁ w₂ hw _
  obtain ⟨c, hc, habout⟩ := h
  change (World.answer around call w₁).1 = (World.answer (around.facing platform) call w₂).1 ∧
    (World.answer around call w₁).2.Alike (World.answer (around.facing platform) call w₂).2
  cases call with
  | platform call => exact habout.elim
  | freshChallenge => exact habout.elim
  | store call =>
    obtain rfl : call.collection = c := habout
    have houtages : Outage.meets? (around.facing platform).outages call =
        Outage.meets? around.outages call := rfl
    cases hout : Outage.meets? around.outages call with
    | some e =>
      rw [World.answer_of_outage hout, World.answer_of_outage (houtages.trans hout)]
      exact ⟨rfl, hw⟩
    | none =>
      rw [World.answer_of_no_outage hout, World.answer_of_no_outage (houtages.trans hout)]
      exact hw.answerStore around.supply hc

theorem Twin.freshChallenge :
    Twin Eq (.ask .freshChallenge .done) (.ask .freshChallenge .done) := by
  intro around platform w₁ w₂ hw _
  refine ⟨congrArg around.challenges hw.challengesDrawn, hw.store, hw.idsTried, ?_⟩
  exact congrArg (· + 1) hw.challengesDrawn

/-- The platforms answer two questions alike, if the runs ask them. -/
theorem Twin.platform {x y : PlatformCall} {S : x.Answer → y.Answer → Prop}
    (h : ∀ p q : Platform, p.AnswersAlike q x y → S (p.answer x) (q.answer y)) :
    Twin S (.ask (.platform x) .done) (.ask (.platform y) .done) := by
  intro around platform w₁ w₂ hw hagree
  have hx : questions around (.ask (.platform x) .done) w₁ = [x] := questions_eq rfl
  have hy : questions (around.facing platform) (.ask (.platform y) .done) w₂ = [y] :=
    questions_eq rfl
  rw [hx, hy] at hagree
  exact ⟨h _ _ (hagree x List.mem_cons_self y List.mem_cons_self), hw.store, hw.idsTried,
    hw.challengesDrawn⟩

/-- A program that asks about rulesets and rules, and for challenges, is its own twin. -/
theorem Twin.of_only {p : Program α} (h : p.Only fun call => call.Kept ∨ call = .freshChallenge) :
    Twin Eq p p := by
  induction h with
  | done x => exact .done rfl
  | @ask call next hcall _ ih =>
    have hone : Twin Eq (.ask call .done) (.ask call .done) := by
      rcases hcall with hkept | rfl
      · exact .kept hkept
      · exact .freshChallenge
    refine hone.bind (f := next) (g := next) fun x y hxy => ?_
    subst hxy
    exact ih x

end Program

namespace Attempt

variable {ε δ α β γ κ : Type}

/-- Two programs that may fail and are twins: they fail alike or come to related results. -/
def Twin (S : α → β → Prop) (p : Attempt ε α) (q : Attempt ε β) : Prop :=
  Program.Twin (Same S) p.run q.run

variable {S : α → β → Prop} {T : γ → κ → Prop} {p : Attempt ε α} {q : Attempt ε β}

theorem Twin.pure {x : α} {y : β} (h : S x y) :
    Twin S (Pure.pure x : Attempt ε α) (Pure.pure y) :=
  .done (.ok h)

theorem Twin.of_only {p : Attempt ε α}
    (h : p.Only fun call => call.Kept ∨ call = .freshChallenge) : Twin Eq p p := by
  intro around platform w₁ w₂ hw hagree
  obtain ⟨hresult, hafter⟩ := Program.Twin.of_only h around platform w₁ w₂ hw hagree
  exact ⟨hresult ▸ Same.refl _, hafter⟩

theorem Twin.of_kept {p : Attempt ε α} (h : p.Only Call.Kept) : Twin Eq p p :=
  .of_only (h.mono fun _ => .inl)

/-- One pair of twins after the other, if there is a result. -/
theorem Twin.bind (h : Twin S p q) {f : α → Attempt ε γ} {g : β → Attempt ε κ}
    (hfg : ∀ x y, S x y → Twin T (f x) (g y)) : Twin T (p >>= f) (q >>= g) := by
  refine Program.Twin.bind h fun r₁ r₂ hr => ?_
  cases hr with
  | error e => exact .done (.error e)
  | ok hxy => exact hfg _ _ hxy

theorem Twin.orFail (h : Twin S p q) (tell : ε → δ) : Twin S (p.orFail tell) (q.orFail tell) := by
  refine Program.Twin.bind h fun r₁ r₂ hr => ?_
  cases hr with
  | error e => exact .done (.error (tell e))
  | ok hxy => exact .done (.ok hxy)

theorem Twin.outcome (h : Twin S p q) :
    Twin (Same S) (p.outcome : Attempt δ _) (q.outcome : Attempt δ _) :=
  Program.Twin.bind h fun _ _ hr => .done (.ok hr)

/-! ## Where a secret or a token is handled -/

theorem twin_exchangeCode {c₁ c₂ : AppCredentials} (h : c₁.appId = c₂.appId) (k : AccessCode)
    (ch : ChallengeId) :
    Twin (fun _ _ => True) (exchangeCode c₁ k ch) (exchangeCode c₂ k ch) :=
  Program.Twin.platform fun _ _ hanswers => hanswers h rfl rfl

theorem twin_activeUser (t₁ t₂ : BearerToken) : Twin Eq (activeUser t₁) (activeUser t₂) :=
  Program.Twin.platform fun p q hanswers => by
    change p.answer (.activeUser t₁) = q.answer (.activeUser t₂) at hanswers
    rw [hanswers]
    exact .refl _

theorem twin_listProjects (t₁ t₂ : BearerToken) (limit : Nat) (cursor : Option String) :
    Twin Eq (listProjects t₁ limit cursor) (listProjects t₂ limit cursor) :=
  Program.Twin.platform fun _ _ hanswers => hanswers rfl rfl ▸ .refl _

theorem twin_searchProjects (t₁ t₂ : BearerToken) (text : String) (m n : Nat) :
    Twin Eq (searchProjects t₁ text m n) (searchProjects t₂ text m n) :=
  Program.Twin.platform fun _ _ hanswers => hanswers rfl rfl rfl ▸ .refl _

theorem twin_projectDetails (t₁ t₂ : BearerToken) (id : String) :
    Twin Eq (projectDetails t₁ id) (projectDetails t₂ id) :=
  Program.Twin.platform fun _ _ hanswers => hanswers rfl ▸ .refl _

/-- Alike worlds keep alike records under one id. -/
theorem twin_getToken (id : String) :
    Twin (fun d₁ d₂ : Document => UserToken.AlikeIn d₁.fields d₂.fields) (get .userTokens id)
      (get .userTokens id) := by
  intro around platform w₁ w₂ hw _
  change Same _ (runIn around (get .userTokens id) w₁).1
      (runIn (around.facing platform) (get .userTokens id) w₂).1 ∧
    (runIn around (get .userTokens id) w₁).2.Alike
      (runIn (around.facing platform) (get .userTokens id) w₂).2
  have houtages : Outage.meets? (around.facing platform).outages (.get .userTokens id) =
      Outage.meets? around.outages (.get .userTokens id) := rfl
  rw [runIn_get, runIn_get, houtages]
  refine ⟨?_, hw⟩
  cases Outage.meets? around.outages (.get .userTokens id) with
  | some e => exact .error e
  | none =>
    have htokens := hw.store.tokens id
    simp only [Store.get]
    generalize (w₁.store.shelf .userTokens).get? id = x at htokens
    generalize (w₂.store.shelf .userTokens).get? id = y at htokens
    cases htokens with
    | none => exact .error _
    | some h => exact .ok h

/-- Alike records are kept in alike worlds. -/
theorem twin_setToken {r₁ r₂ : UserToken} (h : r₁.Alike r₂) (id : String) :
    Twin Eq (set .userTokens id r₁.toJson) (set .userTokens id r₂.toJson) := by
  intro around platform w₁ w₂ hw _
  change Same _ (runIn around (set .userTokens id r₁.toJson) w₁).1
      (runIn (around.facing platform) (set .userTokens id r₂.toJson) w₂).1 ∧
    (runIn around (set .userTokens id r₁.toJson) w₁).2.Alike
      (runIn (around.facing platform) (set .userTokens id r₂.toJson) w₂).2
  have houtages : Outage.meets? (around.facing platform).outages (.set .userTokens id r₂.toJson) =
      Outage.meets? around.outages (.set .userTokens id r₁.toJson) := rfl
  rw [runIn_set, runIn_set, houtages]
  cases Outage.meets? around.outages (.set .userTokens id r₁.toJson) with
  | some e => exact ⟨.error e, hw⟩
  | none => exact ⟨.ok rfl, hw.store.setToken h id, hw.idsTried, hw.challengesDrawn⟩

end Attempt

end Rulebook
