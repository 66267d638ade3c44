import Rulebook.Proofs.Login.Completion
import Rulebook.Session

/-!
# What a session says about its browser

A session says two things: who is signed in and which challenge is pending. `Standing` holds them,
and `Standing.entries` is the one list of entries that says so. Each operation on a session with
such entries does to them what its name says of the standing. A state that has been saved can be
saved again without its challenge (`Standing.Fits.withoutChallenge`).
-/

namespace Rulebook

/-- Who is signed in, as far as a session knows. -/
structure Identity where
  id : UserId
  name : String
  email : String
deriving DecidableEq

/-- The identity of a profile. -/
def Identity.of (u : User) : Identity :=
  ⟨u.id, u.name, u.email⟩

/-- Who is signed in, and which challenge is pending. -/
structure Standing where
  identity : Option Identity
  pending : Option ChallengeId
deriving DecidableEq

namespace Standing

/-- Nobody is signed in and nothing is pending. -/
def none : Standing :=
  ⟨.none, .none⟩

/-- The entries of a session, in the order of their names. -/
def entries (s : Standing) : List (String × Json) :=
  (match s.pending with
    | .none => []
    | some c => [(Session.challengeKey, c.toJson)]) ++
  match s.identity with
  | .none => []
  | some i => [(Session.userEmailKey, .string i.email), (Session.userIdKey, .string i.id.text),
      (Session.userNameKey, .string i.name)]

/-- Whether the state of a session with these entries is short enough to be saved. -/
def Fits (s : Standing) : Prop :=
  (Text.Utf8.encode (Session.state ⟨s.entries, true, .changed⟩)).length ≤ Session.stateLimit

instance (s : Standing) : Decidable s.Fits := by
  unfold Fits; infer_instance

end Standing

namespace Session

variable {v : Session} {s : Standing}

theorem entries_insert (hs : v.status ≠ .purged) (name : String) (value : Json) :
    (v.insert name value).entries = Json.insertMember name value v.entries := by
  rw [insert, if_neg hs]

theorem status_insert (hs : v.status ≠ .purged) (name : String) (value : Json) :
    (v.insert name value).status ≠ .purged := by
  rw [insert, if_neg hs]
  exact SessionStatus.noConfusion

theorem entries_storeChallenge (h : v.entries = s.entries) (hs : v.status ≠ .purged)
    (c : ChallengeId) :
    (v.storeChallenge c).entries = { s with pending := some c }.entries := by
  obtain ⟨identity, pending⟩ := s
  rw [storeChallenge, entries_insert hs, h]
  cases identity <;> cases pending <;> rfl

theorem entries_takeChallenge (h : v.entries = s.entries) (hs : v.status ≠ .purged) :
    v.takeChallenge.2.entries = { s with pending := none }.entries := by
  obtain ⟨identity, pending⟩ := s
  cases identity <;> cases pending <;>
    simp [takeChallenge, remove, hs, h, Standing.entries, challengeKey, userEmailKey, userIdKey,
      userNameKey]

/-- The challenge taken from a session is the pending one. -/
theorem takeChallenge_fst (h : v.entries = s.entries) (hc : ∀ c ∈ s.pending, c.text ≠ "") :
    v.takeChallenge.1 = s.pending := by
  obtain ⟨identity, pending⟩ := s
  cases pending with
  | none =>
    cases identity <;>
      simp [takeChallenge, text?, value?, h, Standing.entries, Json.memberOf, challengeKey,
        userEmailKey, userIdKey, userNameKey]
  | some c =>
    have hne : c.text ≠ "" := hc c rfl
    simp [takeChallenge, text?, value?, h, Standing.entries, Json.memberOf, ChallengeId.toJson,
      ChallengeId.ofStored, hne]

theorem entries_signIn (h : v.entries = s.entries) (hs : v.status ≠ .purged) (u : User) :
    (v.signIn u).entries = { s with identity := some (.of u) }.entries := by
  obtain ⟨identity, pending⟩ := s
  have hid := status_insert hs userIdKey (.string u.id.text)
  have hname := status_insert hid userNameKey (.string u.name)
  rw [signIn, entries_insert hname, entries_insert hid, entries_insert hs, h]
  cases identity <;> cases pending <;> rfl

end Session

namespace Standing

/-- The state without the pending challenge is shorter. -/
theorem Fits.withoutChallenge {s : Standing} (h : s.Fits) : { s with pending := .none }.Fits := by
  obtain ⟨identity, pending⟩ := s
  cases pending with
  | none => exact h
  | some c =>
    cases identity with
    | none =>
      have hempty : Standing.none.Fits := by decide
      exact hempty
    | some i =>
      refine Nat.le_trans ?_ h
      simp [entries, Session.state, Json.render, Json.renderChars, Json.renderMembers,
        Text.Utf8.encode]
      omega

/-- No text has fewer bytes than characters. -/
theorem length_le_encode (s : String) : s.toList.length ≤ (Text.Utf8.encode s).length := by
  have hchar : ∀ c, 1 ≤ (Text.Utf8.encodeChar c).length := by
    intro c
    unfold Text.Utf8.encodeChar
    dsimp only
    split
    · simp
    split
    · simp
    split <;> simp
  unfold Text.Utf8.encode
  induction s.toList with
  | nil => simp
  | cons c cs ih =>
    have := hchar c
    rw [List.flatMap_cons, List.length_append, List.length_cons]
    omega

/-- A text in quotes is longer than the text. -/
theorem length_le_renderText (s : String) : s.toList.length ≤ (Json.renderText s).length := by
  have hchar : ∀ c, 1 ≤ (Json.escapeChar c).length := by
    intro c
    unfold Json.escapeChar
    grind
  unfold Json.renderText
  induction s.toList with
  | nil => simp
  | cons c cs ih =>
    have := hchar c
    simp only [List.flatMap_cons, List.length_append, List.length_cons, List.length_nil] at ih ⊢
    omega

/-- A session that can be saved names its user in no more characters than the state may have bytes.
-/
theorem Fits.length_name_le {i : Identity} {pending : Option ChallengeId}
    (h : (Standing.mk (some i) pending).Fits) : i.name.toList.length ≤ Session.stateLimit := by
  refine Nat.le_trans ?_ h
  refine Nat.le_trans ?_ (length_le_encode _)
  have hinner := length_le_renderText i.name
  have houter := length_le_renderText (Json.render (.string i.name))
  simp only [Json.render, Json.renderChars, String.toList_ofList] at houter
  cases pending <;>
    simp [entries, Session.state, Json.render, Json.renderChars, Json.renderMembers] <;> omega

end Standing

end Rulebook
