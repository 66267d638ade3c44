import Rulebook.Json.Reading
import Rulebook.Text.Blank
import Rulebook.Time.Reader

/-!
# Users and their tokens

A user id is not empty and has no blanks around it. A profile holds the id, a name and an email
address and, right after a login, perhaps an avatar. The token granted to a user is kept under the
user's id, with the times it was first stored and last replaced.
-/

namespace Rulebook

open Json (Decode DecodeError Raw Record)

/-- Why a text is no user id. -/
inductive UserIdFault where
  | empty
  | padded
deriving DecidableEq, Repr

namespace UserIdFault

/-- What is said about a text that is no user id. -/
def message : UserIdFault → String
  | .empty => "user id must not be empty"
  | .padded => "user id must not contain surrounding whitespace"

end UserIdFault

/-- The texts that are user ids. -/
def UserId.Valid (s : String) : Prop :=
  s ≠ "" ∧ Text.trim s = s

instance (s : String) : Decidable (UserId.Valid s) := by
  unfold UserId.Valid; infer_instance

/-- A user id. -/
structure UserId where
  text : String
  valid : UserId.Valid text
deriving DecidableEq

namespace UserId

/-- The user id of a text, or what is wrong with it. -/
def of (s : String) : Except UserIdFault UserId :=
  if h : Valid s then .ok ⟨s, h⟩ else if s = "" then .error .empty else .error .padded

/-- A user id read from a tree. -/
def read (tree : Raw) : Decode UserId :=
  match Raw.text tree with
  | .error e => .error e
  | .ok s =>
    match of s with
    | .ok id => .ok id
    | .error .empty => .error .emptyUserId
    | .error .padded => .error .paddedUserId

end UserId

/-- A profile. -/
structure User where
  id : UserId
  name : String
  email : String
  avatar : Option String
deriving DecidableEq

namespace User

/-- The same profile with an avatar; a blank one counts as none. -/
def withAvatar (u : User) (avatar : Option String) : User :=
  { u with avatar := avatar.filter fun s => !Text.saysNothing s }

/-- A profile as a value; an absent avatar is left out. -/
def toJson (u : User) : Json :=
  .object ((match u.avatar with | none => [] | some a => [("avatar", Json.string a)]) ++
    [("email", .string u.email), ("id", .string u.id.text), ("name", .string u.name)])

/-- A profile read from a tree. -/
def read : Raw → Decode User :=
  Record.read ["id", "name", "email", "avatar"] fun r =>
    User.mk <$> r.required "id" UserId.read <*> r.required "name" Raw.text
      <*> r.required "email" Raw.text <*> r.orElse "avatar" none (Raw.optional Raw.text)

end User

namespace Time

/-- An instant read from a tree. -/
def Timestamp.read (tree : Raw) : Decode Timestamp :=
  match Raw.text tree with
  | .error e => .error e
  | .ok s =>
    match Timestamp.parse? s with
    | some t => .ok t
    | none => .error .shape

/-- An instant as a value. -/
def Timestamp.toJson (t : Timestamp) : Json :=
  .string t.render

/-- A moment read from a tree. -/
def Moment.read (tree : Raw) : Decode Moment :=
  (Timestamp.read tree).map Timestamp.moment

/-- A moment as a value. -/
def Moment.toJson (m : Moment) : Json :=
  m.timestamp.toJson

end Time

/-- The token kept for a user, with times of some type. -/
@[ext]
structure UserTokenOf (τ : Type) where
  token : String
  owner : UserId
  createdAt : τ
  updatedAt : τ
deriving DecidableEq

namespace UserTokenOf

variable {τ : Type}

/-- A token record as a value. -/
def write (writeTime : τ → Json) (t : UserTokenOf τ) : Json :=
  .object [("createdAt", writeTime t.createdAt), ("speckleToken", .string t.token),
    ("updatedAt", writeTime t.updatedAt), ("userId", .string t.owner.text)]

/-- A token record read from a tree. -/
def readWith (readTime : Raw → Decode τ) : Raw → Decode (UserTokenOf τ) :=
  Record.read ["speckleToken", "userId", "createdAt", "updatedAt"] fun r =>
    UserTokenOf.mk <$> r.required "speckleToken" Raw.text <*> r.required "userId" UserId.read
      <*> r.required "createdAt" readTime <*> r.required "updatedAt" readTime

end UserTokenOf

/-- The token kept for a user. -/
abbrev UserToken := UserTokenOf Time.Timestamp

namespace UserToken

/-- A token record as a value. -/
def toJson (t : UserToken) : Json :=
  t.write Time.Timestamp.toJson

/-- A token record read from a tree. -/
def read : Raw → Decode UserToken :=
  UserTokenOf.readWith Time.Timestamp.read

end UserToken

end Rulebook
