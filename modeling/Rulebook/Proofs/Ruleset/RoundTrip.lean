import Rulebook.Proofs.Json.Record
import Rulebook.Proofs.Json.RoundTrip
import Rulebook.Proofs.Store.Kind
import Rulebook.Proofs.Time.RoundTrip
import Rulebook.Rule.Kept
import Rulebook.Ruleset.Kept

/-!
# Rules and rulesets read back from their documents

The document a rule or a ruleset is written to is read as the same value but for its times, which
are read as whatever the reader of times makes of them (`RuleOf.decode_write`,
`RulesetOf.decode_write`). So rules and rulesets with instants for times are read back as they were
(`Rule.decode_toJson`, `Ruleset.decode_toJson`), the rules a ruleset carries along included, and
those with moments exactly if all their moments are plain. The text of the document is read like the
document itself if the doubles in the conditions are steady (`RulesetOf.legible_write`).

A new id put into a document is the only difference the reader sees (`Rule.withId_toJson`,
`Ruleset.withId_toJson`). So rules and rulesets are kinds of documents that write what they read
(`Rules.writes`, `Rulesets.writes`).
-/

namespace Rulebook

open Json (Decode Legible LegibleItems Raw decodeWith)

/-! ## Conditions -/

theorem ConditionValue.decode_toJson (v : ConditionValue) :
    decodeWith ConditionValue.read v.toJson = .ok v := by
  cases v <;> rfl

/-- The value of a condition, if it is a double, is the one its digits stand for. -/
def ConditionValue.Steady : ConditionValue → Prop
  | .number (.float x) => Json.Number.Steady (.float x)
  | .null | .bool _ | .number (.int _ _) | .text _ => True

instance : (v : ConditionValue) → Decidable v.Steady
  | .number (.float x) => inferInstanceAs (Decidable (Json.Number.Steady (.float x)))
  | .null | .bool _ | .number (.int _ _) | .text _ => .isTrue trivial

theorem ConditionValue.legible_toJson {v : ConditionValue} {room : Nat} (h : v.Steady) :
    Legible room v.toJson := by
  cases v with
  | null | bool _ | text _ => simp [toJson, Legible]
  | number n =>
    cases n with
    | int n hrange => simpa [toJson, Legible] using Json.Number.steady_int n hrange
    | float x => simpa [toJson, Legible, Steady] using h

/-- A condition is read back from its document. -/
theorem Condition.decode_toJson (c : Condition) : decodeWith Condition.read c.toJson = .ok c := by
  refine Json.Record.decodeWith_read_object (by simp) (by simp) fun r h => ?_
  rw [h.orElse "" (x := .string c.propertyName) (by simp) (Json.decode_text _),
    h.orElse "" (x := .string c.predicate) (by simp) (Json.decode_text _),
    h.orElse .null (x := c.value.toJson) (by simp) c.value.decode_toJson]
  rfl

theorem Condition.legible_toJson {c : Condition} {room : Nat} (h : c.value.Steady) :
    Legible (room + 1) c.toJson := by
  simp [toJson, Legible, Json.LegibleMembers, c.value.legible_toJson h]

/-! ## Rules and rulesets with times of some type -/

theorem Rank.decode_toJson (r : Rank) : decodeWith Rank.read r.toJson = .ok r := by
  simp [decodeWith, Rank.toJson, Json.raw, Rank.read, r.inRange]

theorem Rank.legible_toJson (r : Rank) (room : Nat) : Legible room r.toJson := by
  simpa [toJson, Legible] using Json.Number.steady_int _ _

section Times

variable {τ : Type} {readTime : Raw → Decode τ} {writeTime : τ → Json} {f : τ → τ}

namespace RuleOf

/-- A rule with other times. -/
def mapTimes (f : τ → τ) (r : RuleOf τ) : RuleOf τ :=
  { r with createdAt := f r.createdAt, updatedAt := f r.updatedAt }

/-- The times of a rule have a property. -/
def Times (p : τ → Prop) (r : RuleOf τ) : Prop :=
  p r.createdAt ∧ p r.updatedAt

/-- The doubles in the conditions of a rule are those their digits stand for. -/
def Steady (r : RuleOf τ) : Prop :=
  ∀ c ∈ r.conditions, c.value.Steady

theorem mapTimes_eq_self {r : RuleOf τ} : r.mapTimes f = r ↔ r.Times fun t => f t = t := by
  simp [RuleOf.ext_iff, mapTimes, Times]

/-- A rule is read from its document with its times as they are read. -/
theorem decode_write (h : ∀ t, decodeWith readTime (writeTime t) = .ok (f t)) (r : RuleOf τ) :
    decodeWith (readWith readTime) (r.write writeTime) = .ok (r.mapTimes f) := by
  refine Json.Record.decodeWith_read_object (by simp [fieldNames]) (by simp) fun rec hrec => ?_
  have hconditions : decodeWith (Raw.list Condition.read)
      (.array (r.conditions.map Condition.toJson)) = .ok (r.conditions.map fun c => c) :=
    Json.decodeWith_list _ Condition.decode_toJson
  rw [List.map_id_fun'] at hconditions
  rw [hrec.orElse "" (x := .string r.id) (by simp) (Json.decode_text _),
    hrec.required (x := .string r.name) (by simp) (Json.decode_text _),
    hrec.orElse "" (x := .string r.description) (by simp) (Json.decode_text _),
    hrec.orElse [] (by simp) hconditions,
    hrec.orElse "" (x := .string r.message) (by simp) (Json.decode_text _),
    hrec.orElse Rank.zero (x := r.order.toJson) (by simp) r.order.decode_toJson,
    hrec.required (x := writeTime r.createdAt) (by simp) (h _),
    hrec.required (x := writeTime r.updatedAt) (by simp) (h _)]
  rfl

theorem legible_write {room : Nat} {r : RuleOf τ} (hr : r.Steady)
    (h : ∀ t room, Legible room (writeTime t)) : Legible (room + 3) (r.write writeTime) := by
  have hconditions : LegibleItems (room + 1) (r.conditions.map Condition.toJson) := by
    refine Json.legibleItems_iff.mpr fun x hx => ?_
    obtain ⟨c, hc, rfl⟩ := List.mem_map.mp hx
    exact Condition.legible_toJson (hr c hc)
  simp [write, Legible, Json.LegibleMembers, h, r.order.legible_toJson, hconditions]

end RuleOf

namespace RulesetOf

/-- A ruleset with other times, also those of the rules it carries along. -/
def mapTimes (f : τ → τ) (r : RulesetOf τ) : RulesetOf τ :=
  { r with
    rules := r.rules.map (·.mapTimes f), createdAt := f r.createdAt, updatedAt := f r.updatedAt }

/-- The times of a ruleset and of the rules it carries along have a property. -/
def Times (p : τ → Prop) (r : RulesetOf τ) : Prop :=
  (∀ rule ∈ r.rules, rule.Times p) ∧ p r.createdAt ∧ p r.updatedAt

/-- The doubles in the rules a ruleset carries along are those their digits stand for. -/
def Steady (r : RulesetOf τ) : Prop :=
  ∀ rule ∈ r.rules, rule.Steady

theorem mapTimes_eq_self {r : RulesetOf τ} : r.mapTimes f = r ↔ r.Times fun t => f t = t := by
  have hrules : r.rules.map (·.mapTimes f) = r.rules ↔
      ∀ rule ∈ r.rules, rule.Times fun t => f t = t := by
    simpa [RuleOf.mapTimes_eq_self] using
      List.map_inj_left (l := r.rules) (f := (·.mapTimes f)) (g := fun rule => rule)
  simp only [RulesetOf.ext_iff, mapTimes, Times, hrules, true_and]

/-- A ruleset is read from its document with its times as they are read. -/
theorem decode_write (h : ∀ t, decodeWith readTime (writeTime t) = .ok (f t)) (r : RulesetOf τ) :
    decodeWith (readWith readTime) (r.write writeTime) = .ok (r.mapTimes f) := by
  refine Json.Record.decodeWith_read_object (by simp [fieldNames]) (by simp) fun rec hrec => ?_
  rw [hrec.orElse "" (x := .string r.id) (by simp) (Json.decode_text _),
    hrec.required (x := .string r.name) (by simp) (Json.decode_text _),
    hrec.orElse "" (x := .string r.description) (by simp) (Json.decode_text _),
    hrec.orElse "" (x := .string r.projectId) (by simp) (Json.decode_text _),
    hrec.orElse [] (by simp) (Json.decodeWith_list r.rules (RuleOf.decode_write h)),
    hrec.required (x := writeTime r.createdAt) (by simp) (h _),
    hrec.required (x := writeTime r.updatedAt) (by simp) (h _)]
  rfl

theorem legible_write {room : Nat} {r : RulesetOf τ} (hr : r.Steady)
    (h : ∀ t room, Legible room (writeTime t)) : Legible (room + 5) (r.write writeTime) := by
  have hrules : LegibleItems (room + 3) (r.rules.map (·.write writeTime)) := by
    refine Json.legibleItems_iff.mpr fun x hx => ?_
    obtain ⟨rule, hrule, rfl⟩ := List.mem_map.mp hx
    exact RuleOf.legible_write (hr rule hrule) h
  simp [write, Legible, Json.LegibleMembers, h, hrules]

end RulesetOf

end Times

/-! ## Rules and rulesets with instants -/

namespace Rule

/-- A rule is read back from its document. -/
theorem decode_toJson (r : Rule) : decodeWith Rule.read r.toJson = .ok r :=
  RuleOf.decode_write (f := id) Time.Timestamp.decode_toJson r

/-- An id put into the document of a rule makes it the document of the rule with that id. -/
theorem withId_toJson (r : Rule) (id : String) :
    r.toJson.withId id = toJson { r with id := id } :=
  rfl

end Rule

namespace Ruleset

/-- A ruleset is read back from its document. -/
theorem decode_toJson (r : Ruleset) : decodeWith Ruleset.read r.toJson = .ok r := by
  have hsame : r.mapTimes id = r := RulesetOf.mapTimes_eq_self.mpr ⟨fun _ _ => ⟨rfl, rfl⟩, rfl, rfl⟩
  exact (RulesetOf.decode_write (f := id) Time.Timestamp.decode_toJson r).trans (by rw [hsame])

/-- An id put into the document of a ruleset makes it the document of the ruleset with that id. -/
theorem withId_toJson (r : Ruleset) (id : String) :
    r.toJson.withId id = toJson { r with id := id } :=
  rfl

end Ruleset

/-! ## The two kinds of documents -/

namespace Rulesets

/-- The documents of rulesets are written as they are read. -/
theorem writes : kind.Writes Ruleset.toJson (·.id) where
  read_write := Ruleset.decode_toJson
  write_withId := Ruleset.withId_toJson
  idOf_withId _ _ := rfl
  withId_idOf _ := rfl

variable {now : Time.Timestamp} {id : String} {draft : RulesetDraft}

theorem get_eq : get id = kind.fetch .rulesets malformed id := by
  refine congrArg (Attempt.get .rulesets id >>= ·) (funext fun doc => ?_)
  cases kind.ofDocument? doc <;> rfl

theorem create_eq : create now draft = kind.make .rulesets Ruleset.toJson (fresh now draft) :=
  rfl

theorem update_eq :
    update now id draft =
      kind.rewrite .rulesets malformed Ruleset.toJson (draft.applyTo now) id := by
  rw [update, get_eq]
  rfl

end Rulesets

namespace Rules

/-- The documents of rules are written as they are read. -/
theorem writes : kind.Writes Rule.toJson (·.id) where
  read_write := Rule.decode_toJson
  write_withId := Rule.withId_toJson
  idOf_withId _ _ := rfl
  withId_idOf _ := rfl

variable {now : Time.Timestamp} {rulesetId ruleId : String} {draft : RuleDraft}

theorem get_eq :
    get rulesetId ruleId =
      kind.fetch (.rules rulesetId) (.malformedDocument (.rules rulesetId)) ruleId := by
  refine congrArg (Attempt.get (.rules rulesetId) ruleId >>= ·) (funext fun doc => ?_)
  cases kind.ofDocument? doc <;> rfl

/-- A new rule takes the rank after those that are listed. -/
theorem create_eq :
    create now rulesetId draft = (do
      let existing ← list rulesetId
      kind.make (.rules rulesetId) Rule.toJson
        (fresh now (rankAfter (existing.items.map (·.order))) draft)) :=
  rfl

theorem update_eq :
    update now rulesetId ruleId draft =
      kind.rewrite (.rules rulesetId) (.malformedDocument (.rules rulesetId)) Rule.toJson
        (draft.applyTo now) ruleId := by
  rw [update, get_eq]
  rfl

end Rules

end Rulebook
