import Rulebook.Proofs.Login.Completion
import Rulebook.Proofs.Rule.Sequence
import Rulebook.Proofs.Ruleset.RoundTrip

/-!
# What is written is read back

Every value that is kept is read from its document as it was, so what a call returns after a write
is what the store gives right afterwards. For a ruleset or a rule made or updated this is the law of
its kind of documents. A move returns all rules it has numbered afresh: the documents that read as
rules are then exactly theirs, whatever else lies on the shelf, and the ranks put them in the order
that was returned (`Rules.readBack_reorder`). The main theorem is `writes_read_back`.

Two things are lost. A moment whose leap second does not follow the last second of a minute has the
text of another moment, and a double whose shortest digits the reader rounds twice may come out of
its text as the one beside it (`strange_leap_second_and_double_lost`).
-/

namespace Rulebook

open Json (Decode Legible Raw decodeText decodeWith)

namespace DocumentKind

variable {α : Type} {kind : DocumentKind α} {write : α → Json} {idOf : α → String}

/-- The ids of the values shown are ids of the documents, in their order. -/
theorem Writes.ids_sublist (h : kind.Writes write idOf) (docs : List Document) :
    ((kind.listing docs).items.map idOf).Sublist (docs.map (·.id)) := by
  change ((docs.filterMap kind.ofDocument?).map idOf).Sublist _
  induction docs with
  | nil => exact List.Sublist.slnil
  | cons d docs ih =>
    cases hread : kind.ofDocument? d with
    | none =>
      rw [List.filterMap_cons_none hread]
      exact ih.cons _
    | some x =>
      rw [List.filterMap_cons_some hread, List.map_cons, List.map_cons,
        h.idOf_of_ofDocument? hread]
      exact ih.cons_cons _

/-- On a shelf the values shown have different ids. -/
theorem Writes.ids_nodup (h : kind.Writes write idOf) (s : Shelf) :
    ((kind.listing s.documents).items.map idOf).Nodup :=
  s.ids_nodup.sublist (h.ids_sublist s.documents)

end DocumentKind

namespace Rules

variable {now : Time.Timestamp} {rulesetId ruleId : String} {direction : Direction}
  {around : Surroundings} {w : World}

/-- The rules a listing shows, in the order of a shelf. -/
def listed (s : Store) (rulesetId : String) : List Rule :=
  (kind.listing (s.list (.rules rulesetId) none)).items

theorem mem_listed {s : Store} {r : Rule} :
    r ∈ listed s rulesetId ↔
      ∃ d ∈ (s.shelf (.rules rulesetId)).documents, kind.ofDocument? d = some r :=
  DocumentKind.mem_items

theorem ids_listed_nodup (s : Store) (rulesetId : String) :
    ((listed s rulesetId).map (·.id)).Nodup :=
  writes.ids_nodup _

/-- After the rules of a listing are written again, in whatever order and with whatever content,
these are the rules a listing shows; documents that are no rules stay what they are. -/
theorem listed_setAll_perm {s : Store} {rules : List Rule}
    (hids : (rules.map (·.id)).Perm ((listed s rulesetId).map (·.id))) :
    (listed (s.setAll (.rules rulesetId) (rules.map document)) rulesetId).Perm rules := by
  have hnodup : (rules.map (·.id)).Nodup := hids.symm.nodup (ids_listed_nodup s rulesetId)
  have hdocs : ((rules.map document).map (·.id)).Nodup := by rwa [map_id_document]
  refine (List.perm_ext_iff_of_nodup (List.Nodup.of_map _ (ids_listed_nodup _ _))
    (List.Nodup.of_map _ hnodup)).mpr fun r => ?_
  rw [mem_listed, Store.setAll, Store.shelf_put_self]
  constructor
  · rintro ⟨d, hd, hread⟩
    rcases (Shelf.mem_insertAll hdocs).mp hd with hd | ⟨hd, hout⟩
    · obtain ⟨r', hr', rfl⟩ := List.mem_map.mp hd
      rw [ofDocument?_document] at hread
      exact Option.some.inj hread ▸ hr'
    · -- a document that reads as a rule was listed, so one of the rules has its id
      have hlisted : r.id ∈ (listed s rulesetId).map (·.id) :=
        List.mem_map_of_mem (mem_listed.mpr ⟨d, hd, hread⟩)
      rw [writes.idOf_of_ofDocument? hread] at hlisted
      rw [map_id_document] at hout
      exact absurd (hids.mem_iff.mpr hlisted) hout
  · intro hr
    exact ⟨document r, (Shelf.mem_insertAll hdocs).mpr (.inl (List.mem_map_of_mem hr)),
      ofDocument?_document r⟩

/-- After the rules of a listing are numbered afresh and written, they stand in the order in which
they were numbered. -/
theorem sort_listed_setAll {s : Store} {moved : List Rule} (now : Time.Timestamp)
    (hperm : moved.Perm (listed s rulesetId))
    (hroom : (listed s rulesetId).length ≤ 0x7fffffffffffffff) :
    Rule.sort (listed (s.setAll (.rules rulesetId) ((renumber now moved).map document)) rulesetId) =
      renumber now moved := by
  have hids : ((renumber now moved).map (·.id)).Perm ((listed s rulesetId).map (·.id)) := by
    rw [ids_renumber]
    exact hperm.map _
  exact Rule.sort_eq_of_perm (listed_setAll_perm hids)
    (ascending_renumber now (hperm.length_eq ▸ hroom))

theorem list_runIn_listed (around : Surroundings) (w : World) (rulesetId : String) :
    ∃ skipped, (list rulesetId).runIn around.calm w =
      (.ok ⟨Rule.sort (listed w.store rulesetId), skipped⟩, w) :=
  ⟨_, rfl⟩

/-- A move leaves everything as it was, and what it then returns are the rules in their order, or it
numbers all of them afresh and writes them. -/
theorem reorder_runIn_cases (around : Surroundings) (w : World) (now : Time.Timestamp)
    (rulesetId ruleId : String) (direction : Direction) :
    (∃ out, (reorder now rulesetId ruleId direction).runIn around.calm w = (out, w) ∧
      ∀ rules, out = .ok rules → rules = Rule.sort (listed w.store rulesetId)) ∨
    ∃ moved, moved.Perm (listed w.store rulesetId) ∧
      (reorder now rulesetId ruleId direction).runIn around.calm w = (.ok (renumber now moved),
        { w with
          store := w.store.setAll (.rules rulesetId) ((renumber now moved).map document) }) := by
  obtain ⟨skipped, hlist⟩ := list_runIn_listed around w rulesetId
  have hsorted : (Rule.sort (listed w.store rulesetId)).Perm (listed w.store rulesetId) :=
    List.mergeSort_perm _ _
  rw [reorder, Attempt.runIn_bind, hlist]
  dsimp only
  cases hfind : (Rule.sort (listed w.store rulesetId)).findIdx? fun r => r.id = ruleId with
  | none => exact .inl ⟨_, rfl, fun rules h => by cases h⟩
  | some i =>
    obtain ⟨hi, -, -⟩ := List.findIdx?_eq_some_iff_getElem.mp hfind
    cases hother : neighbour i (Rule.sort (listed w.store rulesetId)).length direction with
    | none =>
      simp only [hother, Attempt.runIn_pure]
      exact .inl ⟨_, rfl, fun rules h => (Except.ok.inj h).symm⟩
    | some j =>
      simp only [hother, Attempt.runIn_bind, Attempt.runIn_calm_setAll, Attempt.runIn_pure]
      exact .inr ⟨_, (swap_perm hi hother).trans hsorted, rfl⟩

/-- The rules a move returns are those of a listing right afterwards, as long as there are not more
of them than ranks. -/
theorem readBack_reorder (hroom : (listed w.store rulesetId).length ≤ 0x7fffffffffffffff) :
    (reorder now rulesetId ruleId direction).ReadBack around.calm w
      fun _ => Listing.items <$> list rulesetId := by
  intro rules w' h
  obtain ⟨skipped, hlist⟩ := list_runIn_listed around w' rulesetId
  rw [Attempt.runIn_map, hlist]
  rcases reorder_runIn_cases around w now rulesetId ruleId direction with
    ⟨out, hrun, hout⟩ | ⟨moved, hperm, hrun⟩
  · rw [hrun, Prod.mk.injEq] at h
    obtain ⟨hok, rfl⟩ := h
    rw [hout rules hok]
    rfl
  · rw [hrun, Prod.mk.injEq, Except.ok.injEq] at h
    obtain ⟨rfl, rfl⟩ := h
    exact Prod.ext (congrArg Except.ok (sort_listed_setAll now hperm hroom)) rfl

/-- A rule can be moved exactly if it is listed. -/
theorem isOk_reorder :
    ((reorder now rulesetId ruleId direction).runIn around.calm w).1.isOk = true ↔
      ∃ r ∈ listed w.store rulesetId, r.id = ruleId := by
  obtain ⟨skipped, hlist⟩ := list_runIn_listed around w rulesetId
  have hsorted : (Rule.sort (listed w.store rulesetId)).Perm (listed w.store rulesetId) :=
    List.mergeSort_perm _ _
  rw [reorder, Attempt.runIn_bind, hlist]
  dsimp only
  cases hfind : (Rule.sort (listed w.store rulesetId)).findIdx? fun r => r.id = ruleId with
  | none =>
    refine iff_of_false (by simp [Except.isOk, Except.toBool]) ?_
    rintro ⟨r, hr, hid⟩
    simpa [hid] using List.findIdx?_eq_none_iff.mp hfind r (hsorted.mem_iff.mpr hr)
  | some i =>
    obtain ⟨hi, hid, -⟩ := List.findIdx?_eq_some_iff_getElem.mp hfind
    refine iff_of_true ?_ ⟨_, hsorted.mem_iff.mp (List.getElem_mem hi), by simpa using hid⟩
    cases hother : neighbour i (Rule.sort (listed w.store rulesetId)).length direction with
    | none => simp only [hother]; rfl
    | some j => simp only [hother]; rfl

/-- A new rule is read back. -/
theorem readBack_create {draft : RuleDraft} :
    (create now rulesetId draft).ReadBack around.calm w fun r => get rulesetId r.id := by
  intro r w' h
  obtain ⟨skipped, hlist⟩ := list_runIn_listed around w rulesetId
  rw [create_eq, Attempt.runIn_bind, hlist] at h
  simp only [get_eq]
  exact writes.readBack_make _ r w' h

end Rules

/-! ## Everything that is kept -/

/-- A value is read back from a document, and from the text of the document too where the doubles in
it are steady. -/
structure Restored {α : Type} (read : Raw → Decode α) (doc : Json) (x : α) (steady : Prop) :
    Prop where
  document : decodeWith read doc = .ok x
  text : steady → decodeText read doc.render = .ok x

/-- From a document that is legible where its doubles are steady, exactly the value it is read as is
restored. -/
theorem restored_iff {α : Type} {read : Raw → Decode α} {doc : Json} {x y : α} {steady : Prop}
    (hdoc : decodeWith read doc = .ok y) (hlegible : steady → Legible 127 doc) :
    Restored read doc x steady ↔ y = x := by
  constructor
  · exact fun h => Except.ok.inj (hdoc.symm.trans h.document)
  · rintro rfl
    exact ⟨hdoc, fun hsteady => ((hlegible hsteady).readBack.decodeText_render read).trans hdoc⟩

namespace Time

theorem Timestamp.legible_toJson (t : Timestamp) (room : Nat) : Legible room t.toJson := by
  simp [toJson, Legible]

theorem Moment.legible_toJson (m : Moment) (room : Nat) : Legible room m.toJson :=
  m.timestamp.legible_toJson room

end Time

/-- A rule with moments is restored exactly if they are plain. -/
theorem RuleOf.restored_iff_plain (r : RuleOf Time.Moment) :
    Restored (readWith Time.Moment.read) (r.write Time.Moment.toJson) r r.Steady ↔
      r.Times Time.Moment.Plain := by
  refine (restored_iff (decode_write Time.Moment.decode_toJson r) fun h =>
    legible_write h Time.Moment.legible_toJson).trans ?_
  simp only [mapTimes_eq_self, Time.Moment.moment_timestamp]

/-- A ruleset with moments is restored exactly if they are plain. -/
theorem RulesetOf.restored_iff_plain (r : RulesetOf Time.Moment) :
    Restored (readWith Time.Moment.read) (r.write Time.Moment.toJson) r r.Steady ↔
      r.Times Time.Moment.Plain := by
  refine (restored_iff (decode_write Time.Moment.decode_toJson r) fun h =>
    legible_write h Time.Moment.legible_toJson).trans ?_
  simp only [mapTimes_eq_self, Time.Moment.moment_timestamp]

/-- A token record with moments is restored exactly if they are plain. -/
theorem UserTokenOf.restored_iff_plain (t : UserTokenOf Time.Moment) :
    Restored (readWith Time.Moment.read) (t.write Time.Moment.toJson) t True ↔
      t.Times Time.Moment.Plain := by
  refine (restored_iff (decode_write Time.Moment.decode_toJson t) fun _ =>
    t.legible_write fun m => m.legible_toJson _).trans ?_
  simp only [mapTimes_eq_self, Time.Moment.moment_timestamp]

/-- **What is written is read back.** Every value of a condition, condition, rule, ruleset and token
record is read from its document as it was, and from the text of the document too where the doubles
in it are those their digits stand for. The times are instants here; these are the plain moments,
and records with moments of any kind are read back exactly if all of these are plain. So in every
world without outages, whatever its store holds:

* a ruleset or rule that a call has made or updated is what a look-up returns right afterwards; a
  call that makes one succeeds, and one that updates one succeeds where the look-up does;
* the rules that a move returns are the items of the list right afterwards, as long as there are not
  more of them than positive ranks, which no memory holds; a move succeeds exactly for a listed
  rule. -/
theorem writes_read_back (around : Surroundings) (w : World) :
    ((∀ v : ConditionValue, Restored ConditionValue.read v.toJson v v.Steady) ∧
      (∀ c : Condition, Restored Condition.read c.toJson c c.value.Steady) ∧
      (∀ r : Rule, Restored Rule.read r.toJson r r.Steady) ∧
      (∀ r : Ruleset, Restored Ruleset.read r.toJson r r.Steady) ∧
      ∀ t : UserToken, Restored UserToken.read t.toJson t True) ∧
    ((∀ m : Time.Moment, m.Plain ↔ ∃ t : Time.Timestamp, t.moment = m) ∧
      (∀ r : RuleOf Time.Moment,
        Restored (RuleOf.readWith Time.Moment.read) (r.write Time.Moment.toJson) r r.Steady ↔
          r.Times Time.Moment.Plain) ∧
      (∀ r : RulesetOf Time.Moment,
        Restored (RulesetOf.readWith Time.Moment.read) (r.write Time.Moment.toJson) r r.Steady ↔
          r.Times Time.Moment.Plain) ∧
      ∀ t : UserTokenOf Time.Moment,
        Restored (UserTokenOf.readWith Time.Moment.read) (t.write Time.Moment.toJson) t True ↔
          t.Times Time.Moment.Plain) ∧
    (∀ now draft, ((Rulesets.create now draft).runIn around.calm w).1.isOk = true ∧
      (Rulesets.create now draft).ReadBack around.calm w fun r => Rulesets.get r.id) ∧
    (∀ now id draft,
      ((Rulesets.update now id draft).runIn around.calm w).1.isOk =
        ((Rulesets.get id).runIn around.calm w).1.isOk ∧
      (Rulesets.update now id draft).ReadBack around.calm w fun _ => Rulesets.get id) ∧
    (∀ now rulesetId draft, ((Rules.create now rulesetId draft).runIn around.calm w).1.isOk = true ∧
      (Rules.create now rulesetId draft).ReadBack around.calm w fun r => Rules.get rulesetId r.id) ∧
    (∀ now rulesetId ruleId draft,
      ((Rules.update now rulesetId ruleId draft).runIn around.calm w).1.isOk =
        ((Rules.get rulesetId ruleId).runIn around.calm w).1.isOk ∧
      (Rules.update now rulesetId ruleId draft).ReadBack around.calm w fun _ =>
        Rules.get rulesetId ruleId) ∧
    ∀ now rulesetId ruleId direction,
      (Rules.listed w.store rulesetId).length ≤ 0x7fffffffffffffff →
      (((Rules.reorder now rulesetId ruleId direction).runIn around.calm w).1.isOk = true ↔
        ∃ r ∈ Rules.listed w.store rulesetId, r.id = ruleId) ∧
      (Rules.reorder now rulesetId ruleId direction).ReadBack around.calm w fun _ =>
        Listing.items <$> Rules.list rulesetId := by
  have htime := Time.Timestamp.legible_toJson
  refine ⟨⟨fun v => (restored_iff v.decode_toJson v.legible_toJson).mpr rfl,
      fun c => (restored_iff c.decode_toJson c.legible_toJson).mpr rfl,
      fun r => (restored_iff r.decode_toJson fun h => RuleOf.legible_write h htime).mpr rfl,
      fun r => (restored_iff r.decode_toJson fun h => RulesetOf.legible_write h htime).mpr rfl,
      fun t => (restored_iff t.decode_toJson fun _ => t.legible_write (htime · _)).mpr rfl⟩,
    ⟨fun _ => Time.Moment.plain_iff, RuleOf.restored_iff_plain, RulesetOf.restored_iff_plain,
      UserTokenOf.restored_iff_plain⟩, fun now draft => ⟨rfl, ?_⟩,
    fun now id draft => ?_, fun now rulesetId draft => ⟨rfl, Rules.readBack_create⟩,
    fun now rulesetId ruleId draft => ?_, fun now rulesetId ruleId direction hroom =>
      ⟨Rules.isOk_reorder, Rules.readBack_reorder hroom⟩⟩
  · simp only [Rulesets.create_eq, Rulesets.get_eq]
    exact Rulesets.writes.readBack_make _
  · rw [Rulesets.update_eq, Rulesets.get_eq]
    exact ⟨DocumentKind.isOk_rewrite _, Rulesets.writes.readBack_rewrite fun _ => rfl⟩
  · rw [Rules.update_eq, Rules.get_eq]
    exact ⟨DocumentKind.isOk_rewrite _, Rules.writes.readBack_rewrite fun _ => rfl⟩

/-- The second of two rules moved up: the list right afterwards is what the move has returned, in
spite of a document between them that is no rule. A condition value with a fraction is read back
from its text, and a token record from the last leap second from its document. -/
theorem moved_rules_read_back :
    let now : Time.Timestamp := ⟨⟨2024, 6, 1, by decide⟩, 12, 30, 0, 0, by decide⟩
    let around := Surroundings.plain ⟨⟨"u-1", by decide⟩, "Ada", "ada@example.com", none⟩
    let first : Rule := ⟨"x", "first", "", [], "", Rank.clamp 1, now, now⟩
    let second : Rule := ⟨"z", "second", "", [], "", Rank.clamp 2, now, now⟩
    let store := Store.empty.setAll (.rules "a")
      [Rules.document first, ⟨"y", .null⟩, Rules.document second]
    let w : World := { World.start with store := store }
    let share : ConditionValue := .number (.float ⟨false, 5404319552844596, -54, by decide⟩)
    let leap : Time.Moment := ⟨⟨2016, 12, 31, by decide⟩, 23, 59, 59, 1500000000, by decide⟩
    let record : UserTokenOf Time.Moment := ⟨"t", ⟨"u-1", by decide⟩, leap, leap⟩
    ((Rules.listed w.store "a").length ≤ 0x7fffffffffffffff ∧
      ∃ rules w', (Rules.reorder now "a" "z" .up).runIn around.calm w = (.ok rules, w') ∧
        (Listing.items <$> Rules.list "a").runIn around.calm w' = (.ok rules, w')) ∧
    (share.Steady ∧ decodeText ConditionValue.read share.toJson.render = .ok share) ∧
    (record.Times Time.Moment.Plain ∧
      decodeWith (UserTokenOf.readWith Time.Moment.read) (record.write Time.Moment.toJson) =
        .ok record) := by
  intro now around first second store w share leap record
  have hlisted : Rules.listed w.store "a" = [first, second] := by decide +kernel
  have hroom : (Rules.listed w.store "a").length ≤ 0x7fffffffffffffff := by simp [hlisted]
  have hshare : share.Steady := by decide +kernel
  have hplain : record.Times Time.Moment.Plain := ⟨.inr rfl, .inr rfl⟩
  obtain ⟨⟨hvalues, -⟩, ⟨-, -, -, hrecords⟩, -, -, -, -, hmove⟩ := writes_read_back around w
  obtain ⟨hok, hread⟩ := hmove now "a" "z" .up hroom
  have hmoved := hok.mpr ⟨second, by simp [hlisted], rfl⟩
  obtain ⟨rules, w', hrun⟩ : ∃ rules w',
      (Rules.reorder now "a" "z" .up).runIn around.calm w = (.ok rules, w') := by
    rcases h : (Rules.reorder now "a" "z" .up).runIn around.calm w with ⟨e | rules, w'⟩
    · rw [h] at hmoved
      cases hmoved
    · exact ⟨rules, w', rfl⟩
  exact ⟨⟨hroom, rules, w', hrun, hread rules w' hrun⟩, ⟨hshare, (hvalues share).text hshare⟩,
    hplain, ((hrecords record).mpr hplain).document⟩

/-- Four seconds past a minute and a third of a second into a leap second that follows them: the
token record comes back from its document a second later. And the double that is written
9.100000000000001 comes back from its text as 9.1, the one before it. -/
theorem strange_leap_second_and_double_lost :
    let strange : Time.Moment := ⟨⟨2024, 6, 1, by decide⟩, 23, 56, 4, 1333333333, by decide⟩
    let later : Time.Moment := ⟨⟨2024, 6, 1, by decide⟩, 23, 56, 5, 333333333, by decide⟩
    let record : UserTokenOf Time.Moment := ⟨"t", ⟨"u-1", by decide⟩, strange, strange⟩
    let double : ConditionValue := .number (.float ⟨false, 5122844576133940, -49, by decide⟩)
    let before : ConditionValue := .number (.float ⟨false, 5122844576133939, -49, by decide⟩)
    (decodeWith (UserTokenOf.readWith Time.Moment.read) (record.write Time.Moment.toJson) =
      .ok { record with createdAt := later, updatedAt := later } ∧ later ≠ strange) ∧
    double.toJson.render = "9.100000000000001" ∧
    decodeText ConditionValue.read double.toJson.render = .ok before ∧
    before.toJson.render = "9.1" ∧ before ≠ double := by
  decide +kernel

end Rulebook
