import Mathlib.Data.Finmap
import Mathlib.Data.Finset.Sort
import Rulebook.World
import Rulebook.Proofs.Store.Path
import Rulebook.Proofs.Text.ByteOrder

/-!
# The store is a finite map

`DocumentMap` is a finite map from the path of a collection and an id to a body. It answers the six
questions to the store in the plain way: `MapState.answer` looks up, inserts and erases, and lists
the ids it has in their order. The store gives the same answers, whatever has been asked before
(`store_answers_as_finite_map`). One question is `World.answerStore_of_represents`; a sequence of
them is an induction along it.
-/

namespace Rulebook

/-- Bodies of documents, each under the path of its collection and its id. -/
abbrev DocumentMap :=
  Finmap fun _ : String × String => Json

namespace DocumentMap

variable {m : DocumentMap} {path id : String} {fields : Json} {d : Document}

/-- The document under a path and an id. -/
def get (m : DocumentMap) (path id : String) : Except StoreError Document :=
  match m.lookup (path, id) with
  | some fields => .ok ⟨id, fields⟩
  | none => .error (.notFound path id)

/-- The ids there are under a path. -/
def ids (m : DocumentMap) (path : String) : Finset String :=
  (m.keys.filter fun key => key.1 = path).image Prod.snd

/-- The documents under a path, in the order of their ids. -/
def documents (m : DocumentMap) (path : String) : List Document :=
  (m.ids path).sort.filterMap fun id => (m.lookup (path, id)).map fun fields => ⟨id, fields⟩

/-- The documents under a path that pass a filter, in the order of their ids. -/
def list (m : DocumentMap) (path : String) (filter : Option FieldFilter) : List Document :=
  (m.documents path).filter fun d => filter.all fun f => f.accepts d.fields

/-- The map with several documents inserted under a path, the first one first. -/
def setAll (m : DocumentMap) (path : String) (docs : List Document) : DocumentMap :=
  docs.foldl (fun m d => m.insert (path, d.id) d.fields) m

theorem mem_ids : id ∈ m.ids path ↔ (path, id) ∈ m := by
  simp [ids, Finmap.mem_keys]

theorem mem_documents : d ∈ m.documents path ↔ m.lookup (path, d.id) = some d.fields := by
  simp only [documents, List.mem_filterMap, Finset.mem_sort, mem_ids, Option.map_eq_some_iff]
  constructor
  · rintro ⟨id, -, fields, hlookup, rfl⟩
    exact hlookup
  · intro hlookup
    exact ⟨d.id, Finmap.mem_of_lookup_eq_some hlookup, d.fields, hlookup, rfl⟩

theorem ascending_documents (m : DocumentMap) (path : String) :
    (m.documents path).Pairwise fun a b => a.id < b.id := by
  refine List.Pairwise.filterMap _ ?_ (Finset.sortedLT_sort (m.ids path)).pairwise
  intro a b hab d hd e he
  obtain ⟨_, -, rfl⟩ := Option.map_eq_some_iff.mp hd
  obtain ⟨_, -, rfl⟩ := Option.map_eq_some_iff.mp he
  exact hab

theorem mem_list {filter : Option FieldFilter} :
    d ∈ m.list path filter ↔
      m.lookup (path, d.id) = some d.fields ∧ ∀ f ∈ filter, f.accepts d.fields := by
  rw [list, List.mem_filter, mem_documents, Option.all_eq_true]
  rfl

/-- The documents of a listing ascend in the order of the bytes of their ids. -/
theorem ascending_list (m : DocumentMap) (path : String) (filter : Option FieldFilter) :
    (m.list path filter).Pairwise fun a b => Text.Utf8.encode a.id < Text.Utf8.encode b.id :=
  ((m.ascending_documents path).filter _).imp Text.Utf8.encode_lt_encode.mpr

/-- A supply has a candidate under which there is no document yet. -/
theorem exists_free (m : DocumentMap) (supply : IdSupply) (path : String) (start : Nat) :
    ∃ n, start ≤ n ∧ (path, supply.candidate n) ∉ m := by
  obtain ⟨n, hn, hfree⟩ := supply.fair (m.ids path).toList start
  exact ⟨n, hn, fun hmem => hfree (Finset.mem_toList.mpr (mem_ids.mpr hmem))⟩

/-- The place of the first candidate from `start` on under which there is no document yet. -/
def firstFree (m : DocumentMap) (supply : IdSupply) (path : String) (start : Nat) : Nat :=
  Nat.find (m.exists_free supply path start)

end DocumentMap

/-- A map of documents, and how far a supply of ids has been tried. -/
structure MapState where
  documents : DocumentMap
  idsTried : Nat

namespace MapState

/-- The map that holds nothing, and a supply not yet tried. -/
def start : MapState :=
  ⟨∅, 0⟩

/-- The answer of a map to a question to the store, and the map after it. -/
def answer (supply : IdSupply) : (call : StoreCall) → MapState → call.Answer × MapState
  | .get c id, m => (m.documents.get c.path id, m)
  | .add c fields, m =>
    let place := m.documents.firstFree supply c.path m.idsTried
    let id := supply.candidate place
    (.ok id, ⟨m.documents.insert (c.path, id) (fields.withId id), place + 1⟩)
  | .set c id fields, m => (.ok (), { m with documents := m.documents.insert (c.path, id) fields })
  | .delete c id, m =>
    if (c.path, id) ∈ m.documents then
      (.ok (), { m with documents := m.documents.erase (c.path, id) })
    else (.error (.notFound c.path id), m)
  | .list c filter, m => (.ok (m.documents.list c.path filter), m)
  | .setAll c docs, m => (.ok (), { m with documents := m.documents.setAll c.path docs })

end MapState

namespace StoreCall

/-- Questions put one after the other: every one with its answer, and what the last one leaves. -/
def answers {σ : Type} (answer : (call : StoreCall) → σ → call.Answer × σ) :
    List StoreCall → σ → List ((call : StoreCall) × call.Answer) × σ
  | [], s => ([], s)
  | call :: calls, s =>
    let rest := answers answer calls (answer call s).2
    (⟨call, (answer call s).1⟩ :: rest.1, rest.2)

end StoreCall

namespace IdSupply

variable (supply : IdSupply) (taken : List String)

/-- The search starts at `start` and goes past taken candidates only. -/
theorem firstFree_least (start : Nat) :
    start ≤ supply.firstFree taken start ∧
      ∀ n, start ≤ n → n < supply.firstFree taken start → supply.candidate n ∈ taken := by
  induction start using (supply.follows_wf taken).induction with
  | _ start ih =>
    rw [firstFree_eq]
    split
    · next htaken =>
      obtain ⟨hle, hbelow⟩ := ih (start + 1) ⟨rfl, htaken⟩
      refine ⟨by omega, fun n hn hlt => ?_⟩
      rcases Nat.lt_or_eq_of_le hn with hn | rfl
      · exact hbelow n hn hlt
      · exact htaken
    · exact ⟨Nat.le_refl _, fun n hn hlt => absurd hlt (Nat.not_lt.mpr hn)⟩

/-- Only the candidates up to the one that is found matter to the search. -/
theorem firstFree_congr {supply' : IdSupply} {start : Nat}
    (h : ∀ n ≤ supply.firstFree taken start, supply'.candidate n = supply.candidate n) :
    supply'.firstFree taken start = supply.firstFree taken start := by
  obtain ⟨hle, hbelow⟩ := supply.firstFree_least taken start
  obtain ⟨hle', hbelow'⟩ := supply'.firstFree_least taken start
  rcases Nat.lt_trichotomy (supply'.firstFree taken start) (supply.firstFree taken start) with
    hlt | heq | hgt
  · have htaken := hbelow _ hle' hlt
    rw [← h _ hlt.le] at htaken
    exact absurd htaken (supply'.candidate_firstFree taken start)
  · exact heq
  · have htaken := hbelow' _ hle hgt
    rw [h _ (Nat.le_refl _)] at htaken
    exact absurd htaken (supply.candidate_firstFree taken start)

end IdSupply

/-- How a body is stored under a new id: the `id` field of an object is that id and its other
fields are as they were; another value is stored as it is. -/
def Json.Carries (id : String) (fields stored : Json) : Prop :=
  match fields with
  | .object members => ∃ kept, stored = .object kept ∧
      ∀ key, memberOf key kept = if key = "id" then some (.string id) else memberOf key members
  | other => stored = other

theorem Json.memberOf_insertMember_ne {key other : String} (h : other ≠ key) (value : Json)
    (members : List (String × Json)) :
    memberOf other (insertMember key value members) = memberOf other members := by
  induction members with
  | nil => simp [insertMember, memberOf, Ne.symm h]
  | cons m members ih =>
    obtain ⟨k, v⟩ := m
    unfold insertMember
    split
    · next heq => simp [memberOf, heq, Ne.symm h]
    · split
      · simp [memberOf, Ne.symm h]
      · simp [memberOf, ih]

theorem Json.carries_withId (fields : Json) (id : String) :
    Carries id fields (fields.withId id) := by
  cases fields with
  | object members =>
    refine ⟨insertMember "id" (.string id) members, rfl, fun key => ?_⟩
    split
    · next heq => rw [heq, memberOf_insertMember]
    · next hne => exact memberOf_insertMember_ne hne _ _
  | null => rfl
  | bool value => rfl
  | number value => rfl
  | string value => rfl
  | array items => rfl

namespace World

variable {w : World} {m : MapState} (supply : IdSupply)

/-- The world's documents are those of the map, and the supplies are at one place. -/
structure Represents (w : World) (m : MapState) : Prop where
  body? : ∀ path id, w.store.body? path id = m.documents.lookup (path, id)
  idsTried : w.idsTried = m.idsTried

namespace Represents

theorem get?_shelf (h : w.Represents m) (c : Collection) (id : String) :
    (w.store.shelf c).get? id = m.documents.lookup (c.path, id) := by
  rw [← h.body?, Store.body?_path]

theorem mem_ids (h : w.Represents m) {c : Collection} {id : String} :
    id ∈ (w.store.shelf c).ids ↔ (c.path, id) ∈ m.documents := by
  rw [Finmap.mem_iff, Shelf.ids, List.mem_map]
  constructor
  · rintro ⟨d, hd, rfl⟩
    exact ⟨d.fields, by rw [← h.get?_shelf, Shelf.get?_eq_some_iff]; exact hd⟩
  · rintro ⟨fields, hlookup⟩
    rw [← h.get?_shelf, Shelf.get?_eq_some_iff] at hlookup
    exact ⟨_, hlookup, rfl⟩

/-- A shelf holds the documents under its path, in one order. -/
theorem documents_shelf (h : w.Represents m) (c : Collection) :
    (w.store.shelf c).documents = m.documents.documents c.path := by
  have hshelf : w.store.shelf c = ⟨_, m.documents.ascending_documents c.path⟩ := by
    refine Shelf.ext_get? fun id => Option.ext fun fields => ?_
    rw [h.get?_shelf, Shelf.get?_eq_some_iff, DocumentMap.mem_documents]
  rw [hshelf]

theorem list (h : w.Represents m) (c : Collection) (filter : Option FieldFilter) :
    w.store.list c filter = m.documents.list c.path filter := by
  rw [Store.list, DocumentMap.list, ← h.documents_shelf]
  cases filter with
  | none => simp [Shelf.select]
  | some f => rfl

theorem get (h : w.Represents m) (c : Collection) (id : String) :
    w.store.get c id = m.documents.get c.path id := by
  rw [Store.get, DocumentMap.get, h.get?_shelf]
  rfl

theorem firstFree (h : w.Represents m) (c : Collection) :
    supply.firstFree (w.store.shelf c).ids w.idsTried =
      m.documents.firstFree supply c.path m.idsTried := by
  obtain ⟨hle, hbelow⟩ := supply.firstFree_least (w.store.shelf c).ids w.idsTried
  have hfree := supply.candidate_firstFree (w.store.shelf c).ids w.idsTried
  rw [h.mem_ids] at hfree
  refine ((Nat.find_eq_iff _).mpr ⟨⟨h.idsTried ▸ hle, hfree⟩, ?_⟩).symm
  rintro n hlt ⟨hn, hnot⟩
  exact hnot (h.mem_ids.mp (hbelow n (h.idsTried ▸ hn) hlt))

theorem set (h : w.Represents m) (c : Collection) (id : String) (fields : Json) :
    Represents { w with store := w.store.set c id fields }
      { m with documents := m.documents.insert (c.path, id) fields } := by
  refine ⟨fun path other => ?_, h.idsTried⟩
  rw [Store.body?_set]
  split
  · next heq => rw [heq, Finmap.lookup_insert]
  · next hne => rw [Finmap.lookup_insert_of_ne _ hne, h.body?]

theorem erase (h : w.Represents m) (c : Collection) (id : String) :
    Represents { w with store := w.store.put c ((w.store.shelf c).erase id) }
      { m with documents := m.documents.erase (c.path, id) } := by
  refine ⟨fun path other => ?_, h.idsTried⟩
  rw [Store.body?_put_erase]
  split
  · next heq => rw [heq, Finmap.lookup_erase]
  · next hne => rw [Finmap.lookup_erase_ne hne, h.body?]

theorem setAll (h : w.Represents m) (c : Collection) (docs : List Document) :
    Represents { w with store := w.store.setAll c docs }
      { m with documents := m.documents.setAll c.path docs } := by
  induction docs generalizing w m with
  | nil =>
    rw [Store.setAll_nil]
    exact h
  | cons d docs ih =>
    rw [Store.setAll_cons]
    exact ih (h.set c d.id d.fields)

end Represents

/-- A question is answered as the map answers it, and leaves the store as the map is. -/
theorem answerStore_of_represents (h : w.Represents m) (call : StoreCall) :
    (answerStore supply w call).1 = (MapState.answer supply call m).1 ∧
      (answerStore supply w call).2.Represents (MapState.answer supply call m).2 := by
  cases call with
  | get c id => exact ⟨h.get c id, h⟩
  | list c filter => exact ⟨congrArg Except.ok (h.list c filter), h⟩
  | set c id fields => exact ⟨rfl, h.set c id fields⟩
  | setAll c docs => exact ⟨rfl, h.setAll c docs⟩
  | add c fields =>
    have hplace := h.firstFree supply c
    have hnext := h.set c (supply.candidate (m.documents.firstFree supply c.path m.idsTried))
      (fields.withId (supply.candidate (m.documents.firstFree supply c.path m.idsTried)))
    simp only [answerStore, Store.add, MapState.answer, hplace]
    exact ⟨trivial, hnext.body?, rfl⟩
  | delete c id =>
    simp only [answerStore, Store.delete, MapState.answer]
    cases hget : (w.store.shelf c).get? id with
    | none =>
      have hnot : (c.path, id) ∉ m.documents := by
        rw [← Finmap.lookup_eq_none, ← h.get?_shelf, hget]
      rw [if_neg hnot]
      exact ⟨rfl, h⟩
    | some fields =>
      have hmem : (c.path, id) ∈ m.documents := by
        rw [Finmap.mem_iff]
        exact ⟨fields, by rw [← h.get?_shelf, hget]⟩
      rw [if_pos hmem]
      exact ⟨rfl, h.erase c id⟩

theorem represents_start : start.Represents MapState.start :=
  ⟨fun path id => by rw [start, MapState.start, Store.body?_empty, Finmap.lookup_empty], rfl⟩

/-- Questions one after the other are answered as the map answers them. -/
theorem answers_of_represents (h : w.Represents m) (calls : List StoreCall) :
    (StoreCall.answers (fun call w => answerStore supply w call) calls w).1 =
        (StoreCall.answers (MapState.answer supply) calls m).1 ∧
      (StoreCall.answers (fun call w => answerStore supply w call) calls w).2.Represents
        (StoreCall.answers (MapState.answer supply) calls m).2 := by
  induction calls generalizing w m with
  | nil => exact ⟨rfl, h⟩
  | cons call calls ih =>
    obtain ⟨hanswer, hnext⟩ := answerStore_of_represents supply h call
    obtain ⟨hrest, hend⟩ := ih hnext
    simp only [StoreCall.answers, hanswer, hrest]
    exact ⟨trivial, hend⟩

end World

/-- Whatever sequence of questions is put to the empty store, every answer is the one of a finite
map, and afterwards the store holds what the map holds. In such a map a listing has exactly the
documents of the collection that pass the filter, ascending by the bytes of their ids; a document
is added under the first candidate that is free, with that id in its `id` field; and a collection
without documents is as it was at the start. -/
theorem store_answers_as_finite_map (supply : IdSupply) (calls : List StoreCall) :
    let (fromStore, w) :=
      StoreCall.answers (fun call w => World.answerStore supply w call) calls World.start
    let (fromMap, m) := StoreCall.answers (MapState.answer supply) calls MapState.start
    fromStore = fromMap ∧
    (∀ path id, w.store.body? path id = m.documents.lookup (path, id)) ∧
    (∀ path filter,
      (m.documents.list path filter).Pairwise
          (fun a b => Text.Utf8.encode a.id < Text.Utf8.encode b.id) ∧
        ∀ d, d ∈ m.documents.list path filter ↔
          m.documents.lookup (path, d.id) = some d.fields ∧ ∀ f ∈ filter, f.accepts d.fields) ∧
    (∀ c fields, ∃ n stored,
      (MapState.answer supply (.add c fields) m).1 = .ok (supply.candidate n) ∧
      (MapState.answer supply (.add c fields) m).2 =
        ⟨m.documents.insert (c.path, supply.candidate n) stored, n + 1⟩ ∧
      m.idsTried ≤ n ∧ (c.path, supply.candidate n) ∉ m.documents ∧
      (∀ k, m.idsTried ≤ k → k < n → (c.path, supply.candidate k) ∈ m.documents) ∧
      Json.Carries (supply.candidate n) fields stored) ∧
    ∀ c, w.store.shelf c = Store.empty.shelf c ↔ ∀ id, (c.path, id) ∉ m.documents := by
  have hrun := World.answers_of_represents supply World.represents_start calls
  revert hrun
  generalize StoreCall.answers (fun call w => World.answerStore supply w call) calls World.start
    = atStore
  generalize StoreCall.answers (MapState.answer supply) calls MapState.start = atMap
  obtain ⟨fromStore, w⟩ := atStore
  obtain ⟨fromMap, m⟩ := atMap
  rintro ⟨hanswers, hw⟩
  refine ⟨hanswers, hw.body?, fun path filter => ?_, fun c fields => ?_, fun c => ?_⟩
  · exact ⟨m.documents.ascending_list path filter, fun d => DocumentMap.mem_list⟩
  · have hfree := Nat.find_spec (m.documents.exists_free supply c.path m.idsTried)
    refine ⟨m.documents.firstFree supply c.path m.idsTried, _, rfl, rfl, hfree.1, hfree.2,
      fun k hk hlt => ?_, Json.carries_withId fields _⟩
    have hnot := Nat.find_min (m.documents.exists_free supply c.path m.idsTried) hlt
    exact not_not.mp fun hfree => hnot ⟨hk, hfree⟩
  · constructor
    · intro hempty id
      rw [← Finmap.lookup_eq_none, ← hw.get?_shelf, hempty]
      rfl
    · intro hnone
      refine Shelf.ext_get? fun id => ?_
      rw [hw.get?_shelf, Finmap.lookup_eq_none.mpr (hnone id)]
      rfl

end Rulebook
