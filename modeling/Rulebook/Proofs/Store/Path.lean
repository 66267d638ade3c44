import Rulebook.Proofs.Store.Shelf

/-!
# Documents by path and id

A collection is addressed by its path, and a ruleset id may be any text: it may hold slashes or look
like a path itself. Still `Collection.ofPath?` reads every path back, so different collections have
different paths. A document is therefore known by two texts, the path of its collection and its id;
`Store.body?` looks it up by them, and each write is described by what such look-ups find after it.
-/

namespace Rulebook

namespace Collection

theorem between?_append (first middle last : List Char) :
    between? first last (first ++ (middle ++ last)) = some middle := by
  simp [between?]

theorem eq_append_of_between? {first middle last cs : List Char}
    (h : between? first last cs = some middle) : cs = first ++ (middle ++ last) := by
  unfold between? at h
  split at h
  · next hfirst =>
    dsimp only at h
    split at h
    · next hlast =>
      obtain ⟨rest, rfl⟩ := List.isPrefixOf_iff_prefix.mp hfirst
      rw [List.drop_left] at h hlast
      obtain ⟨mid, rfl⟩ := List.isSuffixOf_iff_suffix.mp hlast
      rw [List.length_append, Nat.add_sub_cancel, List.take_left, Option.some.injEq] at h
      rw [h]
    · exact absurd h (by simp)
  · exact absurd h (by simp)

/-- A path of rules is longer than the two other paths. -/
theorem length_path_rules (id : String) : (rules id).path.length = id.length + 15 := by
  have hfirst : "rulesets/".length = 9 := by decide
  have hlast : "/rules".length = 6 := by decide
  rw [path, String.length_append, String.length_append, hfirst, hlast]
  omega

/-- Every path is read back. -/
@[simp] theorem ofPath?_path (c : Collection) : ofPath? c.path = some c := by
  cases c with
  | rulesets => rfl
  | userTokens => rfl
  | rules id =>
    have hlen := length_path_rules id
    have hrulesets : (rules id).path ≠ "rulesets" := fun h => by
      rw [h, show "rulesets".length = 8 by decide] at hlen
      omega
    have htokens : (rules id).path ≠ "userTokens" := fun h => by
      rw [h, show "userTokens".length = 10 by decide] at hlen
      omega
    have hlist : (rules id).path.toList =
        "rulesets/".toList ++ (id.toList ++ "/rules".toList) := by
      simp [path, String.toList_append]
    rw [ofPath?, if_neg hrulesets, if_neg htokens, hlist, between?_append, Option.map_some,
      String.ofList_toList]

/-- A text that is read as a collection is its path. -/
theorem path_of_ofPath? {text : String} {c : Collection} (h : ofPath? text = some c) :
    c.path = text := by
  unfold ofPath? at h
  split at h
  · next heq => rw [← Option.some.inj h, heq, path]
  · split at h
    · next heq => rw [← Option.some.inj h, heq, path]
    · obtain ⟨id, hid, rfl⟩ := Option.map_eq_some_iff.mp h
      apply String.toList_inj.mp
      rw [eq_append_of_between? hid]
      simp [path, String.toList_append]

theorem path_injective : Function.Injective path := fun c d h =>
  Option.some.inj (by rw [← ofPath?_path c, h, ofPath?_path])

end Collection

theorem Shelf.get?_erase (s : Shelf) (id other : String) :
    (s.erase id).get? other = if other = id then none else s.get? other := by
  refine Option.ext fun fields => ?_
  rw [get?_eq_some_iff, mem_erase]
  by_cases h : other = id
  · simp [h]
  · simp [h, get?_eq_some_iff]

/-- Shelves with the same documents are equal. -/
theorem Shelf.ext_mem {a b : Shelf} (h : ∀ d, d ∈ a.documents ↔ d ∈ b.documents) : a = b := by
  have hfilter : a.documents.filter (fun _ => true) = b.documents.filter fun _ => true :=
    filter_eq_of_mem_iff fun d _ => h d
  rw [List.filter_true, List.filter_true] at hfilter
  obtain ⟨as, has⟩ := a
  obtain ⟨bs, hbs⟩ := b
  have heq : as = bs := hfilter
  subst heq
  rfl

/-- Shelves that answer every look-up alike are equal. -/
theorem Shelf.ext_get? {a b : Shelf} (h : ∀ id, a.get? id = b.get? id) : a = b :=
  Shelf.ext_mem fun d => by
    rw [← get?_eq_some_iff (s := a), ← get?_eq_some_iff (s := b), h]

theorem Store.ext_mem {s t : Store}
    (h : ∀ c d, d ∈ (s.shelf c).documents ↔ d ∈ (t.shelf c).documents) : s = t := by
  cases s
  cases t
  exact congrArg Store.mk (funext fun c => Shelf.ext_mem (h c))

namespace Store

variable {s t : Store} {c : Collection} {path id : String} {fields : Json}

/-- The body of the document with a path and an id. -/
def body? (s : Store) (path id : String) : Option Json :=
  (Collection.ofPath? path).bind fun c => (s.shelf c).get? id

@[simp] theorem body?_path (s : Store) (c : Collection) (id : String) :
    s.body? c.path id = (s.shelf c).get? id := by
  rw [body?, Collection.ofPath?_path, Option.bind_some]

@[simp] theorem body?_empty (path id : String) : empty.body? path id = none := by
  unfold body?
  cases Collection.ofPath? path <;> rfl

/-- Stores that answer every look-up alike are equal. -/
theorem ext_body? (h : ∀ path id, s.body? path id = t.body? path id) : s = t := by
  cases s
  cases t
  refine congrArg Store.mk (funext fun c => Shelf.ext_get? fun id => ?_)
  simpa using h c.path id

/-- A write on one shelf is seen under that collection's path only. -/
theorem body?_put (s : Store) (c : Collection) (x : Shelf) (path id : String) :
    (s.put c x).body? path id = if path = c.path then x.get? id else s.body? path id := by
  by_cases hpath : path = c.path
  · rw [if_pos hpath, hpath, body?_path, shelf_put_self]
  · rw [if_neg hpath, body?, body?]
    refine Option.bind_congr fun d hd => ?_
    have hne : d ≠ c := fun heq => hpath (heq ▸ (Collection.path_of_ofPath? hd).symm)
    rw [shelf_put_ne _ _ hne]

theorem body?_set (s : Store) (c : Collection) (id : String) (fields : Json)
    (path other : String) :
    (s.set c id fields).body? path other =
      if (path, other) = (c.path, id) then some fields else s.body? path other := by
  rw [set, body?_put]
  by_cases hpath : path = c.path
  · subst hpath
    rw [if_pos rfl, Shelf.get?_insert, body?_path]
    simp
  · simp [hpath]

theorem body?_put_erase (s : Store) (c : Collection) (id path other : String) :
    (s.put c ((s.shelf c).erase id)).body? path other =
      if (path, other) = (c.path, id) then none else s.body? path other := by
  rw [body?_put]
  by_cases hpath : path = c.path
  · subst hpath
    rw [if_pos rfl, Shelf.get?_erase, body?_path]
    simp
  · simp [hpath]

@[simp] theorem setAll_nil (s : Store) (c : Collection) : s.setAll c [] = s := by
  refine ext_body? fun path id => ?_
  rw [setAll, body?_put]
  split
  · next hpath => rw [hpath, body?_path]; rfl
  · rfl

/-- Several documents are set one after the other. -/
theorem setAll_cons (s : Store) (c : Collection) (d : Document) (docs : List Document) :
    s.setAll c (d :: docs) = (s.set c d.id d.fields).setAll c docs := by
  refine ext_body? fun path id => ?_
  rw [setAll, setAll, body?_put, body?_put, shelf_set_self]
  split
  · rfl
  · next hpath => rw [body?_set, if_neg fun h => hpath (Prod.mk.inj h).1]

end Store

end Rulebook
