import Mathlib.Data.String.Basic
import Rulebook.Json.Raw

/-!
# Values in order

In a value the names of an object ascend, at every depth (`Ordered`), so each stands once. What a
tree stands for is in order whatever the order in which it was written (`Raw.ordered_of_value?`),
and a value in order, seen as a tree, stands for itself (`Ordered.value?_raw`). So the values in
order are all there are to read (`ordered_iff`).
-/

namespace Rulebook.Json

mutual

/-- Whether the names of every object ascend. -/
def Ordered : Json → Prop
  | .null | .bool _ | .number _ | .string _ => True
  | .array items => OrderedItems items
  | .object members => (members.Pairwise fun m n => m.1 < n.1) ∧ OrderedMembers members

/-- Whether all items are in order. -/
def OrderedItems : List Json → Prop
  | [] => True
  | x :: xs => Ordered x ∧ OrderedItems xs

/-- Whether the values of all members are in order. -/
def OrderedMembers : List (String × Json) → Prop
  | [] => True
  | (_, x) :: ms => Ordered x ∧ OrderedMembers ms

end

/-! ## Members put in order -/

/-- Members with ascending names have different names. -/
theorem nodup_names {members : List (String × Json)}
    (h : members.Pairwise fun m n => m.1 < n.1) : (members.map Prod.fst).Nodup :=
  List.pairwise_map.mpr (h.imp fun hlt => ne_of_lt hlt)

theorem mem_insertMember {key : String} {value : Json} {members : List (String × Json)}
    {m : String × Json} (h : m ∈ insertMember key value members) :
    m = (key, value) ∨ m ∈ members := by
  induction members with
  | nil => simpa [insertMember] using h
  | cons n ns ih =>
    obtain ⟨k, x⟩ := n
    unfold insertMember at h
    split at h
    · exact (List.mem_cons.mp h).imp_right (List.mem_cons_of_mem _)
    · split at h
      · exact List.mem_cons.mp h
      · rcases List.mem_cons.mp h with heq | hm
        · exact .inr (heq ▸ List.mem_cons_self)
        · exact (ih hm).imp_right (List.mem_cons_of_mem _)

/-- The names still ascend when one is bound. -/
theorem ascending_insertMember (key : String) (value : Json) {members : List (String × Json)}
    (h : members.Pairwise fun m n => m.1 < n.1) :
    (insertMember key value members).Pairwise fun m n => m.1 < n.1 := by
  induction members with
  | nil => simp [insertMember]
  | cons n ns ih =>
    obtain ⟨k, x⟩ := n
    rw [List.pairwise_cons] at h
    unfold insertMember
    split
    · next heq => exact List.pairwise_cons.mpr ⟨fun m hm => heq ▸ h.1 m hm, h.2⟩
    · next hne =>
      split
      · next hlt =>
        refine List.pairwise_cons.mpr ⟨fun m hm => ?_, List.pairwise_cons.mpr h⟩
        rcases List.mem_cons.mp hm with rfl | hm
        · exact hlt
        · exact lt_trans hlt (h.1 m hm)
      · next hnlt =>
        refine List.pairwise_cons.mpr ⟨fun m hm => ?_, ih h.2⟩
        rcases mem_insertMember hm with rfl | hm
        · exact lt_of_le_of_ne (not_lt.mp hnlt) hne
        · exact h.1 m hm

/-- A name above all others comes last. -/
theorem insertMember_of_above {key : String} {members : List (String × Json)}
    (h : ∀ m ∈ members, m.1 < key) (value : Json) :
    insertMember key value members = members ++ [(key, value)] := by
  induction members with
  | nil => rfl
  | cons m ms ih =>
    obtain ⟨k, x⟩ := m
    have hk : k < key := h (k, x) List.mem_cons_self
    rw [insertMember, if_neg (ne_of_lt hk), if_neg (not_lt_of_gt hk),
      ih fun m hm => h m (List.mem_cons_of_mem _ hm), List.cons_append]

theorem orderedMembers_iff {members : List (String × Json)} :
    OrderedMembers members ↔ ∀ m ∈ members, m.2.Ordered := by
  induction members with
  | nil => simp [OrderedMembers]
  | cons m ms ih => simp [OrderedMembers, ih]

/-- An object put together of values in order is in order. -/
theorem ordered_ofMembers {members : List (String × Json)} (h : OrderedMembers members) :
    (ofMembers members).Ordered := by
  have hfold : ∀ (ms acc : List (String × Json)), OrderedMembers ms →
      (acc.Pairwise fun m n => m.1 < n.1) → OrderedMembers acc →
        (Json.object (ms.foldl (fun acc m => insertMember m.1 m.2 acc) acc)).Ordered := by
    intro ms
    induction ms with
    | nil => exact fun acc _ hasc hacc => ⟨hasc, hacc⟩
    | cons m ms ih =>
      intro acc hms hasc hacc
      rw [OrderedMembers] at hms
      refine ih _ hms.2 (ascending_insertMember _ _ hasc) (orderedMembers_iff.mpr fun n hn => ?_)
      rcases mem_insertMember hn with rfl | hn
      · exact hms.1
      · exact orderedMembers_iff.mp hacc n hn
  exact hfold members [] h List.Pairwise.nil trivial

/-- Members that are in order already are left as they are. -/
theorem ofMembers_of_ascending {members : List (String × Json)}
    (h : members.Pairwise fun m n => m.1 < n.1) : ofMembers members = .object members := by
  have hfold : ∀ ms acc : List (String × Json), ((acc ++ ms).Pairwise fun m n => m.1 < n.1) →
      ms.foldl (fun acc m => insertMember m.1 m.2 acc) acc = acc ++ ms := by
    intro ms
    induction ms with
    | nil => simp
    | cons m ms ih =>
      intro acc hasc
      have habove : ∀ n ∈ acc, n.1 < m.1 := fun n hn =>
        (List.pairwise_append.mp hasc).2.2 n hn m List.mem_cons_self
      rw [List.foldl_cons, insertMember_of_above habove, ih _ (by simpa using hasc)]
      simp
  exact congrArg Json.object (hfold members [] h)

/-! ## Values and trees -/

mutual

/-- A value in order, seen as a tree, stands for itself. -/
theorem Ordered.value?_raw {v : Json} (h : v.Ordered) : v.raw.value? = some v := by
  cases v with
  | null => rfl
  | bool b => rfl
  | number n => rfl
  | string s => rfl
  | array items =>
    rw [Ordered] at h
    rw [raw, Raw.value?, OrderedItems.values?_raw h, Option.map_some]
  | object members =>
    rw [Ordered] at h
    rw [raw, Raw.value?, OrderedMembers.memberValues?_raw h.2, Option.map_some,
      ofMembers_of_ascending h.1]
termination_by sizeOf v

theorem OrderedItems.values?_raw {xs : List Json} (h : OrderedItems xs) :
    Raw.values? (rawItems xs) = some xs := by
  cases xs with
  | nil => rfl
  | cons x xs =>
    rw [OrderedItems] at h
    rw [rawItems, Raw.values?, h.1.value?_raw, OrderedItems.values?_raw h.2]
termination_by sizeOf xs

theorem OrderedMembers.memberValues?_raw {ms : List (String × Json)} (h : OrderedMembers ms) :
    Raw.memberValues? (rawMembers ms) = some ms := by
  match ms with
  | [] => rfl
  | (k, x) :: ms =>
    rw [OrderedMembers] at h
    simp only [rawMembers, Raw.memberValues?, h.1.value?_raw,
      OrderedMembers.memberValues?_raw h.2]
termination_by sizeOf ms

end

namespace Raw

mutual

/-- What a tree stands for is in order. -/
theorem ordered_of_value? {tree : Raw} {v : Json} (h : tree.value? = some v) : v.Ordered := by
  cases tree with
  | null | bool b =>
    cases h
    trivial
  | number n | string s =>
    obtain ⟨x, -, rfl⟩ := Option.map_eq_some_iff.mp h
    trivial
  | array items =>
    obtain ⟨xs, hxs, rfl⟩ := Option.map_eq_some_iff.mp h
    exact ordered_of_values? hxs
  | object members =>
    obtain ⟨ms, hms, rfl⟩ := Option.map_eq_some_iff.mp h
    exact ordered_ofMembers (ordered_of_memberValues? hms)
  | tooDeep | broken => cases h
termination_by sizeOf tree

theorem ordered_of_values? {items : List Raw} {xs : List Json} (h : values? items = some xs) :
    OrderedItems xs := by
  match items with
  | [] =>
    cases h
    trivial
  | x :: rest =>
    rw [values?] at h
    split at h
    · next v vs hv hvs =>
      cases h
      exact ⟨ordered_of_value? hv, ordered_of_values? hvs⟩
    · cases h
termination_by sizeOf items

theorem ordered_of_memberValues? {members : List (Option String × Raw)} {ms : List (String × Json)}
    (h : memberValues? members = some ms) : OrderedMembers ms := by
  match members with
  | [] =>
    cases h
    trivial
  | (k, x) :: rest =>
    unfold memberValues? at h
    split at h
    · next key v vs hv hvs =>
      cases h
      exact ⟨ordered_of_value? hv, ordered_of_memberValues? hvs⟩
    · cases h
termination_by sizeOf members

end

end Raw

/-- The values in order are those that trees stand for. -/
theorem ordered_iff {v : Json} : v.Ordered ↔ ∃ tree : Raw, tree.value? = some v :=
  ⟨fun h => ⟨v.raw, h.value?_raw⟩, fun ⟨_, h⟩ => Raw.ordered_of_value? h⟩

end Rulebook.Json
