import Mathlib.Data.List.Sort
import Rulebook.Proofs.Rule.FormKey

/-!
# What a rule form submits

A form is read pair by pair, and each pair replaces what an earlier one has set. What comes of it is
said here of the list as a whole (`Submits`): the first name that is malformed, or else what was
submitted last for each field (`lastFor`), with a condition for every index that is named. The two
agree because every pair does to the content read so far what it does to the last submissions
(`Content.Holds.put`, `Content.Holds.pass`). As only the last pair of a field counts, pairs of
different fields may stand in any order (`Submits.of_reordered`).
-/

namespace Rulebook.RuleForm

/-! ## The reference -/

/-- What a pair of a form can set. -/
inductive Slot where
  | name
  | description
  | message
  | condition (index : Nat) (part : Part)
deriving DecidableEq

/-- A name is that of a field; fields of conditions have many names. -/
def Addresses (key : String) : Slot → Prop
  | .name => key = "name"
  | .description => key = "description"
  | .message => key = "message"
  | .condition index part => Names key index part

def Slot.of? (key : String) : Option Slot :=
  if key = "name" then some .name
  else if key = "description" then some .description
  else if key = "message" then some .message
  else (field? key).map fun f => .condition f.1 f.2

theorem Slot.of?_eq_some_iff {key : String} {slot : Slot} :
    of? key = some slot ↔ Addresses key slot := by
  constructor
  · intro h
    unfold of? at h
    split at h
    · cases h
      assumption
    split at h
    · cases h
      assumption
    split at h
    · cases h
      assumption
    obtain ⟨⟨index, part⟩, hfield, rfl⟩ := Option.map_eq_some_iff.mp h
    exact field?_eq_some_iff.mp hfield
  · intro h
    cases slot with
    | name | description | message =>
      cases h
      rfl
    | condition index part =>
      -- the other three names do not begin as those of conditions do
      have hlooks : looksLikeCondition key := Names.looksLikeCondition h
      have hne : ∀ plain, looksLikeCondition plain = false → key ≠ plain := by
        rintro plain hplain rfl
        exact Bool.false_ne_true (hplain.symm.trans hlooks)
      rw [of?, if_neg (hne _ (by decide)), if_neg (hne _ (by decide)), if_neg (hne _ (by decide)),
        field?_eq_some_iff.mpr h]
      rfl

instance (key : String) (slot : Slot) : Decidable (Addresses key slot) :=
  decidable_of_iff _ Slot.of?_eq_some_iff

/-- The pairs of a form that set a field. -/
def pairsFor (slot : Slot) (pairs : List (String × String)) : List (String × String) :=
  pairs.filter fun p => Addresses p.1 slot

/-- What is submitted last for a field, or nothing. -/
def lastFor (slot : Slot) (pairs : List (String × String)) : String :=
  ((pairsFor slot pairs).getLast?.map (·.2)).getD ""

/-- The condition of an index, its value a text. -/
def conditionAt (pairs : List (String × String)) (index : Nat) : Condition :=
  ⟨lastFor (.condition index .propertyName) pairs, lastFor (.condition index .predicate) pairs,
    .text (lastFor (.condition index .value) pairs)⟩

/-- What a form submits. -/
inductive Submits (pairs : List (String × String)) : Except FormFault RuleDraft → Prop where
  | malformed {key value : String}
      (hfirst : pairs.find? (fun p => Malformed p.1) = some (key, value)) :
      Submits pairs (.error (.malformedCondition key))
  | blank (hwell : ∀ p ∈ pairs, ¬ Malformed p.1)
      (hblank : Text.saysNothing (lastFor .name pairs) = true) :
      Submits pairs (.error (.draft .emptyName))
  | rule {indices : List Nat} (hwell : ∀ p ∈ pairs, ¬ Malformed p.1)
      (hname : Text.saysNothing (lastFor .name pairs) = false)
      (hascending : indices.Pairwise (· < ·))
      (hindices : ∀ i, i ∈ indices ↔ ∃ p ∈ pairs, ∃ part, Names p.1 i part) :
      Submits pairs (.ok {
        name := Text.trim (lastFor .name pairs)
        description := lastFor .description pairs
        message := lastFor .message pairs
        conditions := (indices.map (conditionAt pairs)).filter
          fun c => !Text.saysNothing c.propertyName })

variable {key value : String} {slot other : Slot} {pairs read after : List (String × String)}
  {c : Content} {rows : List (Nat × Row)} {index : Nat} {part : Part}

theorem Addresses.unique (h : Addresses key slot) (h' : Addresses key other) : slot = other := by
  rw [← Slot.of?_eq_some_iff] at h h'
  exact Option.some.inj (h.symm.trans h')

theorem lastFor_concat (key value : String) (slot : Slot) (pairs : List (String × String)) :
    lastFor slot (pairs ++ [(key, value)]) =
      if Addresses key slot then value else lastFor slot pairs := by
  unfold lastFor pairsFor
  rw [List.filter_append]
  by_cases h : Addresses key slot <;> simp [h]

theorem lastFor_eq_empty (h : ∀ p ∈ pairs, ¬ Addresses p.1 slot) : lastFor slot pairs = "" := by
  have hnone : pairsFor slot pairs = [] := by
    refine List.filter_eq_nil_iff.mpr fun p hp => ?_
    rw [decide_eq_true_iff]
    exact h p hp
  rw [lastFor, hnone]
  rfl

theorem exists_names_concat {i : Nat} :
    (∃ p ∈ read ++ [(key, value)], ∃ part, Names p.1 i part) ↔
      (∃ p ∈ read, ∃ part, Names p.1 i part) ∨ ∃ part, Names key i part := by
  simp only [List.mem_append, List.mem_singleton, or_and_right, exists_or, exists_eq_left]

/-- Neighbours of different fields may change places. -/
theorem pairsFor_swap (before : List (String × String)) {p q : String × String}
    (h : Slot.of? p.1 ≠ Slot.of? q.1) (slot : Slot) :
    pairsFor slot (before ++ p :: q :: after) = pairsFor slot (before ++ q :: p :: after) := by
  unfold pairsFor
  rw [List.filter_append, List.filter_append]
  by_cases hp : Addresses p.1 slot
  · have hq : ¬ Addresses q.1 slot := fun hq =>
      h ((Slot.of?_eq_some_iff.mpr hp).trans (Slot.of?_eq_some_iff.mpr hq).symm)
    simp [hp, hq]
  · simp [hp, List.filter_cons]

/-! ## One pair -/

/-- The content with one field replaced. -/
def Content.put (c : Content) (slot : Slot) (value : String) : Content :=
  match slot with
  | .name => { c with name := value }
  | .description => { c with description := value }
  | .message => { c with message := value }
  | .condition index part => { c with rows := setRow index part value c.rows }

theorem Content.add_eq (c : Content) (key value : String) :
    c.add key value =
      match Slot.of? key with
      | some slot => .ok (c.put slot value)
      | none => if looksLikeCondition key then .error (.malformedCondition key) else .ok c := by
  unfold Content.add Slot.of?
  by_cases hname : key = "name"
  · rw [if_pos hname, if_pos hname]
    rfl
  by_cases hdescription : key = "description"
  · rw [if_neg hname, if_neg hname, if_pos hdescription, if_pos hdescription]
    rfl
  by_cases hmessage : key = "message"
  · rw [if_neg hname, if_neg hname, if_neg hdescription, if_neg hdescription, if_pos hmessage,
      if_pos hmessage]
    rfl
  simp only [hname, hdescription, hmessage, ↓reduceIte]
  cases hfield : field? key with
  | none => rfl
  | some f =>
    rw [if_pos (Names.looksLikeCondition (field?_eq_some_iff.mp hfield))]
    rfl

/-- A malformed name looks like that of a condition field and is of no field at all. -/
theorem malformed_iff :
    Malformed key ↔ looksLikeCondition key = true ∧ ∀ slot, ¬ Addresses key slot := by
  rw [Malformed, ← looksLikeCondition_iff]
  refine and_congr_right fun hlooks => ⟨fun h slot hslot => ?_, fun h index part => ?_⟩
  · cases slot with
    | name | description | message =>
      cases hslot
      exact absurd hlooks (by decide)
    | condition index part => exact h index part hslot
  · exact h (.condition index part)

theorem Content.add_of_addresses (h : Addresses key slot) :
    c.add key value = .ok (c.put slot value) := by
  rw [add_eq, Slot.of?_eq_some_iff.mpr h]

theorem Slot.of?_eq_none (h : ∀ slot, ¬ Addresses key slot) : of? key = none :=
  Option.eq_none_iff_forall_ne_some.mpr fun slot hslot => h slot (of?_eq_some_iff.mp hslot)

theorem Content.add_of_malformed (h : Malformed key) :
    c.add key value = .error (.malformedCondition key) := by
  obtain ⟨hlooks, hnone⟩ := malformed_iff.mp h
  rw [add_eq, Slot.of?_eq_none hnone]
  exact if_pos hlooks

theorem Content.add_of_other (h : ∀ slot, ¬ Addresses key slot) (hkey : ¬ Malformed key) :
    c.add key value = .ok c := by
  rw [add_eq, Slot.of?_eq_none h]
  exact if_neg fun hlooks => hkey (malformed_iff.mpr ⟨hlooks, h⟩)

/-! ## Rows -/

def Row.get (r : Row) : Part → String
  | .propertyName => r.propertyName
  | .predicate => r.predicate
  | .value => r.value

theorem Row.get_set (r : Row) (part part' : Part) (s : String) :
    (r.set part s).get part' = if part = part' then s else r.get part' := by
  cases part <;> cases part' <;> rfl

theorem Row.get_empty (part : Part) : Row.empty.get part = "" := by
  cases part <;> rfl

/-- In rows that ascend, the row of an index is replaced where it stands, and a new one is put
between those below it and those above it. -/
theorem setRow_split (index : Nat) (part : Part) (s : String)
    (hrows : rows.Pairwise fun x y => x.1 < y.1) :
    ∃ below old above,
      (rows = below ++ (index, old) :: above ∨ rows = below ++ above ∧ old = Row.empty) ∧
      setRow index part s rows = below ++ (index, old.set part s) :: above ∧
      (∀ x ∈ below, x.1 < index) ∧ ∀ x ∈ above, index < x.1 := by
  induction rows with
  | nil => exact ⟨[], Row.empty, [], .inr ⟨rfl, rfl⟩, rfl, nofun, nofun⟩
  | cons x rows ih =>
    obtain ⟨i, r⟩ := x
    obtain ⟨hfirst, hrest⟩ := List.pairwise_cons.mp hrows
    rw [setRow]
    by_cases heq : i = index
    · subst heq
      exact ⟨[], r, rows, .inl rfl, if_pos rfl, nofun, hfirst⟩
    rw [if_neg heq]
    by_cases hlt : index < i
    · refine ⟨[], Row.empty, (i, r) :: rows, .inr ⟨rfl, rfl⟩, if_pos hlt, nofun, ?_⟩
      intro y hy
      rcases List.mem_cons.mp hy with rfl | hy
      · exact hlt
      · exact Nat.lt_trans hlt (hfirst y hy)
    · obtain ⟨below, old, above, hsplit, hset, hbelow, habove⟩ := ih hrest
      refine ⟨(i, r) :: below, old, above, ?_, ?_, ?_, habove⟩
      · rcases hsplit with rfl | ⟨rfl, rfl⟩
        · exact .inl rfl
        · exact .inr ⟨rfl, rfl⟩
      · rw [if_neg hlt, hset, List.cons_append]
      · intro y hy
        rcases List.mem_cons.mp hy with rfl | hy
        · exact Nat.lt_of_le_of_ne (Nat.le_of_not_lt hlt) heq
        · exact hbelow y hy

theorem ascending_setRow (index : Nat) (part : Part) (s : String)
    (hrows : rows.Pairwise fun x y => x.1 < y.1) :
    (setRow index part s rows).Pairwise fun x y => x.1 < y.1 := by
  obtain ⟨below, old, above, hsplit, hset, hbelow, habove⟩ := setRow_split index part s hrows
  have hothers : (below ++ above).Pairwise fun x y => x.1 < y.1 := by
    rcases hsplit with rfl | ⟨rfl, -⟩
    · exact hrows.sublist ((List.Sublist.refl _).append (List.sublist_cons_self _ _))
    · exact hrows
  obtain ⟨hlow, hhigh, -⟩ := List.pairwise_append.mp hothers
  rw [hset]
  refine List.pairwise_append.mpr ⟨hlow, List.pairwise_cons.mpr ⟨habove, hhigh⟩, ?_⟩
  intro x hx y hy
  rcases List.mem_cons.mp hy with rfl | hy
  · exact hbelow x hx
  · exact Nat.lt_trans (hbelow x hx) (habove y hy)

/-- The row of the index says what it has said before, or nothing if it is new, except for the part;
the other rows are the same. -/
theorem mem_setRow (index : Nat) (part : Part) (s : String)
    (hrows : rows.Pairwise fun x y => x.1 < y.1) :
    ∃ old, ((index, old) ∈ rows ∨ (∀ r, (index, r) ∉ rows) ∧ old = Row.empty) ∧
      ∀ i r, (i, r) ∈ setRow index part s rows ↔
        i = index ∧ r = old.set part s ∨ i ≠ index ∧ (i, r) ∈ rows := by
  obtain ⟨below, old, above, hsplit, hset, hbelow, habove⟩ := setRow_split index part s hrows
  have hne : ∀ i r, (i, r) ∈ below ∨ (i, r) ∈ above → i ≠ index := by
    rintro i r (h | h)
    · exact Nat.ne_of_lt (hbelow _ h)
    · exact Nat.ne_of_gt (habove _ h)
  refine ⟨old, ?_, fun i r => ?_⟩
  · rcases hsplit with rfl | ⟨rfl, rfl⟩
    · exact .inl (by simp)
    · exact .inr ⟨fun r h => hne _ r (List.mem_append.mp h) rfl, rfl⟩
  · rw [hset, List.mem_append, List.mem_cons, Prod.mk.injEq, or_left_comm]
    refine or_congr_right ⟨fun h => ⟨hne i r h, ?_⟩, fun ⟨hi, h⟩ => ?_⟩
    · rcases hsplit with rfl | ⟨rfl, -⟩
      · exact List.mem_append.mpr (h.imp_right (List.mem_cons_of_mem _))
      · exact List.mem_append.mpr h
    · rcases hsplit with rfl | ⟨rfl, -⟩
      · refine (List.mem_append.mp h).imp_right fun h => (List.mem_cons.mp h).resolve_left ?_
        exact fun heq => hi (congrArg Prod.fst heq)
      · exact List.mem_append.mp h

/-- Rows that hold what was submitted last for conditions: one for each index that is named, in the
order of the indices. -/
structure Tabulates (rows : List (Nat × Row)) (pairs : List (String × String)) : Prop where
  ascending : rows.Pairwise fun x y => x.1 < y.1
  indices : ∀ i, (∃ r, (i, r) ∈ rows) ↔ ∃ p ∈ pairs, ∃ part, Names p.1 i part
  cells : ∀ i r, (i, r) ∈ rows → ∀ part, r.get part = lastFor (.condition i part) pairs

namespace Tabulates

theorem pass (h : Tabulates rows read) (hkey : ∀ i part, ¬ Addresses key (.condition i part)) :
    Tabulates rows (read ++ [(key, value)]) where
  ascending := h.ascending
  indices i := by
    rw [h.indices, exists_names_concat]
    exact (or_iff_left fun ⟨part, hpart⟩ => hkey i part hpart).symm
  cells i r hr part := by
    rw [lastFor_concat, if_neg (hkey i part)]
    exact h.cells i r hr part

/-- A pair of a condition sets its part in the row of its index. -/
theorem set (h : Tabulates rows read) (hkey : Addresses key (.condition index part)) :
    Tabulates (setRow index part value rows) (read ++ [(key, value)]) := by
  obtain ⟨old, hold, hmem⟩ := mem_setRow index part value h.ascending
  -- an index without a row has not been named, so nothing has been submitted for it
  have hcell : ∀ part', old.get part' = lastFor (.condition index part') read := by
    intro part'
    rcases hold with hold | ⟨hnew, rfl⟩
    · exact h.cells index old hold part'
    · rw [Row.get_empty, lastFor_eq_empty]
      intro p hp hnames
      obtain ⟨r, hr⟩ := (h.indices index).mpr ⟨p, hp, part', hnames⟩
      exact hnew r hr
  refine ⟨ascending_setRow index part value h.ascending, fun i => ?_, fun i r hr part' => ?_⟩
  · rw [exists_names_concat, ← h.indices]
    constructor
    · rintro ⟨r, hr⟩
      rcases (hmem i r).mp hr with ⟨rfl, -⟩ | ⟨-, hr⟩
      · exact .inr ⟨part, hkey⟩
      · exact .inl ⟨r, hr⟩
    · intro hnamed
      by_cases hi : i = index
      · exact ⟨_, (hmem i _).mpr (.inl ⟨hi, rfl⟩)⟩
      · obtain ⟨r, hr⟩ := hnamed.resolve_right fun ⟨_, hnames⟩ => hi (hnames.unique hkey).1
        exact ⟨r, (hmem i r).mpr (.inr ⟨hi, hr⟩)⟩
  · rw [lastFor_concat]
    rcases (hmem i r).mp hr with ⟨rfl, rfl⟩ | ⟨hne, hr⟩
    · -- the pair is of this index, and counts for one of its parts
      rw [Row.get_set, hcell]
      by_cases hpart : part = part'
      · rw [if_pos hpart, if_pos (hpart ▸ hkey)]
      · rw [if_neg hpart, if_neg]
        exact fun hother => hpart (Slot.condition.inj (hkey.unique hother)).2
    · rw [if_neg, h.cells i r hr]
      exact fun hother => hne (Slot.condition.inj (hkey.unique hother)).1.symm

end Tabulates

/-! ## A whole form -/

/-- Content that holds what was submitted last for every field. -/
structure Content.Holds (c : Content) (pairs : List (String × String)) : Prop where
  name : c.name = lastFor .name pairs
  description : c.description = lastFor .description pairs
  message : c.message = lastFor .message pairs
  rows : Tabulates c.rows pairs

namespace Content.Holds

theorem empty : Content.empty.Holds [] :=
  ⟨rfl, rfl, rfl, .nil, by simp [Content.empty], nofun⟩

theorem pass (h : c.Holds read) (hkey : ∀ slot, ¬ Addresses key slot) :
    c.Holds (read ++ [(key, value)]) where
  name := by rw [lastFor_concat, if_neg (hkey _), h.name]
  description := by rw [lastFor_concat, if_neg (hkey _), h.description]
  message := by rw [lastFor_concat, if_neg (hkey _), h.message]
  rows := h.rows.pass fun i part => hkey (.condition i part)

/-- A pair of a field sets it and no other. -/
theorem put (h : c.Holds read) (hkey : Addresses key slot) :
    (c.put slot value).Holds (read ++ [(key, value)]) := by
  have hself : lastFor slot (read ++ [(key, value)]) = value := by
    rw [lastFor_concat, if_pos hkey]
  have hkept : ∀ other, other ≠ slot →
      lastFor other (read ++ [(key, value)]) = lastFor other read := by
    intro other hne
    rw [lastFor_concat, if_neg fun hother => hne (hother.unique hkey)]
  have hrows : (∀ i part, Slot.condition i part ≠ slot) →
      Tabulates c.rows (read ++ [(key, value)]) :=
    fun hne => h.rows.pass fun i part hother => hne i part (hother.unique hkey)
  cases slot with
  | name =>
    exact ⟨hself.symm, h.description.trans (hkept .description nofun).symm,
      h.message.trans (hkept .message nofun).symm, hrows nofun⟩
  | description =>
    exact ⟨h.name.trans (hkept .name nofun).symm, hself.symm,
      h.message.trans (hkept .message nofun).symm, hrows nofun⟩
  | message =>
    exact ⟨h.name.trans (hkept .name nofun).symm,
      h.description.trans (hkept .description nofun).symm, hself.symm, hrows nofun⟩
  | condition index part =>
    exact ⟨h.name.trans (hkept .name nofun).symm,
      h.description.trans (hkept .description nofun).symm,
      h.message.trans (hkept .message nofun).symm, h.rows.set hkey⟩

theorem add (h : c.Holds read) (hkey : ¬ Malformed key) (value : String) :
    ∃ c', c.add key value = .ok c' ∧ c'.Holds (read ++ [(key, value)]) := by
  by_cases hslot : ∃ slot, Addresses key slot
  · obtain ⟨slot, hslot⟩ := hslot
    exact ⟨_, add_of_addresses hslot, h.put hslot⟩
  · exact ⟨c, add_of_other (not_exists.mp hslot) hkey, h.pass (not_exists.mp hslot)⟩

/-- Reading on from content that holds what was submitted so far ends at the first malformed name,
or else the content holds what was submitted in the end. -/
theorem addAll (h : c.Holds read) (pairs : List (String × String)) :
    (∃ key value, pairs.find? (fun p => Malformed p.1) = some (key, value) ∧
      c.addAll pairs = .error (.malformedCondition key)) ∨
    (∀ p ∈ pairs, ¬ Malformed p.1) ∧ ∃ c', c.addAll pairs = .ok c' ∧ c'.Holds (read ++ pairs) := by
  induction pairs generalizing c read with
  | nil => exact .inr ⟨nofun, c, rfl, by rwa [List.append_nil]⟩
  | cons p rest ih =>
    obtain ⟨key, value⟩ := p
    by_cases hkey : Malformed key
    · refine .inl ⟨key, value, List.find?_cons_of_pos (by simpa using hkey), ?_⟩
      rw [Content.addAll, add_of_malformed hkey]
    obtain ⟨c₁, hadd, hholds⟩ := h.add hkey value
    rw [Content.addAll, hadd, List.find?_cons_of_neg (by simpa using hkey)]
    refine (ih hholds).imp_right fun ⟨hwell, c₂, hrun, hholds'⟩ => ?_
    rw [List.append_assoc] at hholds'
    exact ⟨List.forall_mem_cons.mpr ⟨hkey, hwell⟩, c₂, hrun, hholds'⟩

/-- The conditions of the rows are those of the indices that are named. -/
theorem conditions (h : c.Holds pairs) :
    c.rows.map (·.2.condition) = (c.rows.map (·.1)).map (conditionAt pairs) := by
  rw [List.map_map]
  refine List.map_congr_left fun ⟨i, r⟩ hr => ?_
  have hcell := h.rows.cells i r hr
  simp only [Function.comp_apply, Row.condition, conditionAt, ← hcell, Row.get]

end Content.Holds

/-- What is made of a form is what it submits. -/
theorem submits_draft (pairs : List (String × String)) : Submits pairs (draft pairs) := by
  unfold draft
  rcases Content.Holds.empty.addAll pairs with
    ⟨key, value, hfirst, hrun⟩ | ⟨hwell, c, hrun, hholds⟩
  · rw [hrun]
    exact .malformed hfirst
  rw [List.nil_append] at hholds
  simp only [hrun, RuleDraft.of, hholds.name, hholds.description, hholds.message,
    hholds.conditions]
  cases hname : Text.saysNothing (lastFor .name pairs) with
  | true => exact .blank hwell hname
  | false =>
    refine .rule hwell hname (List.pairwise_map.mpr hholds.rows.ascending) fun i => ?_
    rw [← hholds.rows.indices]
    simp

/-- A form submits one thing. -/
theorem Submits.unique {a b : Except FormFault RuleDraft} (ha : Submits pairs a)
    (hb : Submits pairs b) : a = b := by
  have hclash : ∀ {p}, pairs.find? (fun p => Malformed p.1) = some p →
      ¬ ∀ p ∈ pairs, ¬ Malformed p.1 :=
    fun hfirst hwell => hwell _ (List.mem_of_find?_eq_some hfirst)
      (by simpa using List.find?_some hfirst)
  cases ha with
  | malformed hfirst =>
    cases hb with
    | malformed hfirst' =>
      cases hfirst.symm.trans hfirst'
      rfl
    | blank hwell | rule hwell => exact absurd hwell (hclash hfirst)
  | blank hwell hblank =>
    cases hb with
    | malformed hfirst' => exact absurd hwell (hclash hfirst')
    | blank => rfl
    | rule _ hname => exact absurd (hblank.symm.trans hname) (by decide)
  | rule hwell hname hascending hindices =>
    cases hb with
    | malformed hfirst' => exact absurd hwell (hclash hfirst')
    | blank _ hblank => exact absurd (hblank.symm.trans hname) (by decide)
    | rule _ _ hascending' hindices' =>
      rw [hascending.eq_of_mem_iff hascending' fun i => (hindices i).trans (hindices' i).symm]

/-- A form submits what it submits after pairs have changed places that do not set one field. -/
theorem Submits.of_reordered {reordered : List (String × String)} {out : Except FormFault RuleDraft}
    (hwell : ∀ p ∈ pairs, ¬ Malformed p.1) (hperm : reordered.Perm pairs)
    (hsame : ∀ slot, pairsFor slot reordered = pairsFor slot pairs) (h : Submits reordered out) :
    Submits pairs out := by
  have hlast : ∀ slot, lastFor slot reordered = lastFor slot pairs := by
    intro slot
    rw [lastFor, hsame, lastFor]
  have hcondition : conditionAt reordered = conditionAt pairs := by
    funext i
    simp only [conditionAt, hlast]
  cases h with
  | malformed hfirst =>
    have hmem := hperm.mem_iff.mp (List.mem_of_find?_eq_some hfirst)
    exact absurd (by simpa using List.find?_some hfirst) (hwell _ hmem)
  | blank _ hblank => exact .blank hwell (hlast _ ▸ hblank)
  | rule _ hname hascending hindices =>
    simp only [hlast, hcondition] at hname ⊢
    refine .rule hwell hname hascending fun i => (hindices i).trans ?_
    simp only [hperm.mem_iff]

/-- **A form is read as it was submitted**, whatever its pairs are: a name that begins like that of a
condition field and is none is reported, the first one if there are several and before anything
else; otherwise a blank name is; otherwise the rule has what was submitted last for each field, and
one condition for each index in the order of the indices, those without a property left out. As long
as no name is malformed, pairs may change places in any way that keeps the order of those that set
one field. -/
theorem forms_read_as_submitted (pairs : List (String × String)) :
    (∀ out, draft pairs = out ↔ Submits pairs out) ∧
    ∀ reordered, (∀ p ∈ pairs, ¬ Malformed p.1) → reordered.Perm pairs →
      (∀ slot, pairsFor slot reordered = pairsFor slot pairs) → draft reordered = draft pairs := by
  refine ⟨fun out => ⟨?_, fun h => (submits_draft pairs).unique h⟩,
    fun reordered hwell hperm hsame => ?_⟩
  · rintro rfl
    exact submits_draft pairs
  · exact ((submits_draft reordered).of_reordered hwell hperm hsame).unique (submits_draft pairs)

/-- A form whose index is spelled in two ways, with the name moved to the front: the value that is
submitted last still counts. -/
theorem reordered_form_submits_the_same :
    let pairs := [("conditions[1][value]", "3"), ("name", " Walls "),
      ("conditions[+01][value]", "4"), ("conditions[1][propertyName]", "Height")]
    let reordered := [("name", " Walls "), ("conditions[1][value]", "3"),
      ("conditions[+01][value]", "4"), ("conditions[1][propertyName]", "Height")]
    (∀ p ∈ pairs, ¬ Malformed p.1) ∧ reordered.Perm pairs ∧
      (∀ slot, pairsFor slot reordered = pairsFor slot pairs) ∧
      draft pairs = .ok ⟨"Walls", "", "", [⟨"Height", "", .text "4"⟩]⟩ ∧
      draft reordered = draft pairs := by
  intro pairs reordered
  have hwell : ∀ p ∈ pairs, ¬ Malformed p.1 := by decide +kernel
  have hperm : reordered.Perm pairs := .swap _ _ _
  have hsame : ∀ slot, pairsFor slot reordered = pairsFor slot pairs :=
    pairsFor_swap [] (by decide +kernel)
  exact ⟨hwell, hperm, hsame, by rfl, (forms_read_as_submitted pairs).2 reordered hwell hperm hsame⟩

end Rulebook.RuleForm
