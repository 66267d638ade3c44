import Mathlib.Data.List.Forall2
import Mathlib.Data.List.Nodup
import Rulebook.Proofs.Json.Ordered
import Rulebook.Proofs.Json.Record

/-!
# The shape of a tree

What a tree has to be for a reader to succeed, said of the tree alone. A text is a string with a
value, a list says one thing with each of its items, and a record lays out its fields
(`Raw.Lays`), each of which is required or has a value of its own when it is missing. The readers
succeed on these trees and on no others, and with what the tree says (`ReadsAs`): a reader that is
put together of others does so as soon as they do. Where a record is written as an object of
different names, each field is the member of its name (`Raw.fields_rawMembers_iff`).
-/

namespace Rulebook.Json

variable {α β : Type}

namespace Raw

/-! ## Shapes -/

/-- A tree lays out fields: it is an object whose names are all texts, with each declared name at
most once, or a list of no more items than there are names, which stand for them in turn. -/
def Lays (names : List String) (field : String → Option Raw) : Raw → Prop
  | .object members =>
    (∀ m ∈ members, m.1 ≠ none) ∧
      (∀ name ∈ names, members.countP (fun m => m.1 == some name) ≤ 1) ∧
      ∀ name, field name = if name ∈ names then members.lookup (some name) else none
  | .array items =>
    items.length ≤ names.length ∧ ∀ name, field name = (names.zip items).lookup name
  | _ => False

/-- A record says what its fields say. -/
def Fields (names : List String) (told : (String → Option Raw) → α → Prop) (tree : Raw) (x : α) :
    Prop :=
  ∃ field, tree.Lays names field ∧ told field x

/-- A text. -/
def Text (tree : Raw) (s : String) : Prop :=
  tree = .string (some s)

/-- Any value. -/
def Value (tree : Raw) (v : Json) : Prop :=
  tree.value? = some v

/-- One of a list of names, or an object that binds it to null. -/
def Choice (names : List (String × α)) (tree : Raw) (x : α) : Prop :=
  ∃ s, names.lookup s = some x ∧ (tree = .string (some s) ∨ tree = .object [(some s, .null)])

/-- A natural number of 64 bits. -/
def Count (tree : Raw) (n : Nat) : Prop :=
  ∃ h, tree = .number (some (.int n h))

/-- Something other than null. -/
def Present (told : Raw → α → Prop) (tree : Raw) (x : α) : Prop :=
  tree ≠ .null ∧ told tree x

/-- Null, or something else that says what there is. -/
def Maybe (told : Raw → α → Prop) (tree : Raw) : Option α → Prop
  | none => tree = .null
  | some x => tree.Present told x

/-- A list that says one thing with each item. -/
def Items (told : Raw → α → Prop) (tree : Raw) (xs : List α) : Prop :=
  ∃ items, tree = .array items ∧ List.Forall₂ told items xs

/-- A field that has to be there. -/
def Required (told : Raw → α → Prop) (field : Option Raw) (x : α) : Prop :=
  ∃ tree, field = some tree ∧ told tree x

/-- A field that has a value of its own when it is missing. -/
def Defaulted (absent : α) (told : Raw → α → Prop) : Option Raw → α → Prop
  | none, x => x = absent
  | some tree, x => told tree x

end Raw

/-- A reader succeeds with exactly what trees say. -/
def ReadsAs (read : Raw → Decode α) (told : Raw → α → Prop) : Prop :=
  ∀ tree x, read tree = .ok x ↔ told tree x

/-- A reader succeeds with what it succeeds with. -/
theorem ReadsAs.self (read : Raw → Decode α) : ReadsAs read fun tree x => read tree = .ok x :=
  fun _ _ => Iff.rfl

open Raw (Lays Fields Present Maybe Items Required Defaulted)

/-- A member whose name stands once is the one that is found. -/
theorem Raw.Lays.field_of_mem {names : List String} {field : String → Option Raw}
    {members : List (Option String × Raw)} (h : Lays names field (.object members)) {name : String}
    (hname : name ∈ names) {tree : Raw} (hmem : (some name, tree) ∈ members) :
    field name = some tree := by
  have hlookup : ∀ ms : List (Option String × Raw),
      ms.countP (fun m => m.1 == some name) ≤ 1 → (some name, tree) ∈ ms →
        ms.lookup (some name) = some tree := by
    intro ms
    induction ms with
    | nil => simp
    | cons m ms ih =>
      intro honce hm
      obtain ⟨key, x⟩ := m
      by_cases heq : key = some name
      · subst heq
        have hrest : ms.countP (fun m => m.1 == some name) = 0 := by simpa using honce
        rcases List.mem_cons.mp hm with hfirst | hlater
        · cases hfirst
          simp
        · exact absurd hlater fun hlater => by
            simpa using List.countP_eq_zero.mp hrest _ hlater
      · have hne : (some name == key) = false := by simpa using Ne.symm heq
        rcases List.mem_cons.mp hm with hfirst | hlater
        · cases hfirst
          exact absurd rfl heq
        · rw [List.lookup_cons, hne]
          refine ih ?_ hlater
          simpa [heq] using honce
  obtain ⟨-, honce, hfield⟩ := h
  rw [hfield, if_pos hname]
  exact hlookup members (honce name hname) hmem

/-! ## Single values -/

theorem readsAs_text : ReadsAs Raw.text Raw.Text := by
  intro tree s
  unfold Raw.text Raw.Text
  split <;> simp_all

theorem readsAs_any : ReadsAs Raw.any Raw.Value := by
  intro tree v
  unfold Raw.any Raw.Value
  split <;> simp_all

theorem readsAs_choice (names : List (String × α)) :
    ReadsAs (Raw.choice names) (Raw.Choice names) := by
  have hpick : ∀ s x, Raw.choice.pick names s = .ok x ↔ names.lookup s = some x := fun s x => by
    unfold Raw.choice.pick
    cases names.lookup s <;> simp
  intro tree x
  unfold Raw.choice Raw.Choice
  split <;> simp_all

theorem readsAs_nat64 : ReadsAs Raw.nat64 Raw.Count := by
  intro tree n
  unfold Raw.nat64 Raw.integer Raw.Count
  split
  · next i h =>
    have hcount : (∃ h', Raw.number (some (.int i h)) = .number (some (.int (n : Int) h'))) ↔
        i = n := by
      constructor
      · rintro ⟨_, heq⟩
        cases heq
        rfl
      · rintro rfl
        exact ⟨h, rfl⟩
    have hrange := h.2
    rw [hcount]
    by_cases hi : 0 ≤ i ∧ i ≤ 0xffffffffffffffff
    · rw [if_pos hi]
      change Except.ok i.toNat = .ok n ↔ _
      rw [Except.ok.injEq]
      omega
    · rw [if_neg hi]
      refine iff_of_false nofun ?_
      omega
  · next hother =>
    refine iff_of_false nofun ?_
    rintro ⟨h, rfl⟩
    exact hother _ _ rfl

section Composed

variable {read : Raw → Decode α} {told : Raw → α → Prop} (h : ReadsAs read told)

include h

theorem ReadsAs.optional : ReadsAs (Raw.optional read) (Maybe told) := by
  intro tree x
  by_cases hnull : tree = .null
  · subst hnull
    cases x <;> simp [Raw.optional, Maybe, Present]
  · have hread : Raw.optional read tree = (read tree).map some := by
      unfold Raw.optional
      split
      · exact absurd rfl hnull
      · rfl
    rw [hread]
    cases x with
    | none => cases read tree <;> simp [Maybe, hnull, Except.map]
    | some x =>
      rw [Maybe, Present, ← h tree x]
      cases read tree <;> simp [hnull, Except.map]

theorem ReadsAs.list : ReadsAs (Raw.list read) (Items told) := by
  have heach : ∀ items xs, Raw.each read items = .ok xs ↔ List.Forall₂ told items xs := by
    intro items
    induction items with
    | nil => intro xs; cases xs <;> simp [Raw.each]
    | cons tree items ih =>
      intro xs
      cases xs with
      | nil => cases hread : read tree <;> cases hrest : Raw.each read items <;>
          simp [Raw.each, hread, hrest, Except.map]
      | cons x xs =>
        rw [List.forall₂_cons, ← h tree x, ← ih]
        cases hread : read tree <;> cases hrest : Raw.each read items <;>
          simp [Raw.each, hread, hrest, Except.map]
  intro tree xs
  unfold Raw.list Items
  split <;> simp_all

end Composed

/-! ## Records -/

namespace Record

/-- The tree of a field. -/
def field (r : Record) (name : String) : Option Raw :=
  (r.find? name).map (·.2)

/-- A scan is flawless if all names are texts and no declared name is met twice. -/
theorem scan_flawless_iff {names : List String} {position : Nat} {met : List (String × Nat × Raw)}
    {members : List (Option String × Raw)}
    (hmet : ∀ name ∈ names, met.countP (fun f => f.1 == name) ≤ 1) :
    (scan names position met members).2 = none ↔
      (∀ m ∈ members, m.1 ≠ none) ∧ ∀ name ∈ names,
        met.countP (fun f => f.1 == name) + members.countP (fun m => m.1 == some name) ≤ 1 := by
  induction members generalizing position met with
  | nil => simpa [scan] using hmet
  | cons m members ih =>
    obtain ⟨_ | key, x⟩ := m
    · simp [scan]
    rw [scan]
    by_cases hkey : key ∈ names
    · by_cases hseen : met.any (·.1 == key) = true
      · have hcount : 0 < met.countP (fun f => f.1 == key) := by
          obtain ⟨f, hf, hfkey⟩ := List.any_eq_true.mp hseen
          exact List.countP_pos_iff.mpr ⟨f, hf, hfkey⟩
        rw [if_pos hkey, if_pos hseen]
        refine iff_of_false (Option.some_ne_none _) fun hall => ?_
        have htwice := hall.2 key hkey
        simp at htwice
        omega
      · have hnone : met.countP (fun f => f.1 == key) = 0 := by
          exact List.countP_eq_zero.mpr fun f hf hfkey =>
            hseen (List.any_eq_true.mpr ⟨f, hf, hfkey⟩)
        have hsum : ∀ name, ((key, position, x) :: met).countP (fun f => f.1 == name) +
            members.countP (fun m => m.1 == some name) =
            met.countP (fun f => f.1 == name) +
              ((some key, x) :: members).countP (fun m => m.1 == some name) := fun name => by
          by_cases heq : key = name
          · simp [heq]
            omega
          · simp [heq]
        have hmet' : ∀ name ∈ names,
            ((key, position, x) :: met).countP (fun f => f.1 == name) ≤ 1 := fun name hname => by
          by_cases heq : key = name
          · subst heq
            simp [hnone]
          · simpa [heq] using hmet name hname
        rw [if_pos hkey, if_neg hseen, ih hmet']
        simp only [hsum, List.forall_mem_cons, ne_eq, reduceCtorEq, not_false_eq_true, true_and]
    · have hsame : ∀ name ∈ names, ((some key, x) :: members).countP (fun m => m.1 == some name) =
          members.countP (fun m => m.1 == some name) := fun name hname => by
        have hne : key ≠ name := fun heq => hkey (heq ▸ hname)
        simp [hne]
      rw [if_neg hkey, ih hmet]
      simp +contextual only [hsame, List.forall_mem_cons, ne_eq, reduceCtorEq, not_false_eq_true,
        true_and]

/-- The items of a list are met in turn under the declared names. -/
theorem find?_of_assign (names : List String) (items : List Raw) (position : Nat) (name : String) :
    ((assign position names items).1.find? (·.1 == name)).map (·.2.2) =
      (names.zip items).lookup name := by
  induction items generalizing names position with
  | nil => simp [assign]
  | cons x xs ih =>
    cases names with
    | nil => simp [assign]
    | cons key names =>
      by_cases heq : key = name
      · simp [assign, heq]
      · have hne : (name == key) = false := by simpa using Ne.symm heq
        simp [assign, heq, List.lookup_cons, hne, ih]

theorem assign_flawless_iff {names : List String} {items : List Raw} {position : Nat} :
    (assign position names items).2 = none ↔ items.length ≤ names.length := by
  induction items generalizing names position with
  | nil => simp [assign]
  | cons x xs ih =>
    cases names with
    | nil => simp [assign]
    | cons key names => simp [assign, ih]

/-- The fields that a tree lays out are those of the record it is laid open as, if that has no
flaw. -/
theorem lays_iff {names : List String} {tree : Raw} {field : String → Option Raw} :
    tree.Lays names field ↔ ∃ r, «open» names tree = .ok r ∧ r.flaw = none ∧ field = r.field := by
  cases tree with
  | object members =>
    have hflaw : (scan names 0 [] members).2 = none ↔ _ := scan_flawless_iff (by simp)
    rcases hscan : scan names 0 [] members with ⟨fields, flaw⟩
    rw [hscan] at hflaw
    simp only [«open», hscan, Except.ok.injEq, exists_eq_left', hflaw, Lays, and_assoc,
      List.countP_nil, Nat.zero_add]
    refine and_congr_right fun hnames => and_congr_right fun honce => ?_
    have hfields : flaw = none := hflaw.mpr ⟨hnames, by simpa using honce⟩
    rw [funext_iff]
    refine forall_congr' fun name => ?_
    have hfind := find?_of_scan (hfields ▸ hscan) name
    rw [Record.field, Record.find?, Option.map_map]
    exact Eq.congr_right (hfind.trans (by simp)).symm
  | array items =>
    have hflaw : (assign 0 names items).2 = none ↔ _ := assign_flawless_iff
    have hfind := find?_of_assign names items 0
    rcases hassign : assign 0 names items with ⟨fields, flaw⟩
    rw [hassign] at hflaw hfind
    simp only [«open», hassign, Except.ok.injEq, exists_eq_left', hflaw, Lays]
    refine and_congr_right fun hshort => ?_
    rw [funext_iff]
    refine forall_congr' fun name => ?_
    rw [Record.field, Record.find?, Option.map_map, ← hfind name]
    rfl
  | _ => simp [«open», Lays]

variable {r : Record} {names : List String} {name : String} {x absent : α} {read : Raw → Decode α}
  {told : Raw → α → Prop}

theorem readAt_eq_ok_iff (h : ReadsAs read told) (f : Nat × Raw) :
    readAt read f = .ok x ↔ told f.2 x := by
  rw [← h f.2 x, readAt]
  cases read f.2 with
  | error e => simp
  | ok y => exact ⟨fun heq => congrArg Except.ok (Except.ok.inj heq),
      fun heq => congrArg Except.ok (Except.ok.inj heq)⟩

theorem required_eq_ok_iff (h : ReadsAs read told) :
    r.required name read = .ok x ↔ Required told (r.field name) x := by
  unfold required field Required
  cases r.find? name with
  | none => exact iff_of_false nofun nofun
  | some f => simp [readAt_eq_ok_iff h]

theorem orElse_eq_ok_iff (h : ReadsAs read told) :
    r.orElse name absent read = .ok x ↔ Defaulted absent told (r.field name) x := by
  unfold orElse field
  cases r.find? name with
  | none => exact ⟨fun heq => (Except.ok.inj heq).symm, fun heq => congrArg Except.ok heq.symm⟩
  | some f => exact readAt_eq_ok_iff h f

/-- A field that may be null or missing is read as something if it is there and says so. -/
theorem nullable_eq_ok_some_iff (h : ReadsAs read told) :
    r.nullable name (Raw.optional read) = .ok (some x) ↔
      Required (Present told) (r.field name) x := by
  unfold nullable field Required
  cases r.find? name with
  | none => cases hnamed : r.named <;> exact iff_of_false nofun nofun
  | some f => simp [readAt_eq_ok_iff h.optional, Maybe]

end Record

/-- A record is read as what its fields say, as soon as the fields are. -/
theorem Record.read_eq_ok_iff {names : List String} {build : Record → Reading α} {x : α}
    {told : (String → Option Raw) → Prop} (h : ∀ r, build r = .ok x ↔ told r.field) (tree : Raw) :
    Record.read names build tree = .ok x ↔ ∃ field, tree.Lays names field ∧ told field := by
  have hsound : ∀ r : Record, r.sound = .ok () ↔ r.flaw = none := fun r => by
    unfold sound
    cases r.flaw with
    | none => exact iff_of_true rfl rfl
    | some f => exact iff_of_false nofun nofun
  simp only [Record.lays_iff]
  unfold Record.read
  constructor
  · intro hread
    cases hopen : «open» names tree with
    | error e =>
      rw [hopen] at hread
      cases hread
    | ok r =>
      rw [hopen] at hread
      obtain ⟨f, y, hf, hy, rfl⟩ := Reading.seq_eq_ok_iff.mp (Reading.outcome_eq_ok_iff.mp hread)
      obtain ⟨z, hz, rfl⟩ := Reading.map_eq_ok_iff.mp hf
      exact ⟨r.field, ⟨r, rfl, (hsound r).mp hy, rfl⟩, (h r).mp hz⟩
  · rintro ⟨_, ⟨r, hopen, hflaw, rfl⟩, htold⟩
    rw [hopen]
    refine Reading.outcome_eq_ok_iff.mpr (Reading.seq_eq_ok_iff.mpr
      ⟨_, (), Reading.map_eq_ok_iff.mpr ⟨x, (h r).mpr htold, rfl⟩, (hsound r).mpr hflaw, rfl⟩)

theorem ReadsAs.record {names : List String} {build : Record → Reading α}
    {told : (String → Option Raw) → α → Prop} (h : ∀ r x, build r = .ok x ↔ told r.field x) :
    ReadsAs (Record.read names build) (Fields names told) :=
  fun tree x => Record.read_eq_ok_iff (fun r => h r x) tree

/-! ## Members of objects -/

theorem rawMembers_eq_map (members : List (String × Json)) :
    rawMembers members = members.map fun m => (some m.1, m.2.raw) := by
  induction members with
  | nil => rfl
  | cons m members ih => rw [rawMembers, ih, List.map_cons]

theorem raw_eq_null_iff {v : Json} : v.raw = .null ↔ v = .null := by
  cases v <;> simp [raw]

theorem raw_eq_string_iff {v : Json} {s : String} :
    v.raw = .string (some s) ↔ v = .string s := by
  cases v <;> simp [raw]

namespace Raw

/-- An object of different names lays out its members. -/
theorem fields_rawMembers_iff {names : List String} {told : (String → Option Raw) → α → Prop}
    {members : List (String × Json)} (hnodup : (members.map Prod.fst).Nodup) {x : α} :
    Fields names told (.object (rawMembers members)) x ↔
      told (fun name => if name ∈ names then (memberOf name members).map raw else none) x := by
  have hnames : ∀ m ∈ rawMembers members, m.1 ≠ none := by
    rw [rawMembers_eq_map]
    exact List.forall_mem_map.mpr fun m _ => Option.some_ne_none m.1
  have honce : ∀ name ∈ names, (rawMembers members).countP (fun m => m.1 == some name) ≤ 1 := by
    intro name _
    rw [rawMembers_eq_map, List.countP_map]
    have hcount := List.nodup_iff_count_le_one.mp hnodup name
    rw [List.count, List.countP_map] at hcount
    simpa [Function.comp_def] using hcount
  simp only [Fields, Lays, Record.lookup_rawMembers]
  constructor
  · rintro ⟨field, ⟨-, -, hfield⟩, htold⟩
    rwa [← funext hfield]
  · exact fun htold => ⟨_, ⟨hnames, honce, fun _ => rfl⟩, htold⟩

variable {member : Option Json}

theorem required_text_iff {s : String} :
    Required Text (member.map raw) s ↔ member = some (.string s) := by
  simp [Required, Text, Option.map_eq_some_iff, raw_eq_string_iff]

theorem defaulted_text_iff {o : Option String} :
    Defaulted none (Maybe Text) (member.map raw) o ↔ member.getD .null = ofText? o := by
  cases member with
  | none => cases o <;> simp [Defaulted, ofText?]
  | some v => cases v <;> cases o <;> simp [Defaulted, Maybe, Present, Text, ofText?, raw]

/-- A field of any value is what the object holds, but a null stands for nothing. -/
theorem defaulted_value_iff (h : ∀ v, member = some v → v.Ordered) {o : Option Json} :
    Defaulted none (Maybe Value) (member.map raw) o ↔
      member.getD .null = o.getD .null ∧ o ≠ some .null := by
  cases member with
  | none => cases o <;> simp [Defaulted, eq_comm]
  | some v =>
    have hvalue := (h v rfl).value?_raw
    cases o with
    | none => simp [Defaulted, Maybe, raw_eq_null_iff]
    | some w =>
      simp only [Option.map_some, Defaulted, Maybe, Present, Value, ne_eq, raw_eq_null_iff, hvalue,
        Option.some.injEq, Option.getD_some]
      constructor
      · rintro ⟨hne, rfl⟩
        exact ⟨rfl, hne⟩
      · rintro ⟨rfl, hne⟩
        exact ⟨hne, rfl⟩

end Raw

end Rulebook.Json
