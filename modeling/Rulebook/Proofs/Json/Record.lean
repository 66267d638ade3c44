import Rulebook.Json.Reading

/-!
# Records read back from objects

A record whose members have different, declared names is laid open without loss: every member is
found under its name and no other name is found (`Record.Holds`). So the reader of a record type
gives back the value an object was made of as soon as the reader of each field does
(`decodeWith_read_object`). A list is read back item by item.
-/

namespace Rulebook.Json

namespace Reading

variable {α β : Type}

theorem outcome_eq_ok_iff {x : Reading α} {v : α} : x.outcome = .ok v ↔ x = .ok v := by
  cases x with
  | error f => exact iff_of_false nofun nofun
  | ok y => exact ⟨fun h => congrArg Except.ok (Except.ok.inj h),
      fun h => congrArg Except.ok (Except.ok.inj h)⟩

/-- Two readings are read together where both are read. -/
theorem seq_eq_ok_iff {f : Reading (α → β)} {x : Reading α} {v : β} :
    f <*> x = .ok v ↔ ∃ g y, f = .ok g ∧ x = .ok y ∧ g y = v := by
  constructor
  · intro h
    cases f with
    | error a => cases x <;> cases h
    | ok g =>
      cases x with
      | error b => cases h
      | ok y => exact ⟨g, y, rfl, rfl, Except.ok.inj h⟩
  · rintro ⟨g, y, rfl, rfl, rfl⟩
    rfl

theorem map_eq_ok_iff {f : α → β} {x : Reading α} {v : β} :
    f <$> x = .ok v ↔ ∃ y, x = .ok y ∧ f y = v := by
  refine (seq_eq_ok_iff (f := pure f)).trans ⟨?_, fun ⟨y, hy, hv⟩ => ⟨f, y, rfl, hy, hv⟩⟩
  rintro ⟨g, y, hg, hy, hv⟩
  cases hg
  exact ⟨y, hy, hv⟩

end Reading

namespace Record

/-- A record that was laid open from an object of these members: each is found under its name,
other names are missing, and nothing was wrong with it. -/
structure Holds (r : Record) (members : List (String × Json)) : Prop where
  present : ∀ m ∈ members, ∃ position, r.find? m.1 = some (position, m.2.raw)
  absent : ∀ name, name ∉ members.map Prod.fst → r.find? name = none
  flawless : r.flaw = none

/-- The scan of members with new and different names meets all of them. -/
theorem scan_rawMembers (names : List String) (members : List (String × Json)) (position : Nat)
    (met : List (String × Nat × Raw)) (hnames : ∀ m ∈ members, m.1 ∈ names)
    (hnodup : (members.map Prod.fst).Nodup) (hnew : ∀ m ∈ members, ∀ f ∈ met, f.1 ≠ m.1) :
    ∃ fields, scan names position met (rawMembers members) = (fields, none) ∧
      (∀ m ∈ members, ∃ q, fields.find? (·.1 == m.1) = some (m.1, q, m.2.raw)) ∧
      (∀ name, name ∉ members.map Prod.fst →
        fields.find? (·.1 == name) = met.find? (·.1 == name)) := by
  induction members generalizing position met with
  | nil => exact ⟨met, rfl, by simp, by simp⟩
  | cons m members ih =>
    obtain ⟨key, x⟩ := m
    have hkey : key ∈ names := hnames _ List.mem_cons_self
    have hunmet : met.any (·.1 == key) = false := by
      simpa using fun a b c h => hnew _ List.mem_cons_self (a, b, c) h
    rw [List.map_cons, List.nodup_cons] at hnodup
    obtain ⟨fields, hscan, hfound, hkept⟩ := ih (position + 1) ((key, position, x.raw) :: met)
      (fun m hm => hnames m (List.mem_cons_of_mem _ hm)) hnodup.2 (by
        intro m hm f hf
        rcases List.mem_cons.mp hf with rfl | hf
        · exact fun h => hnodup.1 (List.mem_map.mpr ⟨m, hm, h.symm⟩)
        · exact hnew m (List.mem_cons_of_mem _ hm) f hf)
    refine ⟨fields, ?_, ?_, ?_⟩
    · simpa [rawMembers, scan, hkey, hunmet] using hscan
    · intro m hm
      rcases List.mem_cons.mp hm with rfl | hm
      · exact ⟨position, by rw [hkept key hnodup.1]; simp⟩
      · exact hfound m hm
    · intro name hname
      rw [List.map_cons, List.mem_cons, not_or] at hname
      rw [hkept name hname.2]
      simp [Ne.symm hname.1]

variable {r : Record} {members : List (String × Json)} {name : String} {α : Type} {x : Json}
  {v : α} {read : Raw → Decode α}

/-- A member whose value reads back is read where it is required. -/
theorem Holds.required (h : r.Holds members) (hm : (name, x) ∈ members)
    (hx : decodeWith read x = .ok v) : r.required name read = pure v := by
  obtain ⟨position, hfind⟩ := h.present _ hm
  have hread : read x.raw = .ok v := hx
  simp only [Record.required, hfind, readAt, hread]
  rfl

/-- A member whose value reads back is read where it might be missing. -/
theorem Holds.orElse (h : r.Holds members) (absent : α) (hm : (name, x) ∈ members)
    (hx : decodeWith read x = .ok v) : r.orElse name absent read = pure v := by
  obtain ⟨position, hfind⟩ := h.present _ hm
  have hread : read x.raw = .ok v := hx
  simp only [Record.orElse, hfind, readAt, hread]
  rfl

/-- An object of different, declared members is read as the record its fields are read as. -/
theorem decodeWith_read_object {names : List String} {build : Record → Reading α}
    (hnames : ∀ m ∈ members, m.1 ∈ names) (hnodup : (members.map Prod.fst).Nodup)
    (hbuild : ∀ r : Record, r.Holds members → build r = pure v) :
    decodeWith (Record.read names build) (.object members) = .ok v := by
  obtain ⟨fields, hscan, hfound, hkept⟩ :=
    scan_rawMembers names members 0 [] hnames hnodup (by simp)
  have hholds : Record.Holds ⟨fields, (rawMembers members).length, true, none⟩ members := by
    refine ⟨?_, ?_, rfl⟩
    · intro m hm
      obtain ⟨q, hq⟩ := hfound m hm
      exact ⟨q, by simp [find?, hq]⟩
    · intro name hname
      simp [find?, hkept name hname]
  simp only [decodeWith, raw, Record.read, «open», hscan, hbuild _ hholds]
  rfl

/-! ## What a record was read from -/

/-- A scan without a flaw has met all declared members: those met before and those of the object.
Other names are not met. -/
theorem find?_of_scan {names : List String} {members : List (Option String × Raw)} {position : Nat}
    {met fields : List (String × Nat × Raw)}
    (hscan : scan names position met members = (fields, none)) (name : String) :
    (fields.find? (·.1 == name)).map (·.2.2) =
      ((met.find? (·.1 == name)).map (·.2.2)).or
        (if name ∈ names then members.lookup (some name) else none) := by
  induction members generalizing position met with
  | nil =>
    cases hscan
    simp
  | cons m members ih =>
    obtain ⟨_ | key, x⟩ := m
    · cases hscan
    rw [scan] at hscan
    by_cases hkey : key ∈ names
    · by_cases hmet : met.any (·.1 == key) = true
      · simp [hkey, hmet] at hscan
      · rw [if_pos hkey, if_neg hmet] at hscan
        rw [ih hscan]
        by_cases heq : key = name
        · subst heq
          have hnone : met.find? (·.1 == key) = none := by
            rw [List.find?_eq_none]
            exact fun f hf hfkey => hmet (List.any_eq_true.mpr ⟨f, hf, hfkey⟩)
          simp [hnone, hkey]
        · have hne : (some name == some key) = false := by simpa using Ne.symm heq
          simp [heq, List.lookup_cons, hne]
    · rw [if_neg hkey] at hscan
      rw [ih hscan]
      by_cases hname : name ∈ names
      · have hne : (some name == some key) = false := by
          simpa using fun heq : name = key => hkey (heq ▸ hname)
        simp [hname, List.lookup_cons, hne]
      · simp [hname]

/-- Among members of different names the one that is found is the one that is there. -/
theorem memberOf_eq_some_iff {members : List (String × Json)}
    (hnodup : (members.map Prod.fst).Nodup) {name : String} {x : Json} :
    memberOf name members = some x ↔ (name, x) ∈ members := by
  induction members with
  | nil => simp [memberOf]
  | cons m members ih =>
    obtain ⟨key, y⟩ := m
    rw [List.map_cons, List.nodup_cons] at hnodup
    rw [memberOf, List.mem_cons]
    split
    · next heq =>
      have hlater : (name, x) ∉ members := fun hm =>
        hnodup.1 (heq ▸ List.mem_map.mpr ⟨_, hm, rfl⟩)
      simp [heq, hlater, eq_comm]
    · next hne => simp [ih hnodup.2, Ne.symm hne]

theorem lookup_rawMembers (name : String) (members : List (String × Json)) :
    (rawMembers members).lookup (some name) = (memberOf name members).map raw := by
  induction members with
  | nil => rfl
  | cons m members ih =>
    obtain ⟨key, x⟩ := m
    rw [rawMembers, memberOf, List.lookup_cons]
    by_cases heq : key = name
    · simp [heq]
    · have hne : (some name == some key) = false := by simpa using Ne.symm heq
      simp [heq, hne, ih]

/-- An object that is read as a value holds what the value was built of. -/
theorem of_decodeWith_read_object {names : List String} {build : Record → Reading α}
    (h : decodeWith (Record.read names build) (.object members) = .ok v) :
    ∃ r : Record, build r = .ok v ∧
      ∀ name ∈ names, (r.find? name).map (·.2) = (memberOf name members).map raw := by
  rcases hscan : scan names 0 [] (rawMembers members) with ⟨fields, flaw⟩
  simp only [decodeWith, raw, Record.read, «open», hscan] at h
  obtain ⟨f, y, hf, hsound, rfl⟩ := Reading.seq_eq_ok_iff.mp (Reading.outcome_eq_ok_iff.mp h)
  obtain ⟨z, hz, rfl⟩ := Reading.map_eq_ok_iff.mp hf
  cases flaw with
  | some fault => cases hsound
  | none =>
    refine ⟨_, hz, fun name hname => ?_⟩
    rw [find?, Option.map_map]
    refine (find?_of_scan hscan name).trans ?_
    simp [hname, lookup_rawMembers]

/-- A member that might be missing but is there has the value that was read. -/
theorem decodeWith_of_orElse {absent : α}
    (hfind : (r.find? name).map (·.2) = (memberOf name members).map raw)
    (hx : memberOf name members = some x) (h : r.orElse name absent read = .ok v) :
    decodeWith read x = .ok v := by
  rw [hx, Option.map_some, Option.map_eq_some_iff] at hfind
  obtain ⟨field, hfield, hraw⟩ := hfind
  rw [orElse, hfield] at h
  dsimp only [readAt] at h
  rw [hraw] at h
  cases hread : read x.raw with
  | error e => simp only [hread, reduceCtorEq] at h
  | ok y =>
    simp only [hread] at h
    exact Except.ok.inj h ▸ hread

end Record

theorem decode_text (s : String) : decodeWith Raw.text (.string s) = .ok s :=
  rfl

/-- Items that are read one by one are read as a list. -/
theorem decodeWith_list {α : Type} {read : Raw → Decode α} {write : α → Json} {f : α → α}
    (xs : List α) (h : ∀ x, decodeWith read (write x) = .ok (f x)) :
    decodeWith (Raw.list read) (.array (xs.map write)) = .ok (xs.map f) := by
  change Raw.each read (rawItems (xs.map write)) = .ok (xs.map f)
  induction xs with
  | nil => rfl
  | cons x xs ih =>
    have hx : read (write x).raw = .ok (f x) := h x
    simp only [List.map_cons, rawItems, Raw.each, hx, ih]
    rfl

end Rulebook.Json
