import Rulebook.Number.Shortest

/-!
# Supplies of ids

New documents get ids from an endless supply of candidates. A supply never dries up: whatever finite
set of ids is taken, a free candidate comes later. So the search for the first free one always ends,
and `firstFree` finds it.

Ids of twenty letters and digits are finitely many, so no endless sequence of these alone is a
supply: where all of them are taken the search would not end. This excludes nothing that happens. A
search that ends has looked at finitely many candidates, and so has a run of such searches; no later
candidate matters to it (`firstFree_congr`), and `startingWith` makes a supply that begins with any
candidates there are. So what is shown for every supply holds of every run in which each document
that is added gets an id.
-/

namespace Rulebook

/-- An endless sequence of candidate ids that outlasts every finite set of taken ones. The ids drawn
in a run are the beginning of one (`startingWith`). -/
structure IdSupply where
  candidate : Nat → String
  fair : ∀ (taken : List String) (start : Nat), ∃ n, start ≤ n ∧ candidate n ∉ taken

namespace IdSupply

/-- One more candidate is drawn because the one before it is taken. -/
def Follows (s : IdSupply) (taken : List String) (m n : Nat) : Prop :=
  m = n + 1 ∧ s.candidate n ∈ taken

/-- Candidates up to a free one are drawn in finitely many steps. -/
theorem acc_of_free (s : IdSupply) (taken : List String) {k : Nat} (hk : s.candidate k ∉ taken) :
    ∀ d n, n + d = k → Acc (s.Follows taken) n
  | 0, n, h => ⟨n, fun _ hm => absurd hm.2 (by
      have : n = k := by omega
      exact this ▸ hk)⟩
  | d + 1, n, h => ⟨n, fun m hm => by
      obtain ⟨rfl, _⟩ := hm
      exact acc_of_free s taken hk d (n + 1) (by omega)⟩

/-- The search for a free candidate ends. -/
theorem follows_wf (s : IdSupply) (taken : List String) : WellFounded (s.Follows taken) :=
  ⟨fun n => by
    obtain ⟨k, hnk, hk⟩ := s.fair taken n
    exact acc_of_free s taken hk (k - n) n (by omega)⟩

/-- The place of the first free candidate from a given place on. -/
def firstFree (s : IdSupply) (taken : List String) : Nat → Nat :=
  (s.follows_wf taken).fix fun start search =>
    if h : s.candidate start ∈ taken then search (start + 1) ⟨rfl, h⟩ else start

/-- The search goes on past a taken candidate and ends at a free one. -/
theorem firstFree_eq (s : IdSupply) (taken : List String) (start : Nat) :
    s.firstFree taken start =
      if s.candidate start ∈ taken then s.firstFree taken (start + 1) else start := by
  rw [firstFree, WellFounded.fix_eq]
  split <;> rfl

/-- The candidate found is free. -/
theorem candidate_firstFree (s : IdSupply) (taken : List String) (start : Nat) :
    s.candidate (s.firstFree taken start) ∉ taken := by
  induction start using (s.follows_wf taken).induction with
  | _ n ih =>
    rw [firstFree_eq]
    split
    · next h => exact ih (n + 1) ⟨rfl, h⟩
    · next h => exact h

/-- The length of an id drawn at random. -/
def idLength : Nat :=
  20

/-- A letter or digit, chosen by a number. -/
def idLetter (n : Nat) : Char :=
  let k := n % 62
  if k < 26 then Char.ofNat ('A'.toNat + k)
  else if k < 52 then Char.ofNat ('a'.toNat + (k - 26))
  else Char.ofNat ('0'.toNat + (k - 52))

/-- The id of random numbers, one for each of its letters and digits. -/
def idOfDraws (draw : Nat → Nat) : String :=
  String.ofList ((List.range idLength).map fun i => idLetter (draw i))

/-- An id made of a label and a number in at least `width` digits. -/
def numberedText (label : String) (width n : Nat) : String :=
  let digits := Decimal.digitsOf n
  label ++ String.ofList (List.replicate (width - digits.length) '0' ++ digits)

/-- A numbered id is at least as long as its number. -/
theorem length_digitsOf_le_numberedText (label : String) (width n : Nat) :
    (Decimal.digitsOf n).length ≤ (numberedText label width n).length := by
  simp [numberedText]
  omega

/-- The length of the texts of a list together. -/
def totalLength : List String → Nat
  | [] => 0
  | t :: ts => t.length + totalLength ts

/-- Every text of a list is at most as long as all of them together. -/
theorem length_le_totalLength (taken : List String) {s : String} (h : s ∈ taken) :
    s.length ≤ totalLength taken := by
  induction taken with
  | nil => simp at h
  | cons t ts ih =>
    rcases List.mem_cons.mp h with rfl | h
    · simp [totalLength]
    · have := ih h
      simp only [totalLength]
      omega

/-- The ids of a list first, and after them numbered ones without end. -/
def startingWith (first : List String) (label : String) (width : Nat) : IdSupply where
  candidate n :=
    match first[n]? with
    | some id => id
    | none => numberedText label width (n + 1)
  fair taken start := by
    obtain ⟨total, htotal⟩ : ∃ n, n = totalLength taken := ⟨_, rfl⟩
    obtain ⟨great, hgreat⟩ : ∃ n, n = Nat.pow 10 (total + 1) := ⟨_, rfl⟩
    rw [Nat.pow_eq] at hgreat
    refine ⟨start + first.length + great, by omega, ?_⟩
    have hnone : first[start + first.length + great]? = none := by simp; omega
    simp only [hnone]
    intro h
    have hle := length_le_totalLength taken h
    have hlong := length_digitsOf_le_numberedText label width (start + first.length + great + 1)
    have hshort : (Decimal.digitsOf (start + first.length + great + 1)).length ≤ total + 1 := by
      omega
    have := (Nat.length_toDigits_le_iff (b := 10) (by decide) (by omega)).mp hshort
    omega

end IdSupply

end Rulebook
