import Mathlib.Data.List.SplitBy
import Rulebook.Proofs.Text.Tsv
import Rulebook.Ruleset.Export

/-!
# Exports read back

Every list of rules has an export, and nothing that an export shows of them is lost in it. Each rule
that has conditions becomes a block of rows (`IsBlock`), described column by column: the number of
the rule stands in the first row only, severity and message in the last row only, and the second
column says by its words where a block begins and ends. A reader who knows no more than that finds
the blocks again, since a row begins one exactly if its first cell is not empty, and so reads the
rules off the text (`readRules?`). The main statement is `tsv_lossless`.
-/

namespace Rulebook.Export

/-! ## What an export shows -/

/-- What an export shows of a rule: property, predicate and displayed value of every condition, and
the message. -/
structure ShownRule where
  conditions : List (String × String × String)
  message : String
deriving DecidableEq

/-- What an export shows of a rule. -/
def ShownRule.of (r : Rule) : ShownRule :=
  ⟨r.conditions.map fun c => (c.propertyName, c.predicate, c.value.display), r.message⟩

/-- The rules that an export numbers. -/
def numbered (rules : List Rule) : List Rule :=
  rules.filter fun r => !r.conditions.isEmpty

/-- The number of a rule as it is written. -/
def numberText (n : Nat) : String :=
  String.ofList (Decimal.digitsOf n)

/-- The cell of a row in a column. -/
def cellAt (column : Nat) (row : List String) : String :=
  row.getD column ""

/-- What a row shows of its condition. -/
def shownCondition (row : List String) : String × String × String :=
  (cellAt 2 row, cellAt 3 row, cellAt 4 row)

/-! ## Blocks of rows -/

/-- A column with one text in the first row and another in the rows below. -/
def firstThen (first others : String) : Nat → List String
  | 0 => []
  | n + 1 => first :: List.replicate n others

/-- A column with one text in the last row and another in the rows above. -/
def thenLast (others last : String) : Nat → List String
  | 0 => []
  | n + 1 => List.replicate n others ++ [last]

/-- The words that join the conditions of a rule. -/
def logicColumn : Nat → List String
  | 0 => []
  | n + 1 => "WHERE" :: thenLast "AND" "CHECK" n

/-- The rows of a rule of a given number, a row for each condition, column by column. -/
structure IsBlock (number : Nat) (r : Rule) (block : List (List String)) : Prop where
  width : ∀ row ∈ block, row.length = 7
  numbers : block.map (cellAt 0) = firstThen (numberText number) "" block.length
  logic : block.map (cellAt 1) = logicColumn block.length
  shows : block.map shownCondition = (ShownRule.of r).conditions
  severity : block.map (cellAt 5) = thenLast "" "Error" block.length
  message : block.map (cellAt 6) = thenLast "" r.message block.length

section Rows

variable {number count index : Nat} {message : String} {cs : List Condition}
  {column : List String → String} {first others last : String}

@[simp] theorem length_rowsFrom (cs : List Condition) (index : Nat) :
    (rowsFrom number count message index cs).length = cs.length := by
  induction cs generalizing index with
  | nil => rfl
  | cons c cs ih => simp [rowsFrom, ih]

/-- A column whose cells are all the same. -/
theorem map_rowsFrom_const
    (h : ∀ i c, index ≤ i → column (conditionRow number count i message c) = others) :
    (rowsFrom number count message index cs).map column = List.replicate cs.length others := by
  induction cs generalizing index with
  | nil => rfl
  | cons c cs ih =>
    have htail := @ih (index + 1) fun i c hi => h i c (by omega)
    rw [rowsFrom, List.map_cons, h index c (Nat.le_refl _), htail]
    rfl

/-- A column in which the row of the last condition differs from those above. -/
theorem map_rowsFrom_thenLast
    (h : ∀ i c, index ≤ i →
      column (conditionRow number count i message c) = if i + 1 = count then last else others)
    (hcount : index + cs.length = count) :
    (rowsFrom number count message index cs).map column = thenLast others last cs.length := by
  induction cs generalizing index with
  | nil => rfl
  | cons c cs ih =>
    rw [List.length_cons] at hcount
    have htail := @ih (index + 1) (fun i c hi => h i c (by omega)) (by omega)
    rw [rowsFrom, List.map_cons, h index c (Nat.le_refl _), htail]
    cases cs with
    | nil =>
      rw [if_pos (by simpa using hcount)]
      rfl
    | cons d cs =>
      rw [if_neg (by simp at hcount; omega)]
      rfl

/-- A column in which the row of the first condition differs from those below. -/
theorem map_rowsFrom_firstThen
    (h : ∀ i c,
      column (conditionRow number count i message c) = if i = 0 then first else others) :
    (rowsFrom number count message 0 cs).map column = firstThen first others cs.length := by
  cases cs with
  | nil => rfl
  | cons c cs =>
    have htail : (rowsFrom number count message 1 cs).map column =
        List.replicate cs.length others :=
      map_rowsFrom_const fun i c hi => (h i c).trans (if_neg (by omega))
    rw [rowsFrom, List.map_cons, h 0 c, htail]
    rfl

theorem map_rowsFrom_logic (hcount : cs.length = count) :
    (rowsFrom number count message 0 cs).map (cellAt 1) = logicColumn cs.length := by
  cases cs with
  | nil => rfl
  | cons c cs =>
    have htail : (rowsFrom number count message 1 cs).map (cellAt 1) =
        thenLast "AND" "CHECK" cs.length :=
      map_rowsFrom_thenLast (fun i c hi => if_neg (by omega))
        (by rw [← hcount, List.length_cons]; omega)
    rw [rowsFrom, List.map_cons, htail]
    rfl

theorem map_rowsFrom_shown (cs : List Condition) (index : Nat) :
    (rowsFrom number count message index cs).map shownCondition =
      cs.map fun c => (c.propertyName, c.predicate, c.value.display) := by
  induction cs generalizing index with
  | nil => rfl
  | cons c cs ih =>
    rw [rowsFrom, List.map_cons, ih]
    rfl

theorem rowsFrom_congr {ds : List Condition}
    (h : cs.map (fun c => (c.propertyName, c.predicate, c.value.display)) =
      ds.map fun c => (c.propertyName, c.predicate, c.value.display)) :
    rowsFrom number count message index cs = rowsFrom number count message index ds := by
  induction cs generalizing ds index with
  | nil => rw [List.map_eq_nil_iff.mp h.symm]
  | cons c cs ih =>
    obtain ⟨d, ds, rfl, hshown, hrest⟩ := List.map_eq_cons_iff.mp h.symm
    simp only [Prod.mk.injEq] at hshown
    obtain ⟨hproperty, hpredicate, hvalue⟩ := hshown
    rw [rowsFrom, rowsFrom, ih hrest.symm, conditionRow, conditionRow, hproperty, hpredicate,
      hvalue]

theorem length_of_mem_rowsFrom {row : List String}
    (h : row ∈ rowsFrom number count message index cs) : row.length = 7 := by
  induction cs generalizing index with
  | nil => cases h
  | cons c cs ih =>
    rcases List.mem_cons.mp h with rfl | h
    · rfl
    · exact ih h

end Rows

/-- The rows that are written for a rule are its block. -/
theorem isBlock_rowsFrom (number : Nat) (r : Rule) :
    IsBlock number r (rowsFrom number r.conditions.length r.message 0 r.conditions) where
  width _ := length_of_mem_rowsFrom
  numbers := by
    rw [length_rowsFrom]
    exact map_rowsFrom_firstThen fun _ _ => rfl
  logic := by
    rw [length_rowsFrom]
    exact map_rowsFrom_logic rfl
  shows := map_rowsFrom_shown _ _
  severity := by
    rw [length_rowsFrom]
    exact map_rowsFrom_thenLast (fun _ _ _ => rfl) (Nat.zero_add _)
  message := by
    rw [length_rowsFrom]
    exact map_rowsFrom_thenLast (fun _ _ _ => rfl) (Nat.zero_add _)

/-! ## Reading rules off a table -/

/-- Whether a row goes on with the block of the row above. -/
def goesOn (_ row : List String) : Bool :=
  cellAt 0 row = ""

/-- What a block of rows says of its rule. -/
def ShownRule.ofBlock (block : List (List String)) : ShownRule :=
  ⟨block.map shownCondition, (block.map (cellAt 6)).getLastD ""⟩

/-- The rules that the text of an export shows, if it has the headings of one. -/
def readRules? (text : String) : Option (List ShownRule) :=
  match Text.Tsv.read text with
  | some (heading :: body) =>
    if heading = header then some ((body.splitBy goesOn).map ShownRule.ofBlock) else none
  | _ => none

theorem readRules?_of_read {text : String} {body : List (List String)}
    (h : Text.Tsv.read text = some (header :: body)) :
    readRules? text = some ((body.splitBy goesOn).map ShownRule.ofBlock) := by
  rw [readRules?, h]
  exact if_pos rfl

theorem numberText_ne_empty (n : Nat) : numberText n ≠ "" := by
  intro h
  have hdigits : Decimal.digitsOf n = [] := by simpa [numberText] using congrArg String.toList h
  exact Nat.toDigits_ne_nil hdigits

theorem isChain_goesOn (row : List String) {rest : List (List String)}
    (h : ∀ row' ∈ rest, cellAt 0 row' = "") : (row :: rest).IsChain fun a b => goesOn a b := by
  induction rest generalizing row with
  | nil => exact List.isChain_singleton row
  | cons next rest ih =>
    refine List.isChain_cons.mpr ⟨fun row' hrow' => ?_, ih next fun r hr => h r (by simp [hr])⟩
    obtain rfl : next = row' := by simpa using hrow'
    simpa [goesOn] using h next List.mem_cons_self

namespace IsBlock

variable {number : Nat} {r : Rule} {block : List (List String)}

theorem length_eq (h : IsBlock number r block) : block.length = r.conditions.length := by
  simpa [ShownRule.of] using congrArg List.length h.shows

theorem ne_nil (h : IsBlock number r block) (hr : r.conditions ≠ []) : block ≠ [] := by
  intro hnil
  have := h.length_eq
  rw [hnil] at this
  exact hr (List.length_eq_zero_iff.mp this.symm)

/-- A block has one row with a number, and all rows below go on with it. -/
theorem exists_cons (h : IsBlock number r block) (hne : block ≠ []) :
    ∃ row rest, block = row :: rest ∧ cellAt 0 row = numberText number ∧
      ∀ row' ∈ rest, cellAt 0 row' = "" := by
  obtain ⟨row, rest, rfl⟩ := List.exists_cons_of_ne_nil hne
  have hnumbers := h.numbers
  simp only [List.map_cons, List.length_cons, firstThen, List.cons.injEq] at hnumbers
  refine ⟨row, rest, rfl, hnumbers.1, fun row' hrow' => ?_⟩
  have hmem : cellAt 0 row' ∈ rest.map (cellAt 0) := List.mem_map_of_mem hrow'
  rw [hnumbers.2] at hmem
  exact List.eq_of_mem_replicate hmem

/-- The first cells of a block that are not empty: the number of its rule. -/
theorem filter_numbers (h : IsBlock number r block) (hne : block ≠ []) :
    (block.map (cellAt 0)).filter (· ≠ "") = [numberText number] := by
  obtain ⟨row, rest, rfl, hrow, hrest⟩ := h.exists_cons hne
  have hempty : (rest.map (cellAt 0)).filter (· ≠ "") = [] := by
    simpa [List.filter_eq_nil_iff] using hrest
  rw [List.map_cons, hrow, List.filter_cons_of_pos (by simpa using numberText_ne_empty number),
    hempty]

theorem splitBy_goesOn (h : IsBlock number r block) (hne : block ≠ []) :
    block.splitBy goesOn = [block] := by
  obtain ⟨row, rest, rfl, -, hrest⟩ := h.exists_cons hne
  exact List.splitBy_of_isChain hne (isChain_goesOn row hrest)

/-- A block says what an export shows of its rule. -/
theorem ofBlock_eq (h : IsBlock number r block) (hne : block ≠ []) :
    ShownRule.ofBlock block = .of r := by
  have hlast : (block.map (cellAt 6)).getLastD "" = r.message := by
    rw [h.message]
    obtain ⟨row, rest, rfl⟩ := List.exists_cons_of_ne_nil hne
    simp [thenLast]
  rw [ShownRule.ofBlock, h.shows, hlast]
  rfl

end IsBlock

/-! ## All blocks -/

/-- The blocks of rules, numbered from `number` on. -/
def blockList (number : Nat) : List Rule → List (List (List String))
  | [] => []
  | r :: rest =>
    rowsFrom number r.conditions.length r.message 0 r.conditions :: blockList (number + 1) rest

theorem flatten_blockList (number : Nat) (rules : List Rule) :
    (blockList number rules).flatten = blocks number rules := by
  induction rules generalizing number with
  | nil => rfl
  | cons r rules ih => rw [blockList, List.flatten_cons, ih, blocks]

theorem forall₂_blockList (number : Nat) (rules : List Rule) :
    List.Forall₂ (fun (x : Rule × Nat) block => IsBlock x.2 x.1 block) (rules.zipIdx number)
      (blockList number rules) := by
  induction rules generalizing number with
  | nil => exact .nil
  | cons r rules ih => exact .cons (isBlock_rowsFrom number r) (ih (number + 1))

section Blocks

variable {rules : List Rule}

theorem conditions_ne_nil_of_mem_numbered {r : Rule} (h : r ∈ numbered rules) :
    r.conditions ≠ [] := by
  simpa [numbered] using (List.mem_filter.mp h).2

/-- Every row of a table of blocks shows one condition. -/
theorem map_blocks_shown (number : Nat) (rules : List Rule) :
    (blocks number rules).map shownCondition =
      rules.flatMap fun r => (ShownRule.of r).conditions := by
  induction rules generalizing number with
  | nil => rfl
  | cons r rules ih =>
    rw [blocks, List.map_append, (isBlock_rowsFrom number r).shows, ih, List.flatMap_cons]

/-- The numbers in a table of blocks: one for each rule, in order. -/
theorem filter_blocks_numbers (number : Nat) (h : ∀ r ∈ rules, r.conditions ≠ []) :
    ((blocks number rules).map (cellAt 0)).filter (· ≠ "") =
      (List.range' number rules.length).map numberText := by
  induction rules generalizing number with
  | nil => rfl
  | cons r rules ih =>
    have hblock := isBlock_rowsFrom number r
    have hne := hblock.ne_nil (h r List.mem_cons_self)
    rw [blocks, List.map_append, List.filter_append, hblock.filter_numbers hne,
      ih (number + 1) fun r hr => h r (List.mem_cons_of_mem _ hr)]
    rfl

/-- A table of blocks is parted into the blocks again. -/
theorem splitBy_blocks (number : Nat) (h : ∀ r ∈ rules, r.conditions ≠ []) :
    (blocks number rules).splitBy goesOn = blockList number rules := by
  induction rules generalizing number with
  | nil => rfl
  | cons r rules ih =>
    have hblock := isBlock_rowsFrom number r
    have hne := hblock.ne_nil (h r List.mem_cons_self)
    have htail := ih (number + 1) fun r hr => h r (List.mem_cons_of_mem _ hr)
    rw [blocks, List.splitBy_append, hblock.splitBy_goesOn hne, htail]
    · rfl
    · -- the first row of the next rule has a number and so does not go on with this block
      intro last _ row hrow
      cases rules with
      | nil => cases hrow
      | cons next rules =>
        have hnext := isBlock_rowsFrom (number + 1) next
        obtain ⟨first, rest, heq, hfirst, -⟩ := hnext.exists_cons
          (hnext.ne_nil (h next (by simp)))
        obtain rfl : first = row := by simpa [blocks, heq] using hrow
        simpa [goesOn, hfirst] using numberText_ne_empty (number + 1)

theorem map_ofBlock_blockList (number : Nat) (h : ∀ r ∈ rules, r.conditions ≠ []) :
    (blockList number rules).map ShownRule.ofBlock = rules.map ShownRule.of := by
  induction rules generalizing number with
  | nil => rfl
  | cons r rules ih =>
    have hblock := isBlock_rowsFrom number r
    have hne := hblock.ne_nil (h r List.mem_cons_self)
    rw [blockList, List.map_cons, List.map_cons, hblock.ofBlock_eq hne,
      ih (number + 1) fun r hr => h r (List.mem_cons_of_mem _ hr)]

end Blocks

/-! ## The export of any rules -/

theorem length_of_mem_blocks {rules : List Rule} {number : Nat} {row : List String}
    (h : row ∈ blocks number rules) : row.length = 7 := by
  induction rules generalizing number with
  | nil => cases h
  | cons r rules ih =>
    rcases List.mem_append.mp h with h | h
    · exact length_of_mem_rowsFrom h
    · exact ih h

/-- All rows of an export have as many cells as the headings. -/
theorem length_of_mem_rows {rules : List Rule} {row : List String} (h : row ∈ rows rules) :
    row.length = header.length := by
  rcases List.mem_cons.mp h with rfl | h
  · rfl
  · exact length_of_mem_blocks h

/-- The export of any rules is written, and its text is read as the table it was written from. -/
theorem exists_tsv (rules : List Rule) :
    ∃ text, tsv rules = .ok text ∧
      Text.Tsv.read text = some (header :: blocks 1 (numbered rules)) := by
  have hwrite : tsv rules = .ok (String.ofList ((rows rules).flatMap Text.Tsv.row)) :=
    Text.Tsv.write_eq_ok_iff.mpr ⟨fun row hrow => length_of_mem_rows hrow, rfl⟩
  refine ⟨_, hwrite, Text.Tsv.read_of_write hwrite fun row hrow hnil => ?_⟩
  have hlength := length_of_mem_rows hrow
  rw [hnil] at hlength
  cases hlength

theorem map_shown_numbered (rules : List Rule) :
    ((numbered rules).flatMap fun r => (ShownRule.of r).conditions) =
      rules.flatMap fun r => (ShownRule.of r).conditions := by
  induction rules with
  | nil => rfl
  | cons r rules ih =>
    rw [List.flatMap_cons, ← ih]
    cases hr : r.conditions <;> simp [numbered, ShownRule.of, hr]

theorem blocks_congr {rules rules' : List Rule} {number : Nat}
    (h : rules.map ShownRule.of = rules'.map ShownRule.of) :
    blocks number rules = blocks number rules' := by
  induction rules generalizing rules' number with
  | nil => rw [List.map_eq_nil_iff.mp h.symm]
  | cons r rules ih =>
    obtain ⟨r', rules', rfl, hshown, hrest⟩ := List.map_eq_cons_iff.mp h.symm
    obtain ⟨hconditions, hmessage⟩ := ShownRule.mk.inj hshown
    have hlength := congrArg List.length hconditions
    rw [List.length_map, List.length_map] at hlength
    rw [blocks, blocks, ih hrest.symm, hmessage, hlength, rowsFrom_congr hconditions]

theorem map_numbered (rules : List Rule) :
    (numbered rules).map ShownRule.of =
      (rules.map ShownRule.of).filter fun s => !s.conditions.isEmpty := by
  rw [List.filter_map]
  simp only [numbered, ShownRule.of, Function.comp_def, List.isEmpty_map]

/-- An export shows no more of its rules than `ShownRule` says. -/
theorem tsv_congr {rules rules' : List Rule}
    (h : rules.map ShownRule.of = rules'.map ShownRule.of) : tsv rules = tsv rules' := by
  have hblocks : blocks 1 (numbered rules) = blocks 1 (numbered rules') :=
    blocks_congr (by rw [map_numbered, map_numbered, h])
  rw [tsv, tsv, rows, rows]
  exact congrArg (fun table => Text.Tsv.write (header :: table)) hblocks

/-- Any rules whatever have an export. Its text is read as the seven headings and the blocks of the
rules that have conditions, numbered from one on in their order, and these numbers are the only
first cells that are not empty. There is one row for each condition of the rules, and all that an
export shows of rules with conditions can be read off the text. -/
theorem tsv_lossless (rules : List Rule) :
    ∃ text table, tsv rules = .ok text ∧
      Text.Tsv.read text = some (header :: table.flatten) ∧ header.length = 7 ∧
      List.Forall₂ (fun (x : Rule × Nat) block => IsBlock x.2 x.1 block)
        ((numbered rules).zipIdx 1) table ∧
      (table.flatten.map (cellAt 0)).filter (· ≠ "") =
        (List.range' 1 (numbered rules).length).map numberText ∧
      table.flatten.map shownCondition = (rules.flatMap fun r => (ShownRule.of r).conditions) ∧
      readRules? text = some ((numbered rules).map ShownRule.of) := by
  have hne : ∀ r ∈ numbered rules, r.conditions ≠ [] :=
    fun _ => conditions_ne_nil_of_mem_numbered
  obtain ⟨text, hwrite, hread⟩ := exists_tsv rules
  refine ⟨text, blockList 1 (numbered rules), hwrite, ?_, rfl, forall₂_blockList 1 _, ?_, ?_, ?_⟩
  · rw [hread, flatten_blockList]
  · rw [flatten_blockList, filter_blocks_numbers 1 hne]
  · rw [flatten_blockList, map_blocks_shown, map_shown_numbered]
  · have hparted : (blocks 1 (numbered rules)).splitBy goesOn = blockList 1 (numbered rules) :=
      splitBy_blocks 1 hne
    rw [readRules?_of_read hread, hparted, map_ofBlock_blockList 1 hne]

end Rulebook.Export
