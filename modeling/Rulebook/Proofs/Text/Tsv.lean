import Rulebook.Text.Tsv

/-!
# Tables read back from their text

A table whose rows are as long as the first is written, and its text is read as that table again
(`read_of_write`), whatever the cells hold. The reader goes from mode to mode; each lemma reads one
piece of the written form and says in which mode it leaves the reader, with the rest of the text
left open. So a tab, a quote or a line end inside a cell can neither end the cell nor begin one.
-/

namespace Rulebook.Text.Tsv

variable {cellSoFar cs rest : List Char} {rowSoFar : List String} {rows : List (List String)}

/-- A mode in which the reader has the whole cell as soon as a tab or a line feed comes. -/
def Mode.Closes (mode : Mode) : Prop :=
  mode ≠ .quoted

section

attribute [local simp] readFrom

/-- A tab ends the cell. -/
theorem readFrom_tab {mode : Mode} (h : mode.Closes) :
    readFrom mode cellSoFar rowSoFar rows ('\t' :: rest) =
      readFrom .start [] (String.ofList cellSoFar.reverse :: rowSoFar) rows rest := by
  cases mode with
  | quoted => exact absurd rfl h
  | start | bare | afterQuote => simp

/-- A line feed ends the cell and its row. -/
theorem readFrom_lineFeed {mode : Mode} (h : mode.Closes) :
    readFrom mode cellSoFar rowSoFar rows ('\n' :: rest) =
      readFrom .start [] []
        ((String.ofList cellSoFar.reverse :: rowSoFar).reverse :: rows) rest := by
  cases mode with
  | quoted => exact absurd rfl h
  | start | bare | afterQuote => simp

end

/-! ## Cells -/

theorem ne_of_isSpecial_eq_false {c : Char} (h : isSpecial c = false) :
    c ≠ '\t' ∧ c ≠ '"' ∧ c ≠ '\n' ∧ c ≠ '\r' := by
  simpa [isSpecial, and_assoc] using h

/-- A character that needs no quotes is read as it stands. -/
theorem readFrom_plain {mode : Mode} {c : Char} (hmode : mode = .start ∨ mode = .bare)
    (h : isSpecial c = false) :
    readFrom mode cellSoFar rowSoFar rows (c :: rest) =
      readFrom .bare (c :: cellSoFar) rowSoFar rows rest := by
  obtain ⟨htab, hquote, hfeed, hreturn⟩ := ne_of_isSpecial_eq_false h
  rcases hmode with rfl | rfl <;> simp [readFrom, htab, hquote, hfeed, hreturn]

theorem readFrom_bare (h : ∀ c ∈ cs, isSpecial c = false) :
    readFrom .bare cellSoFar rowSoFar rows (cs ++ rest) =
      readFrom .bare (cs.reverse ++ cellSoFar) rowSoFar rows rest := by
  induction cs generalizing cellSoFar with
  | nil => rfl
  | cons c cs ih =>
    rw [List.cons_append, readFrom_plain (.inr rfl) (h c List.mem_cons_self),
      ih fun d hd => h d (List.mem_cons_of_mem _ hd)]
    simp

/-- Inside quotes every character is read as it stands, and two quotes as one. -/
theorem readFrom_double :
    readFrom .quoted cellSoFar rowSoFar rows (double cs ++ rest) =
      readFrom .quoted (cs.reverse ++ cellSoFar) rowSoFar rows rest := by
  induction cs generalizing cellSoFar with
  | nil => rfl
  | cons c cs ih =>
    have := @ih (c :: cellSoFar)
    by_cases hquote : c = '"' <;> simp_all [double, readFrom]

/-- A written cell is read up to the place where a tab or a line feed has to come. -/
theorem readFrom_cell (rowSoFar : List String) (rows : List (List String)) (cs rest : List Char) :
    ∃ mode : Mode, mode.Closes ∧
      readFrom .start [] rowSoFar rows (cell cs ++ rest) =
        readFrom mode cs.reverse rowSoFar rows rest := by
  unfold cell
  split
  · refine ⟨.afterQuote, Mode.noConfusion, ?_⟩
    have hopen : readFrom .start [] rowSoFar rows ('"' :: (double cs ++ '"' :: rest)) =
        readFrom .quoted [] rowSoFar rows (double cs ++ '"' :: rest) := by
      simp [readFrom]
    rw [List.cons_append, List.append_assoc, List.singleton_append, hopen, readFrom_double]
    simp [readFrom]
  · next hplain =>
    have hplain : ∀ c ∈ cs, isSpecial c = false := by simpa using hplain
    cases cs with
    | nil => exact ⟨.start, Mode.noConfusion, rfl⟩
    | cons c cs =>
      refine ⟨.bare, Mode.noConfusion, ?_⟩
      rw [List.cons_append, readFrom_plain (.inl rfl) (hplain c List.mem_cons_self),
        readFrom_bare fun d hd => hplain d (List.mem_cons_of_mem _ hd), List.reverse_cons]

/-! ## Rows -/

/-- The cells of a row, parted by tabs, and its end are read as the row. -/
theorem readFrom_cells (first : String) (cells : List String) :
    readFrom .start [] rowSoFar rows
      (['\t'].intercalate ((first :: cells).map fun s => cell s.toList) ++ '\n' :: rest) =
      readFrom .start [] [] ((rowSoFar.reverse ++ first :: cells) :: rows) rest := by
  induction cells generalizing first rowSoFar with
  | nil =>
    obtain ⟨mode, hcloses, hcell⟩ := readFrom_cell rowSoFar rows
      first.toList ('\n' :: rest)
    simp [List.intercalate, hcell, readFrom_lineFeed hcloses]
  | cons second cells ih =>
    obtain ⟨mode, hcloses, hcell⟩ := readFrom_cell rowSoFar rows
      first.toList
      ('\t' :: (['\t'].intercalate ((second :: cells).map fun s => cell s.toList) ++
        '\n' :: rest))
    have htail := @ih (first :: rowSoFar) second
    simp only [List.map_cons, List.intercalate_cons_cons, List.append_assoc, List.cons_append,
      List.nil_append] at hcell htail ⊢
    rw [hcell, readFrom_tab hcloses, List.reverse_reverse, String.ofList_toList, htail]
    simp

/-- A written row is read as that row. -/
theorem readFrom_row {cells : List String} (h : cells ≠ []) :
    readFrom .start [] [] rows (row cells ++ rest) = readFrom .start [] [] (cells :: rows) rest := by
  unfold row
  split
  · next hempty =>
    subst hempty
    simp [readFrom]
  · obtain ⟨first, cells, rfl⟩ := List.exists_cons_of_ne_nil h
    rw [List.append_assoc, List.singleton_append, readFrom_cells]
    rfl

/-- Written rows are read one after the other. -/
theorem readFrom_rows {table : List (List String)} (h : ∀ cells ∈ table, cells ≠ []) :
    readFrom .start [] [] rows (table.flatMap row) = some (rows.reverse ++ table) := by
  induction table generalizing rows with
  | nil => simp [readFrom]
  | cons cells table ih =>
    rw [List.flatMap_cons, readFrom_row (h cells List.mem_cons_self),
      ih fun c hc => h c (List.mem_cons_of_mem _ hc)]
    simp

/-! ## Tables -/

/-- A table is written exactly if its rows are all as long as the first. -/
theorem write_eq_ok_iff {table : List (List String)} {text : String} :
    write table = .ok text ↔
      (∀ cells ∈ table, cells.length = (table.headD []).length) ∧
        text = String.ofList (table.flatMap row) := by
  unfold write
  dsimp only
  split
  · next cells hfind =>
    have hlength : cells.length ≠ (table.headD []).length := by
      simpa using List.find?_some hfind
    refine iff_of_false (by simp) fun h => ?_
    exact hlength (h.1 cells (List.mem_of_find?_eq_some hfind))
  · next hfind =>
    have hall : ∀ cells ∈ table, cells.length = (table.headD []).length := by
      simpa using hfind
    rw [Except.ok.injEq, eq_comm]
    exact (and_iff_right hall).symm

/-- What was written of a table with cells in every row is read as that table. -/
theorem read_of_write {table : List (List String)} {text : String} (h : write table = .ok text)
    (hcells : ∀ cells ∈ table, cells ≠ []) : read text = some table := by
  obtain ⟨-, rfl⟩ := write_eq_ok_iff.mp h
  rw [read, String.toList_ofList, readFrom_rows hcells]
  rfl

end Rulebook.Text.Tsv
