/-!
# Tab-separated values

A table is written row by row, cells parted by a tab and rows ended by a line feed. A cell that
holds a tab, a quote or a line end is put in quotes, and a quote in it is written twice; so is the
only cell of a row when it is empty. All rows have as many cells as the first, or the table is
refused. `read` takes such a text back to the table.
-/

namespace Rulebook.Text.Tsv

/-- A character that makes quotes necessary. -/
def isSpecial (c : Char) : Bool :=
  c = '\t' || c = '"' || c = '\n' || c = '\r'

/-- The characters of a cell inside quotes. -/
def double : List Char → List Char
  | [] => []
  | c :: rest => if c = '"' then '"' :: '"' :: double rest else c :: double rest

/-- One cell. -/
def cell (cs : List Char) : List Char :=
  if cs.any isSpecial then '"' :: (double cs ++ ['"']) else cs

/-- One row with its end. -/
def row (cells : List String) : List Char :=
  if cells = [""] then ['"', '"', '\n']
  else ['\t'].intercalate (cells.map fun s => cell s.toList) ++ ['\n']

/-- Why a table is refused: a row has another number of cells than the first. -/
structure UnevenRows where
  expected : Nat
  found : Nat
deriving DecidableEq, Repr

/-- A table, if its rows are all as long as the first. -/
def write (rows : List (List String)) : Except UnevenRows String :=
  let expected := (rows.headD []).length
  match rows.find? fun cells => cells.length ≠ expected with
  | some cells => .error ⟨expected, cells.length⟩
  | none => .ok (String.ofList (rows.flatMap row))

/-- Where a reader stands: before a cell, inside a bare or a quoted one, or after a quote that ends
the cell unless another follows. -/
inductive Mode where
  | start
  | bare
  | quoted
  | afterQuote
deriving DecidableEq, Repr

/-- Reading on from a mode, with the cell, the row and the rows so far in reverse. -/
def readFrom (mode : Mode) (cellSoFar : List Char) (rowSoFar : List String)
    (rows : List (List String)) : List Char → Option (List (List String))
  | [] =>
    match mode with
    | .start => if rowSoFar.isEmpty then some rows.reverse else none
    | _ => none
  | c :: rest =>
    let ended := String.ofList cellSoFar.reverse
    match mode with
    | .quoted =>
      if c = '"' then readFrom .afterQuote cellSoFar rowSoFar rows rest
      else readFrom .quoted (c :: cellSoFar) rowSoFar rows rest
    | .afterQuote =>
      if c = '"' then readFrom .quoted (c :: cellSoFar) rowSoFar rows rest
      else if c = '\t' then readFrom .start [] (ended :: rowSoFar) rows rest
      else if c = '\n' then readFrom .start [] [] ((ended :: rowSoFar).reverse :: rows) rest
      else none
    | _ =>
      if c = '\t' then readFrom .start [] (ended :: rowSoFar) rows rest
      else if c = '\n' then readFrom .start [] [] ((ended :: rowSoFar).reverse :: rows) rest
      else if c = '"' then
        if mode = .start then readFrom .quoted [] rowSoFar rows rest else none
      else if c = '\r' then none
      else readFrom .bare (c :: cellSoFar) rowSoFar rows rest

/-- The table a text was written from, if it is in the written form. -/
def read (s : String) : Option (List (List String)) :=
  readFrom .start [] [] [] s.toList

end Rulebook.Text.Tsv
