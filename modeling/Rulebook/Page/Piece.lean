import Rulebook.Text.Html
import Rulebook.Text.Percent

/-!
# Pages as pieces

A page is a sequence of pieces: fixed text of the page, and holes that are filled with data. What
fills an ordinary hole is escaped, what goes into the query of an address is percent-encoded, and an
address made by this library is set in as it is. Only the fixed text can therefore hold markup.
-/

namespace Rulebook

/-- A piece of a page. -/
inductive Piece where
  | fixed (text : String)
  | text (data : String)
  | query (data : String)
  | address (path : String)
deriving DecidableEq, Repr

/-- What a piece looks like on the page. -/
def Piece.render : Piece → String
  | .fixed s => s
  | .text s => Text.Html.escape s
  | .query s => Text.Percent.encodeStrict s
  | .address s => s

/-- A page. -/
abbrev Page := List Piece

namespace Page

/-- The text of a page. -/
def render (p : Page) : String :=
  String.join (p.map Piece.render)

/-- Fixed text of several lines, the last one without an end. -/
def lines (ls : List String) : Page :=
  [.fixed ("\n".intercalate ls)]

/-- A number in an ordinary hole. -/
def number (n : Nat) : Piece :=
  .text (String.ofList (Nat.toDigits 10 n))

/-- A part that is on the page only under a condition. -/
def when (shown : Bool) (part : Page) : Page :=
  if shown then part else []

/-- A part made of a text that is there and not empty. -/
def ifText (s : Option String) (part : String → Page) : Page :=
  match s with
  | none => []
  | some s => when (s ≠ "") (part s)

/-- One part for each item with its place, or another part where there are no items. -/
def forEach {α : Type} (items : List α) (part : Nat → α → Page) (otherwise : Page) : Page :=
  match items with
  | [] => otherwise
  | items => (items.mapIdx part).flatten

end Page

end Rulebook
