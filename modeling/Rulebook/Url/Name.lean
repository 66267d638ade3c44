import Rulebook.Text.Percent
import Rulebook.Url.Label
import Rulebook.Url.NameTable
import Rulebook.Url.Punycode

/-!
# Names of hosts

A name is read after percent triples are undone and its characters are brought into one form:
capitals become small letters, other forms of a character become the character itself, and the
whole is composed. It is then cut at its points into labels. A label in ASCII disguise stands for
the one it hides, which has to be in that form already and have more than ASCII.
-/

namespace Rulebook.Url.Name

open Rulebook.Text

/-- What a character becomes: nothing, itself or others. Some characters stand in no name. -/
def folded? (c : Char) : Option (List Char) :=
  if NameTable.refused.has c then none
  else if NameTable.ignored.has c then some []
  else
    match NameTable.pairs.row? c, NameTable.mapped.row? c with
    | some r, _ => some [if (c.toNat - r.first) % 2 = 0 then Char.ofNat (c.toNat + 1) else c]
    | none, some ⟨first, _, [code]⟩ => some [Char.ofNat (code + (c.toNat - first))]
    | none, some r => some (r.codes.map Char.ofNat)
    | none, none => some [c]

/-- A text in the form that names have. -/
def form? (cs : List Char) : Option (List Char) :=
  (cs.mapM folded?).map fun parts => composed parts.flatten

/-- An ASCII character that no name has. -/
def isForbidden (c : Char) : Bool :=
  c.toNat ≤ 0x20 || c.toNat == 0x7F ||
    c ∈ ['#', '%', '/', ':', '<', '>', '?', '@', '[', '\\', ']', '^', '|']

/-- Whether a hidden label is one: in the form that names have, and without points. -/
def isHidden (label : List Char) : Bool :=
  label.all (fun c => folded? c = some [c]) && composed label = label &&
    !label.any fun c => c = '.' || isForbidden c

/-- The greatest number of characters of a label in ASCII disguise after its `xn--`. -/
def disguiseLimit : Nat :=
  2000

/-- The label that a part of a name stands for. -/
def label? (part : List Char) : Option (List Char) :=
  match part with
  | 'x' :: 'n' :: '-' :: '-' :: rest =>
    if rest = [] ∨ rest.getLast? = some '-' ∨ Label.isInternational rest ∨
        disguiseLimit < rest.length then none
    else (Punycode.decode? rest).filter isHidden
  | _ => some part

/-- The labels of the name a text stands for, if it is one. -/
def labels? (cs : List Char) : Option (List (List Char)) := do
  let text ← Utf8.decode? (Percent.decode (Utf8.encode (String.ofList cs)))
  let name ← form? text.toList
  if name.any isForbidden then none
  let labels ← (name.splitOn '.').mapM label?
  if labels.all Label.isSound && Label.areDirected labels then some labels else none

end Rulebook.Url.Name
