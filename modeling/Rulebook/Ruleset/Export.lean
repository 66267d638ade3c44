import Rulebook.Ruleset.Basic
import Rulebook.Digest.Sha256
import Rulebook.Digest.Text
import Rulebook.Text.LowerCase
import Rulebook.Text.Tsv
import Rulebook.Text.Utf8

/-!
# Exports

A ruleset is exported as a table of tab-separated values. It can be fetched without a login under
an address made of a digest of the project and ruleset ids, which nobody can guess. A rule is a
block of rows, one for each condition, and a rule without conditions is left out and takes no
number.
-/

namespace Rulebook.Export

/-- What the address of an export is the digest of. -/
def preimage (projectId rulesetId : String) : List UInt8 :=
  Text.Utf8.encode (projectId ++ ":" ++ rulesetId)

/-- The public name of the export of a ruleset. -/
def hash (projectId rulesetId : String) : String :=
  Digest.base64Url (Digest.Sha256.digest (preimage projectId rulesetId))

/-- The public name of the export of a ruleset. -/
def hashOf (r : Ruleset) : String :=
  hash r.projectId r.id

/-- The address of the export of a ruleset. -/
def url (r : Ruleset) : String :=
  "/r/" ++ hashOf r ++ "/tsv"

/-- A blank as an underscore. -/
def underscore (c : Char) : Char :=
  if c = ' ' then '_' else c

/-- The file name of an export: the ruleset's name in lower case, blanks as underscores. -/
def fileName (rulesetName : String) : String :=
  let stem := Text.trim rulesetName
  let stem := if stem = "" then "ruleset" else stem
  Text.lowerCase (String.ofList (stem.toList.map underscore)) ++ ".tsv"

/-- The headings of the columns. -/
def header : List String :=
  ["Rule Number", "Logic", "Property Name", "Predicate", "Value", "Report Severity", "Message"]

/-- How the condition at `index` of `count` is joined to those before it. -/
def logic (index count : Nat) : String :=
  if index = 0 then "WHERE" else if index + 1 = count then "CHECK" else "AND"

/-- The row of the condition at `index` of a rule of `count` conditions. -/
def conditionRow (number count index : Nat) (message : String) (c : Condition) : List String :=
  let last := index + 1 = count
  [if index = 0 then String.ofList (Decimal.digitsOf number) else "", logic index count,
    c.propertyName, c.predicate, c.value.display, if last then "Error" else "",
    if last then message else ""]

/-- The rows from a condition on. -/
def rowsFrom (number count : Nat) (message : String) (index : Nat) :
    List Condition → List (List String)
  | [] => []
  | c :: rest =>
    conditionRow number count index message c :: rowsFrom number count message (index + 1) rest

/-- The rows of rules that have conditions, numbered from `number` on. -/
def blocks (number : Nat) : List Rule → List (List String)
  | [] => []
  | r :: rest =>
    rowsFrom number r.conditions.length r.message 0 r.conditions ++ blocks (number + 1) rest

/-- The rows of an export, the headings first. -/
def rows (rules : List Rule) : List (List String) :=
  header :: blocks 1 (rules.filter fun r => !r.conditions.isEmpty)

/-- The export of rules. -/
def tsv (rules : List Rule) : Except Text.Tsv.UnevenRows String :=
  Text.Tsv.write (rows rules)

end Rulebook.Export
