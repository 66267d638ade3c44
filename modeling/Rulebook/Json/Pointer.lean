import Rulebook.Json.Basic

/-!
# JSON pointers

A pointer is empty, or a sequence of tokens each after a slash. In a token `~1` stands for a slash
and `~0` for a tilde. A token names a member of an object, or an item of a list by its place, which
is written without a plus sign and without leading zeros.
-/

namespace Rulebook.Json

/-- A token with its escapes undone, the slash first. -/
def unescapeToken : List Char → List Char
  | '~' :: '1' :: rest => '/' :: unescapeToken rest
  | '~' :: '0' :: rest => '~' :: unescapeToken rest
  | c :: rest => c :: unescapeToken rest
  | [] => []

/-- The place a token names in a list. -/
def indexOf? (token : List Char) : Option Nat :=
  match token with
  | [] => none
  | '0' :: _ :: _ => none
  | _ => if token.all Char.isDigit then some (Number.naturalOf token) else none

/-- The value one token further down. -/
def child? (v : Json) (token : List Char) : Option Json :=
  match v with
  | .object members => memberOf (String.ofList token) members
  | .array items => (indexOf? token).bind (items[·]?)
  | _ => none

/-- The value a pointer names. -/
def pointer? (v : Json) (pointer : String) : Option Json :=
  match pointer.toList with
  | [] => some v
  | '/' :: rest =>
    (rest.splitOn '/').foldl
      (fun at? token => at?.bind fun here => here.child? (unescapeToken token)) (some v)
  | _ => none

end Rulebook.Json
