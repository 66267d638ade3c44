import Rulebook.Text.UrlEncoded

/-!
# Targets

The target of a request is a path and, after a question mark, a query; a scheme and a host may
stand before them. A path is matched segment by segment after its percent triples are undone, but
for those of `%`, `/` and `+`; a segment taken as a parameter has the rest of them undone too. A
query field that a reader asks for may stand once.
-/

namespace Rulebook.Http

open Rulebook.Text

/-- A character of a scheme. -/
def isSchemeChar (c : Char) : Bool :=
  c.isAlphanum || c = '+' || c = '-' || c = '.'

/-- A target without the scheme and host before its path. -/
def withoutHost (cs : List Char) : List Char :=
  match cs.dropWhile isSchemeChar with
  | ':' :: '/' :: '/' :: rest =>
    match rest.dropWhile fun c => c ≠ '/' ∧ c ≠ '?' ∧ c ≠ '#' with
    | '/' :: rest => '/' :: rest
    | rest => '/' :: rest
  | _ => cs

/-- A target cut into path and query; a fragment is dropped. -/
def splitTarget (target : String) : List Char × List Char :=
  let cs := (withoutHost target.toList).takeWhile (· ≠ '#')
  (cs.takeWhile (· ≠ '?'), (cs.dropWhile (· ≠ '?')).drop 1)

/-- The bytes whose triples stay in a path. -/
def isProtected (b : UInt8) : Bool :=
  b == 0x25 || b == 0x2F || b == 0x2B

/-- Bytes with triples undone but for those of protected bytes; the first number is how many bytes a
triple has yet to skip. -/
def decodeUnprotected : Nat → List UInt8 → List UInt8
  | _, [] => []
  | skip + 1, _ :: rest => decodeUnprotected skip rest
  | 0, b :: rest =>
    match b == 0x25, rest with
    | true, x :: y :: _ =>
      match Percent.pair? x y with
      | some v =>
        if isProtected v then b :: decodeUnprotected 0 rest else v :: decodeUnprotected 2 rest
      | none => b :: decodeUnprotected 0 rest
    | _, _ => b :: decodeUnprotected 0 rest

/-- The segments of a path, as they are matched. -/
def segments (path : List Char) : List String :=
  let bytes := decodeUnprotected 0 (Utf8.encode (String.ofList path))
  ((Utf8.decodeLossy bytes).toList.splitOn '/').map String.ofList

/-- A segment as a parameter. -/
def parameter (segment : String) : String :=
  Utf8.decodeLossy (Percent.decode (Utf8.encode segment))

/-- The pairs of a query. -/
def queryPairs (query : List Char) : List (String × String) :=
  UrlEncoded.pairs (Utf8.encode (String.ofList query))

/-- Why a query is refused: a field stands twice. -/
structure DuplicateField where
  field : String
deriving DecidableEq, Repr

/-- What is said about a refused query. -/
def DuplicateField.message (d : DuplicateField) : String :=
  "Query deserialize error: duplicate field \x60" ++ d.field ++ "\x60"

/-- The field of a query, if it is there. -/
def queryField (pairs : List (String × String)) (field : String) :
    Except DuplicateField (Option String) :=
  match pairs.filter (·.1 = field) with
  | [] => .ok none
  | [(_, value)] => .ok (some value)
  | _ => .error ⟨field⟩

end Rulebook.Http
