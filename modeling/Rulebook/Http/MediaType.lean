/-!
# Media types

A media type is a type and a subtype parted by a slash, followed by parameters: each a semicolon, a
name, an equals sign and a value, which may be in quotes. Names count without regard to case.
-/

namespace Rulebook.Http

/-- A parameter: how many blanks stand before it, its name in lower case, its value, and all that is
written from its value on. -/
structure Parameter where
  blanks : Nat
  name : String
  value : String
  written : List Char
deriving DecidableEq, Repr

/-- A media type. -/
structure MediaType where
  type : String
  subtype : String
  parameters : List Parameter
deriving DecidableEq, Repr

namespace MediaType

/-- A character of a token. -/
def isToken (c : Char) : Bool :=
  c.isAlphanum ||
    c ∈ ['!', '#', '$', '%', '&', '\'', '*', '+', '-', '.', '^', '_', '\x60', '|', '~']

/-- A character inside the quotes of a value. -/
def isQuoted (c : Char) : Bool :=
  0x20 ≤ c.toNat && c.toNat != 0x7F

/-- A token of at least one character, in lower case, and the rest. -/
def token? (cs : List Char) : Option (String × List Char) :=
  match cs.takeWhile isToken with
  | [] => none
  | t => some (String.ofList (t.map Char.toLower), cs.dropWhile isToken)

/-- The value of a parameter, and the rest from the next semicolon on. In quotes there is at least
one character, which may be a quote; without quotes a value is empty only at the very end. -/
def value? : List Char → Option (String × List Char)
  | '"' :: first :: rest =>
    let inner := first :: rest.takeWhile (· ≠ '"')
    match (rest.dropWhile (· ≠ '"')) with
    | _ :: after =>
      if inner.all isQuoted then some (String.ofList inner, after.dropWhile (· = ' ')) else none
    | [] => none
  | cs =>
    let rest := cs.dropWhile isToken
    match cs.takeWhile isToken with
    | [] => if rest = [] then some ("", []) else none
    | t => some (String.ofList t, rest)

/-- Parameters, each after a semicolon. The first number bounds the steps. -/
def parameters? : Nat → List Char → Option (List Parameter)
  | _, [] => some []
  | 0, _ => none
  | fuel + 1, ';' :: rest =>
    let blanks := (rest.takeWhile (· = ' ')).length
    match rest.drop blanks with
    | [] => some []
    | rest =>
      match token? rest with
      | some (name, '=' :: written) =>
        match value? written with
        | some (value, rest) => (parameters? fuel rest).map (⟨blanks, name, value, written⟩ :: ·)
        | none => none
      | _ => none
  | _, _ => none

/-- The media type a text stands for. -/
def parse? (s : String) : Option MediaType :=
  match token? s.toList with
  | some (type, '/' :: rest) =>
    match token? rest with
    | some (subtype, rest) =>
      (parameters? (rest.length + 1) rest).map fun ps => ⟨type, subtype, ps⟩
    | none => none
  | _ => none

/-- The label of a character encoding: the value of the first parameter `charset`. If that stands
first, after one blank and before other parameters, and says UTF-8, the label is as many characters
as that has, as they are written; within quotes these are no label. -/
def charset? (m : MediaType) : Option String :=
  match m.parameters with
  | p :: _ :: _ =>
    if p.blanks = 1 ∧ p.name = "charset" ∧ p.value.toList.map Char.toLower = "utf-8".toList then
      some (String.ofList (p.written.take 5))
    else labelIn m.parameters
  | ps => labelIn ps
where
  /-- The value of the first parameter `charset`. -/
  labelIn (ps : List Parameter) : Option String :=
    (ps.find? (·.name = "charset")).map (·.value)

end MediaType

end Rulebook.Http
