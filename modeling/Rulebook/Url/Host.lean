import Rulebook.Url.Name

/-!
# Hosts

Whether a text is the host of an address. In brackets it has to be an address of eight groups.
Otherwise, in the schemes of the web, it is a name, and a name whose last label is a number has to
be an address of four numbers. In other schemes only a few characters are forbidden.
-/

namespace Rulebook.Url

/-- The value of a digit of a base up to sixteen. -/
def digitOf? (base : Nat) (c : Char) : Option Nat :=
  let value :=
    if c.isDigit then c.toNat - '0'.toNat
    else if 'a' ≤ c.toLower && c.toLower ≤ 'f' then c.toLower.toNat - 'a'.toNat + 10
    else 16
  if value < base then some value else none

/-- The number that digits of a base stand for. -/
def numeral? (base : Nat) (cs : List Char) : Option Nat :=
  cs.foldl (fun n? c => n?.bind fun n => (digitOf? base c).map (n * base + ·)) (some 0)

/-- A part of an address of four numbers: decimal, octal after a zero, hexadecimal after `0x`. -/
def ipv4Number? : List Char → Option Nat
  | [] => none
  | ['0'] => some 0
  | '0' :: 'x' :: rest | '0' :: 'X' :: rest => numeral? 16 rest
  | '0' :: rest => numeral? 8 rest
  | cs => numeral? 10 cs

/-- Labels without an empty last one. -/
def withoutRoot (labels : List (List Char)) : List (List Char) :=
  if labels.length > 1 ∧ labels.getLast? = some [] then labels.dropLast else labels

/-- Whether the last label of a name is a number. -/
def endsInNumber (labels : List (List Char)) : Bool :=
  match (withoutRoot labels).getLast? with
  | none => false
  | some last =>
    (!last.isEmpty && last.all Char.isDigit) || (ipv4Number? last).isSome

/-- Whether a name is an address of at most four numbers, the last of which fills the rest. -/
def isIpv4 (labels : List (List Char)) : Bool :=
  let labels := withoutRoot labels
  match (labels.mapM ipv4Number?).map List.reverse with
  | some (last :: before) =>
    labels.length ≤ 4 && before.all (· ≤ 255) && last < Nat.pow 256 (4 - before.length)
  | _ => false

/-- Whether a part is a decimal number up to 255 without leading zeros. -/
def isOctet (cs : List Char) : Bool :=
  match cs with
  | [] => false
  | '0' :: _ :: _ => false
  | _ => cs.all Char.isDigit && (numeral? 10 cs).any (· ≤ 255)

/-- Whether a group is one to four hexadecimal digits. -/
def isGroup (cs : List Char) : Bool :=
  !cs.isEmpty && cs.length ≤ 4 && (numeral? 16 cs).isSome

/-- The number of 16-bit places that groups fill; the last may be four numbers with points, which
fill two. -/
def places? : List (List Char) → Option Nat
  | [] => some 0
  | [last] =>
    if isGroup last then some 1
    else
      let octets := last.splitOn '.'
      if octets.length = 4 ∧ octets.all isOctet then some 2 else none
  | group :: rest => if isGroup group then (places? rest).map (· + 1) else none

/-- The groups of a part of an address; an empty part has none. -/
def groupsOf (cs : List Char) : List (List Char) :=
  if cs.isEmpty then [] else cs.splitOn ':'

/-- The two sides of the first double colon. -/
def atDoubleColon? : List Char → Option (List Char × List Char)
  | ':' :: ':' :: rest => some ([], rest)
  | c :: rest => (atDoubleColon? rest).map fun (left, right) => (c :: left, right)
  | [] => none

/-- Whether a text is an address of eight groups, one run of zeros left out or none. -/
def isIpv6 (cs : List Char) : Bool :=
  match atDoubleColon? cs with
  | none => places? (groupsOf cs) = some 8
  | some (left, right) =>
    (groupsOf left).all isGroup &&
      (places? (groupsOf right)).any fun n => (groupsOf left).length + n ≤ 7

/-- Whether a text is a host in brackets. -/
def isBracketed (cs : List Char) : Bool :=
  cs.getLast? = some ']' && isIpv6 ((cs.drop 1).dropLast)

/-- Whether a text is a host in the schemes of the web. -/
def isWebHost (cs : List Char) : Bool :=
  if cs.head? = some '[' then isBracketed cs
  else
    match Name.labels? cs with
    | some [[]] | none => false
    | some labels => !endsInNumber labels || isIpv4 labels

/-- A character that no host of another scheme has. -/
def isForbiddenElsewhere (c : Char) : Bool :=
  c ∈ ['\x00', '\t', '\n', '\r', ' ', '#', '/', ':', '<', '>', '?', '@', '[', '\\', ']', '^', '|']

/-- Whether a text is a host in another scheme; it may be empty. -/
def isOtherHost (cs : List Char) : Bool :=
  if cs.head? = some '[' then isBracketed cs else !cs.any isForbiddenElsewhere

end Rulebook.Url
