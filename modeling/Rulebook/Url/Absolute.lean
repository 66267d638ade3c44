import Rulebook.Url.Host

/-!
# Absolute addresses

Whether a text is an absolute address: a scheme, and after it whatever the scheme wants. The
schemes of the web want a host, and read any run of slashes and backslashes before it as two
slashes. Other schemes want a host only after two slashes. Blanks and controls around an address
and line ends within it do not count.
-/

namespace Rulebook.Url

/-- The schemes of the web, which cannot do without a host. -/
def isWebScheme (scheme : List Char) : Bool :=
  String.ofList scheme ∈ ["http", "https", "ws", "wss", "ftp"]

/-- The scheme in lower case, and what follows its colon. -/
def scheme? (cs : List Char) : Option (List Char × List Char) :=
  let isPart (c : Char) : Bool := c.isAlphanum || c = '+' || c = '-' || c = '.'
  match cs.takeWhile isPart, cs.dropWhile isPart with
  | c :: rest, ':' :: after =>
    if c.isAlpha then some ((c :: rest).map Char.toLower, after) else none
  | _, _ => none

/-- The characters that count: no blanks and controls around, no tabs and line ends within. -/
def significant (s : String) : List Char :=
  let isEdge (c : Char) : Bool := c.toNat ≤ 0x20
  (((s.toList.dropWhile isEdge).reverse.dropWhile isEdge).reverse).filter fun c =>
    c ≠ '\t' ∧ c ≠ '\n' ∧ c ≠ '\r'

/-- Where the part with the host ends. -/
def endsAuthority (web : Bool) (c : Char) : Bool :=
  c = '/' || c = '?' || c = '#' || (web && c = '\\')

/-- The host and what follows it, from a colon outside brackets or the end of this part on. -/
def splitHost (web bracketed : Bool) : List Char → List Char × List Char
  | [] => ([], [])
  | c :: rest =>
    if endsAuthority web c || (c = ':' && !bracketed) then ([], c :: rest)
    else
      let inside := if c = '[' then true else if c = ']' then false else bracketed
      let (host, after) := splitHost web inside rest
      (c :: host, after)

/-- Whether what follows a host is right: after a colon there may be a socket number of at most
65535, and nothing but a new part after it. -/
def isAfterHost : List Char → Bool
  | ':' :: rest =>
    (numeral? 10 (rest.takeWhile Char.isDigit)).any (· ≤ 65535) &&
      (rest.dropWhile Char.isDigit).head?.all (endsAuthority true)
  | _ => true

/-- What stands before the last at sign, if there is one, and what follows it. -/
def splitUser (authority : List Char) : Option (List Char) × List Char :=
  if '@' ∈ authority then
    (some (authority.reverse.dropWhile (· ≠ '@')).reverse.dropLast,
      (authority.reverse.takeWhile (· ≠ '@')).reverse)
  else (none, authority)

/-- Whether a text starts with a host, perhaps after a user and before a socket number. A host can
be empty outside the web, where it has neither a user nor a socket number. -/
def isAuthority (web : Bool) (cs : List Char) : Bool :=
  let isInside (c : Char) : Bool := !endsAuthority web c
  let (user, named) := splitUser (cs.takeWhile isInside)
  let rest := named ++ cs.dropWhile isInside
  let (host, after) := splitHost web false rest
  if host.isEmpty then
    !web && after.head? ≠ some ':' &&
      match user with
      | none => true
      | some [] => rest.isEmpty
      | some user => user = [':']
  else (if web then isWebHost host else isOtherHost host) && isAfterHost after

/-- Whether what follows the scheme of a file is right: its host may be missing. -/
def isFileRest (cs : List Char) : Bool :=
  let isSlash (c : Char) : Bool := c = '/' || c = '\\'
  match cs with
  | a :: b :: rest =>
    if isSlash a && isSlash b then
      let host := rest.takeWhile fun c => !endsAuthority true c
      let isDrive :=
        match host with
        | [d, mark] => d.isAlpha && (mark = ':' || mark = '|')
        | _ => false
      host.isEmpty || isDrive || isWebHost host
    else true
  | _ => true

/-- Whether a text is an absolute address. -/
def isAbsolute (s : String) : Bool :=
  match scheme? (significant s) with
  | none => false
  | some (scheme, rest) =>
    if isWebScheme scheme then
      isAuthority true (rest.dropWhile fun c => c = '/' || c = '\\')
    else if String.ofList scheme = "file" then isFileRest rest
    else
      match rest with
      | '/' :: '/' :: rest => isAuthority false rest
      | _ => true

end Rulebook.Url
