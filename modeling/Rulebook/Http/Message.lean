import Rulebook.Json.Printer
import Rulebook.Text.Utf8

/-!
# Requests and responses

A request has a method, a target, headers and a body of bytes; a response a status, headers and a
body of text. Header names are in lower case. A header value may hold anything but control
characters other than the tab, so a response whose header would hold one is replaced by a plain
failure.
-/

namespace Rulebook.Http

/-- A request. -/
structure Request where
  method : String
  target : String
  headers : List (String × String)
  body : List UInt8

/-- The first value of a header. -/
def Request.header? (r : Request) (name : String) : Option String :=
  r.headers.lookup name

/-- A character that no header value holds. -/
def isForbidden (c : Char) : Bool :=
  (c.toNat < 0x20 && c != '\t') || c.toNat == 0x7F

/-- Whether a text is a header value. -/
def isHeaderValue (s : String) : Bool :=
  s.toList.all fun c => !isForbidden c

/-- A header value that is all visible ASCII, blanks and tabs. -/
def asciiValue? (s : String) : Option String :=
  if s.toList.all fun c => c.toNat < 0x7F && !isForbidden c then some s else none

/-- A response. -/
structure Response where
  status : Nat
  headers : List (String × String)
  body : String
deriving DecidableEq, Repr

namespace Response

/-- The media type of pages. -/
def htmlType : String :=
  "text/html; charset=utf-8"

/-- The media type of plain texts. -/
def textType : String :=
  "text/plain; charset=utf-8"

/-- The media type of JSON. -/
def jsonType : String :=
  "application/json"

/-- A response without body. -/
def empty (status : Nat) : Response :=
  ⟨status, [], ""⟩

/-- A response with a body of a media type. -/
def of (status : Nat) (type body : String) : Response :=
  ⟨status, [("content-type", type)], body⟩

/-- A response with a JSON body. -/
def json (status : Nat) (v : Json) : Response :=
  of status jsonType v.render

/-- The response in place of one with a header that cannot be written. -/
def unwritable : Response :=
  of 500 textType "failed to parse header value"

/-- The response with a header set, in place of any of the same name. -/
def setHeader (r : Response) (name value : String) : Response :=
  { r with headers := (name, value) :: r.headers.filter (·.1 ≠ name) }

/-- The response with a header, where its value can be written. -/
def withHeader (r : Response) (name value : String) : Response :=
  if isHeaderValue value then r.setHeader name value else unwritable

/-- A response that sends the browser to another place. -/
def redirect (location : String) : Response :=
  (empty 302).withHeader "location" location

/-- A text inside the quotes of a header parameter. -/
def quotedParameter (s : String) : String :=
  String.ofList ('"' ::
    (s.toList.flatMap fun c => if c = '"' || c = '\\' then ['\\', c] else [c]) ++ ['"'])

/-- A file for the browser to save under a name. -/
def attachment (type fileName body : String) : Response :=
  (of 200 type body).withHeader "content-disposition"
    ("attachment; filename=" ++ quotedParameter fileName)

end Response

end Rulebook.Http
