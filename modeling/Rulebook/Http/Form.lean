import Rulebook.Http.ContentCoding
import Rulebook.Http.MediaType
import Rulebook.Http.Message
import Rulebook.Text.Blank
import Rulebook.Text.Charset
import Rulebook.Text.UrlEncoded

/-!
# Submitted forms

A form is a URL-encoded body with the media type of forms. It may be packed and may say how its
characters are encoded. It has at most 16384 bytes, packed or not.
-/

namespace Rulebook.Http.Form

open Rulebook.Text

/-- The media type of forms. -/
def mediaType : String :=
  "application/x-www-form-urlencoded"

/-- The greatest number of bytes. -/
def limit : Nat :=
  16384

/-- The part of a header value before its parameters, in lower case. -/
def essence (value : String) : String :=
  String.ofList ((trim (String.ofList (value.toList.takeWhile (· ≠ ';')))).toList.map Char.toLower)

/-- The encoding a form is read in, if its header is that of a form. -/
def charset? (r : Request) : Option Charset := do
  let value ← r.header? "content-type"
  let value ← asciiValue? value
  if essence value ≠ mediaType then none
  let type ← MediaType.parse? value
  match type.charset? with
  | none => some .utf8
  | some label => Charset.ofLabel? label

/-- The pairs of a form, if the body is one. -/
def pairs? (r : Request) : Option (List (String × String)) := do
  let charset ← charset? r
  if limit < r.body.length then none
  let body ← (ContentCoding.ofRequest r).unpack? limit r.body
  match charset with
  | .utf8 => some (UrlEncoded.pairs body)
  | other =>
    let text ← other.decode? body
    some (UrlEncoded.pairs (Utf8.encode text))

end Rulebook.Http.Form
