import Rulebook.Http.Message
import Rulebook.Packing.Brotli.Data
import Rulebook.Packing.Deflate
import Rulebook.Packing.Zstandard
import Rulebook.Text.Blank

/-!
# Packed bodies

The body of a request may be packed, and a header says how. A header that says anything else means
a body as it is.
-/

namespace Rulebook.Http

/-- How a body is packed. -/
inductive ContentCoding where
  | identity
  | gzip
  | deflate
  | brotli
  | zstandard
deriving DecidableEq, Repr

namespace ContentCoding

/-- The name of each way to pack a body. -/
def named : List (String × ContentCoding) :=
  [("gzip", .gzip), ("deflate", .deflate), ("br", .brotli), ("zstd", .zstandard)]

/-- How a header value says that a body is packed, without regard to case. -/
def ofName (value : String) : ContentCoding :=
  (named.lookup (String.ofList ((Text.trim value).toList.map Char.toLower))).getD .identity

/-- How the body of a request is packed. -/
def ofRequest (r : Request) : ContentCoding :=
  match (r.header? "content-encoding").bind asciiValue? with
  | some value => ofName value
  | none => .identity

/-- The bytes that a body stands for, unless there are too many. -/
def unpack? (coding : ContentCoding) (limit : Nat) (body : List UInt8) : Option (List UInt8) :=
  match coding with
  | .identity => if body.length ≤ limit then some body else none
  | .gzip => Packing.Gzip.unpack? limit body
  | .deflate => Packing.Zlib.unpack? limit body
  | .brotli => Packing.Brotli.unpack? limit body
  | .zstandard => Packing.Zstandard.unpack? body

end ContentCoding

end Rulebook.Http
