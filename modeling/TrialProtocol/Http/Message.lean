import TrialProtocol.Text.Blank
import TrialProtocol.Text.Utf8

/-!
# Requests and responses

Messages as values: what a client asks for and what a server answers. The header of a message is a
list of fields, each a name and a value of bytes. Names match whatever their case; a name may stand
there several times, and then its fields keep their order.
-/

namespace TrialProtocol.Http

/-! ## 1. Header fields -/

/-- A header field. -/
structure Field where
  name : String
  value : List UInt8
  deriving DecidableEq, Repr

/-- Whether the field has the given name. -/
def Field.isNamed (f : Field) (name : String) : Bool :=
  Text.eqIgnoreCase f.name.toList name.toList

/-- The field of a name and a text. -/
def Field.ofText (name : String) (text : List Char) : Field :=
  { name, value := Utf8.encode text }

/-- The values of all fields with a name, in order. -/
def valuesOf (fields : List Field) (name : String) : List (List UInt8) :=
  (fields.filter (·.isNamed name)).map (·.value)

/-- The value of the first field with a name. -/
def valueOf? (fields : List Field) (name : String) : Option (List UInt8) :=
  (valuesOf fields name).head?

/-- A byte that may stand around a value in a line and is no part of it: the space and the tab. -/
def isAround (b : UInt8) : Bool :=
  b == 32 || b == 9

/-- The field as it is received: without the blanks around its value. -/
def Field.received (f : Field) : Field :=
  { f with value := ((f.value.dropWhile isAround).reverse.dropWhile isAround).reverse }

/-- Whether a byte can be read as a character: visible ASCII, the space and the tab. -/
def isReadable (b : UInt8) : Bool :=
  (32 ≤ b && b < 127) || b == 9

/-- The text of a value of readable bytes. -/
def text? (value : List UInt8) : Option (List Char) :=
  if value.all isReadable then some (value.map fun b => Char.ofNat b.toNat) else none

/-- Whether a value may be sent: it holds no control but the tab. -/
def isSendable (value : List UInt8) : Bool :=
  value.all fun b => (32 ≤ b && b != 127) || b == 9

/-! ## 2. Messages -/

/-- A request as a server receives it: the method, the path with its query, the header, the body. -/
structure Request where
  method : String
  target : List Char
  fields : List Field := []
  body : List UInt8 := []
  deriving DecidableEq, Repr

/-- A response. -/
structure Response where
  status : Nat
  fields : List Field := []
  body : List UInt8 := []
  deriving DecidableEq, Repr

/-- The media type of documents. -/
def jsonType : String := "application/json"

/-- The field that names the media type of the body. -/
def contentType (type : String) : Field :=
  Field.ofText "content-type" type.toList

/-- A response with a document as its body. -/
def Response.ofJson (status : Nat) (fields : List Field) (document : List Char) : Response where
  status := status
  fields := contentType jsonType :: fields
  body := Utf8.encode document

/-- A response with a plain text as its body. -/
def Response.ofText (status : Nat) (text : String) : Response where
  status := status
  fields := [contentType "text/plain; charset=utf-8"]
  body := Utf8.encode text.toList

/-- The response to a request that asked for the header only. -/
def Response.withoutBody (r : Response) : Response :=
  { r with body := [] }

end TrialProtocol.Http
