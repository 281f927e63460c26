import Countersign.Http.Message
import Countersign.Text.Decimal
/-! How far a body goes on a connection: it has a length, goes in chunks, or there
is none. The headers in front of it say which. -/

namespace Countersign.Http.Framing

inductive Extent
  | absent
  | length (n : Nat)
  | chunks
deriving DecidableEq, Repr

def isPad (b : UInt8) : Bool := b == 0x20 || b == 0x9

/-- A value as it comes out of a line of a message: without outer blanks. -/
def trimValue (v : Bytes) : Bytes := ((v.dropWhile isPad).reverse.dropWhile isPad).reverse

def trimmed (hs : Headers) : Headers := hs.map fun h => { h with value := trimValue h.value }

/-- The number of header lines that a message may have. -/
def maxLines : Nat := 100

/-- The number of bytes that the start line and the headers may take. -/
def maxHeadBytes : Nat := 417792

/-- The bytes of a head with a start line of the given length. -/
def headBytes (startLine : Nat) (hs : Headers) : Nat :=
  hs.foldl (fun n h => n + h.name.length + h.value.length + 4) (startLine + 4)

/-- The lengths from here on are refused. -/
def lengthBound : Nat := Text.Decimal.wordBound - 2

def isPresent (hs : Headers) (name : Text) : Bool := (hs.first? name).isSome

/-- Digits alone, of a number that fits a word. -/
def digits? (t : Text) : Option Nat :=
  if t.head? = some '+' then none else Text.Decimal.read? Text.Decimal.wordBound t

/-- The length in a single value. -/
def strictLength? (v : Bytes) : Option Nat := (Header.text? v).bind digits?

/-- The lengths between the commas of a value. -/
def statedLengths (v : Bytes) : List (Option Nat) :=
  match Header.text? v with
  | some t => (Text.pieces ',' t).map fun p => digits? (Text.trim p)
  | none => [none]

/-- The one length that all agree on. -/
def agreed? : List (Option Nat) → Option Nat
  | [] => none
  | x :: rest => if rest.all (· == x) then x else none

def length? (hs : Headers) : Option Nat :=
  agreed? ((hs.values "content-length").flatMap statedLengths)

/-- Whether a coding ends with chunks. -/
def endsInChunks (v : Bytes) : Bool :=
  match Header.text? v with
  | some t => Text.lower (Text.trim ((Text.pieces ',' t).getLast?.getD [])) == "chunked".toList
  | none => false

def rendered (n : Nat) : Bytes := Text.Utf8.encode (Text.Decimal.render n)

/-- Responses without a body, whatever they were given: those to `HEAD`, those that
open a tunnel, and those that tell of a change of protocol, of nothing or of nothing new. -/
def hasNoBody (method : Text) (status : Nat) : Bool :=
  method == "HEAD".toList || (method == "CONNECT".toList && status / 100 == 2)
    || status == 101 || status == 204 || status == 304

end Countersign.Http.Framing
