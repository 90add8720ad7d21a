import SyntaxServer.Text.Blank
import SyntaxServer.Text.Decimal
import SyntaxServer.Text.Quoted
import SyntaxServer.Text.Utf8

/-! # Message frames

On a byte stream a message is a block of header lines, an empty line and a body, whose size the header
`Content-Length` gives. Reading a frame leaves the rest of the stream, and every read short of the end of
the stream takes at least one byte, so a finite stream is read to its end in finitely many reads.
-/
namespace SyntaxServer.Frame

inductive ReadError where
  | bodyCutShort
  | headerNotUtf8
  | invalidHeader (line : Text)
  | missingContentLength
  | messageTooLarge (length max : Nat)
deriving DecidableEq, Repr

namespace ReadError

def message : ReadError → String
  | bodyCutShort => "I/O error: early eof"
  | headerNotUtf8 => "I/O error: stream did not contain valid UTF-8"
  | invalidHeader line => "malformed header line: " ++ String.ofList (Text.quote line)
  | missingContentLength => "message is missing a Content-Length header"
  | messageTooLarge length max => s!"message of {length} bytes exceeds the {max}-byte limit"

/-- The stream itself failed, so nothing more can be read from it. -/
def isBroken : ReadError → Bool
  | bodyCutShort => true
  | headerNotUtf8 => true
  | _ => false

end ReadError

/-- What the header lines read so far say. -/
structure Headers where
  seen : Bool := false
  length : Option Nat := none
deriving DecidableEq, Repr

/-- What a header line leads to. -/
inductive LineResult where
  | more (headers : Headers)
  | complete (length : Option Nat)
  | failed (error : ReadError)
deriving DecidableEq, Repr

def isLineEnd (c : Char) : Bool := c = '\r' || c = '\n'

/-- The texts before and behind the first colon. -/
def splitColon? (t : Text) : Option (Text × Text) :=
  match t.dropWhile (· ≠ ':') with
  | [] => none
  | _ :: value => some (t.takeWhile (· ≠ ':'), value)

/-- Digits behind an optional plus sign, with a value below 2^64. -/
def length? (t : Text) : Option Nat :=
  let digits : Text := match t with
    | '+' :: ds => ds
    | ds => ds
  if digits ≠ [] ∧ digits.all Decimal.isDigit ∧ Decimal.value digits < UInt64.size then
    some (Decimal.value digits)
  else none

def isContentLength (name : Text) : Bool :=
  (Text.trim name).map Char.toLower == "content-length".toList

namespace Headers

/-- The headers after one more line, given with its line end. Empty lines before the first header do not
count, and of several lengths the last one holds. -/
def readLine (h : Headers) (line : Bytes) : LineResult :=
  match Utf8.decode? line with
  | none => .failed .headerNotUtf8
  | some t =>
    let t := Text.trimEnd isLineEnd t
    if t.isEmpty then if h.seen then .complete h.length else .more h
    else
      match splitColon? t with
      | none => .failed (.invalidHeader t)
      | some (name, value) =>
        if isContentLength name then
          match length? (Text.trim value) with
          | none => .failed (.invalidHeader t)
          | some n => .more ⟨true, some n⟩
        else .more ⟨true, h.length⟩

end Headers

/-- What a block of header lines leads to. -/
inductive HeaderResult where
  | endOfStream
  | complete (length : Option Nat)
  | failed (error : ReadError)
deriving DecidableEq, Repr

/-- What the end of the stream means after some headers. -/
def atEnd (h : Headers) : HeaderResult :=
  if h.seen then .failed .missingContentLength else .endOfStream

/-- Reads header lines up to the empty line. `line` holds the bytes of the line begun, last first. -/
def readHeaders (h : Headers) (line : Bytes) : Bytes → HeaderResult × Bytes
  | [] =>
    if line.isEmpty then (atEnd h, [])
    else
      match h.readLine line.reverse with
      | .more h => (atEnd h, [])
      | .complete n => (.complete n, [])
      | .failed e => (.failed e, [])
  | b :: s =>
    if b = 10 then
      match h.readLine (b :: line).reverse with
      | .more h => readHeaders h [] s
      | .complete n => (.complete n, s)
      | .failed e => (.failed e, s)
    else readHeaders h (b :: line) s

/-- What one read gives. -/
inductive Read where
  | endOfStream
  | body (bytes : Bytes)
  | failed (error : ReadError)
deriving DecidableEq, Repr

/-- Reads a frame and leaves the rest of the stream. A body above the limit is skipped. Whether a read comes back at
all, `read?` tells. -/
def read (max : Nat) (s : Bytes) : Read × Bytes :=
  match readHeaders {} [] s with
  | (.endOfStream, rest) => (.endOfStream, rest)
  | (.failed e, rest) => (.failed e, rest)
  | (.complete none, rest) => (.failed .missingContentLength, rest)
  | (.complete (some n), rest) =>
    if max < n then (.failed (.messageTooLarge n max), rest.drop n)
    else
      let body := rest.take n
      if body.length = n then (.body body, rest.drop n) else (.failed .bodyCutShort, [])

/-- No buffer can have more bytes. -/
def maxBuffer : Nat := UInt64.size / 2 - 1

/-- The size of the buffer for the body, which a read asks for as soon as it has the headers. -/
def buffer? (max : Nat) (s : Bytes) : Option Nat :=
  match (readHeaders {} [] s).1 with
  | .complete (some n) => if max < n then none else some n
  | _ => none

/-- A read as it is run. It gives nothing, and the program is over, if there can be no buffer of the size it asks
for. -/
def read? (max : Nat) (s : Bytes) : Option (Read × Bytes) :=
  if (buffer? max s).all (· ≤ maxBuffer) then some (read max s) else none

theorem buffer?_le {max n : Nat} {s : Bytes} (h : buffer? max s = some n) : n ≤ max := by
  unfold buffer? at h
  split at h
  · split at h
    · cases h
    · cases h
      omega
  · cases h

/-- A limit that is itself in bounds keeps every read in bounds. -/
theorem read?_of_le {max : Nat} (h : max ≤ maxBuffer) (s : Bytes) : read? max s = some (read max s) := by
  have hall : (buffer? max s).all (· ≤ maxBuffer) = true := by
    rw [Option.all_eq_true]
    exact fun n hn => by simpa using Nat.le_trans (buffer?_le hn) h
  rw [read?, if_pos hall]

example : read? (2 ^ 63) (Utf8.encodeString "Content-Length: 9223372036854775808\r\n\r\n") = none := by decide +kernel

/-- What headers leave of a stream stands behind its first byte. -/
theorem readHeaders_isSuffix_tail (h : Headers) (line s : Bytes) : (readHeaders h line s).2 <:+ s.tail := by
  induction s generalizing h line with
  | nil =>
    unfold readHeaders
    repeat' split
    all_goals exact List.suffix_rfl
  | cons b s ih =>
    have hrest (h : Headers) (line : Bytes) : (readHeaders h line s).2 <:+ s := (ih h line).trans (List.tail_suffix s)
    unfold readHeaders
    repeat' split
    · exact hrest _ _
    · exact List.suffix_rfl
    · exact List.suffix_rfl
    · exact hrest _ _

/-- A read takes the first byte of a stream, and leaves an end of what follows. -/
theorem read_isSuffix_tail (max : Nat) (s : Bytes) : (read max s).2 <:+ s.tail := by
  have hheaders := readHeaders_isSuffix_tail {} [] s
  unfold read
  split <;> simp only [*] at hheaders
  · exact hheaders
  · exact hheaders
  · exact hheaders
  · next n rest _ =>
    have hbody : rest.drop n <:+ s.tail := (List.drop_suffix n rest).trans hheaders
    split
    · exact hbody
    · dsimp only
      split
      · exact hbody
      · exact List.nil_suffix

/-- A read that does not find the end of the stream takes at least one byte. -/
theorem read_length_lt {max : Nat} {s : Bytes} (h : (read max s).1 ≠ .endOfStream) :
    (read max s).2.length < s.length := by
  cases s with
  | nil => exact absurd rfl h
  | cons b s => exact Nat.lt_succ_of_le (read_isSuffix_tail max (b :: s)).length_le

theorem length_lt_of_read {max : Nat} {s rest : Bytes} {r : Read} (h : read max s = (r, rest))
    (hr : r ≠ .endOfStream) : rest.length < s.length := by
  have := @read_length_lt max s (by rw [h]; exact hr)
  rwa [h] at this

/-- All that a stream gives, read after read, until it ends or breaks. -/
def readAll (max : Nat) (s : Bytes) : List Read :=
  match h : read max s with
  | (.endOfStream, _) => [.endOfStream]
  | (.body b, rest) =>
    have := length_lt_of_read h (by simp)
    .body b :: readAll max rest
  | (.failed e, rest) =>
    have := length_lt_of_read h (by simp)
    if e.isBroken then [.failed e] else .failed e :: readAll max rest
termination_by s.length

/-- The greatest body that is read: 64 MiB. -/
def maxBody : Nat := 64 * 1024 * 1024

/-- The reads of a server all come back. -/
theorem read?_maxBody (s : Bytes) : read? maxBody s = some (read maxBody s) := read?_of_le (by decide) s

/-- The header lines of a body of `n` bytes, with the empty line behind them. -/
def header (n : Nat) : Text := "Content-Length: ".toList ++ Decimal.render n ++ "\r\n\r\n".toList

/-- A body in its frame. -/
def write (body : Bytes) : Bytes := Utf8.encode (header body.length) ++ body

end SyntaxServer.Frame
