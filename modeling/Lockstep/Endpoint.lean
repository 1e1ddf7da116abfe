/-
# Endpoints

An endpoint is an address and a port.  A port is also what identifies a transfer: each side
of a transfer uses a port of its own, and that port tells the transfer from all others
between the same two hosts.  An address of version six may mean different hosts on different
links, so an endpoint of version six can name the link as well, by the number of its zone.
-/
import Lockstep.Bytes
import Lockstep.Text.Quoted

namespace Lockstep

/-- The address of a host. -/
inductive Address where
  | v4 (a b c d : UInt8)
  | v6 (segments : Vector UInt16 8)
deriving DecidableEq

/-- Where datagrams come from and go to. -/
structure Endpoint where
  /-- The host. -/
  address : Address
  /-- The port on the host. -/
  port : UInt16
  /-- The zone that the address belongs to, or zero where none is named. -/
  zone : UInt32 := 0
deriving DecidableEq

namespace Address

/-- The address that stands for every address of a host. -/
def any4 : Address := v4 0 0 0 0

/-- The version-six address that stands for every address of a host. -/
def any6 : Address := v6 (Vector.replicate 8 0)

/-- The address by which a host reaches itself. -/
def loopback : Address := v4 127 0 0 1

/-- The address that stands for every address, of the same version. -/
def anyLike : Address → Address
  | v4 .. => any4
  | v6 _ => any6

/-- The address that an address stands for: that of version four, if it maps one. -/
def unmapped (address : Address) : Address :=
  match address with
  | v4 .. => address
  | v6 segments =>
    match segments.toList with
    | [0, 0, 0, 0, 0, 0xFFFF, x, y] =>
      v4 (Word.high x) (Word.low x) (Word.high y) (Word.low y)
    | _ => address

/-! ## Writing -/

/-- The four numbers of a version-four address. -/
def showQuad (a b c d : UInt8) : String :=
  ".".intercalate [toString a.toNat, toString b.toNat, toString c.toNat, toString d.toNat]

/-- Segments in hexadecimal with colons between them. -/
def showSegments (segments : List UInt16) : String :=
  ":".intercalate (segments.map fun s => String.ofList (Text.hexDigits s.toNat))

/-- The first longest run of zero segments, as its start and its length; `start` and
`length` describe the run that ends just before segment number `i`, and `best` is the
longest run so far. -/
def longestZeros (i start length : Nat) (best : Nat × Nat) : List UInt16 → Nat × Nat
  | [] => best
  | s :: rest =>
    if s = 0 then
      let start := if length = 0 then i else start
      let length := length + 1
      longestZeros (i + 1) start length (if length > best.2 then (start, length) else best) rest
    else longestZeros (i + 1) 0 0 best rest

/-- Segments as text, without the first longest run of two or more that are zero. -/
def showShortened (segments : List UInt16) : String :=
  let (start, length) := longestZeros 0 0 0 (0, 0) segments
  if length > 1 then
    showSegments (segments.take start) ++ "::" ++ showSegments (segments.drop (start + length))
  else showSegments segments

/-- An address as text.  One of version six that maps one of version four ends in the
latter. -/
def display (address : Address) : String :=
  match address, address.unmapped with
  | v4 a b c d, _ => showQuad a b c d
  | v6 _, v4 a b c d => "::ffff:" ++ showQuad a b c d
  | v6 segments, v6 _ => showShortened segments.toList

/-! ## Reading

Each reader takes characters from the front and returns what it read and what is left. -/

/-- The value of a digit in the given base, which is ten or sixteen. -/
def digitOf? (base : Nat) (c : Char) : Option Nat :=
  let value :=
    if '0' ≤ c && c ≤ '9' then c.toNat - 48
    else if 'a' ≤ c && c ≤ 'f' then c.toNat - 87
    else if 'A' ≤ c && c ≤ 'F' then c.toNat - 55
    else base
  if value < base then some value else none

/-- Reads all digits at the front onto `value`, and counts them. -/
def readDigits (base : Nat) : Nat → Nat → List Char → Nat × Nat × List Char
  | value, count, [] => (value, count, [])
  | value, count, c :: rest =>
    match digitOf? base c with
    | some d => readDigits base (value * base + d) (count + 1) rest
    | none => (value, count, c :: rest)

/-- Reads a number of one to `most` digits that is at most `limit`. -/
def readNumber (base most limit : Nat) (text : List Char) : Option (Nat × List Char) :=
  let (value, count, rest) := readDigits base 0 0 text
  if count = 0 || count > most || value > limit then none else some (value, rest)

/-- Reads one of the four numbers of a version-four address, which has no leading zeros. -/
def readOctet (text : List Char) : Option (UInt8 × List Char) :=
  match readNumber 10 3 255 text with
  | some (value, rest) =>
    if text.head? = some '0' && text.length - rest.length > 1 then none
    else some (UInt8.ofNat value, rest)
  | none => none

/-- Reads the given character. -/
def expect (c : Char) : List Char → Option (List Char)
  | [] => none
  | d :: rest => if c = d then some rest else none

/-- Reads an octet behind a point. -/
def readNextOctet (text : List Char) : Option (UInt8 × List Char) := do
  let text ← expect '.' text
  readOctet text

/-- Reads the four numbers of a version-four address. -/
def readQuad (text : List Char) : Option ((UInt8 × UInt8 × UInt8 × UInt8) × List Char) := do
  let (a, text) ← readOctet text
  let (b, text) ← readNextOctet text
  let (c, text) ← readNextOctet text
  let (d, text) ← readNextOctet text
  return ((a, b, c, d), text)

/-- Reads what stands between two colons, or before the first one. -/
def readBehindColon {α : Type} (first : Bool) (read : List Char → Option (α × List Char))
    (text : List Char) : Option (α × List Char) :=
  if first then read text else (expect ':' text).bind read

/-- Reads up to `room` segments, the last two of which may be written as a version-four
address; tells whether they were. -/
def readSegments : (room : Nat) → (first : Bool) → List Char → List UInt16 × Bool × List Char
  | 0, _, text => ([], false, text)
  | room + 1, first, text =>
    let quad := if room = 0 then none else readBehindColon first readQuad text
    match quad with
    | some ((a, b, c, d), rest) =>
      ([UInt16.ofNat (a.toNat * 256 + b.toNat), UInt16.ofNat (c.toNat * 256 + d.toNat)], true, rest)
    | none =>
      match readBehindColon first (readNumber 16 4 65535) text with
      | none => ([], false, text)
      | some (s, rest) =>
        let (segments, quad, rest) := readSegments room false rest
        (UInt16.ofNat s :: segments, quad, rest)

/-- Eight segments as an address. -/
def ofSegments? (segments : List UInt16) : Option Address :=
  if h : segments.length = 8 then some (v6 ⟨segments.toArray, by simpa using h⟩) else none

/-- Reads a version-six address. -/
def readSix (text : List Char) : Option (Address × List Char) :=
  let (front, quad, rest) := readSegments 8 true text
  if front.length = 8 then (ofSegments? front).map (·, rest)
  else if quad then none
  else do
    let rest ← expect ':' rest
    let rest ← expect ':' rest
    let (back, _, rest) := readSegments (7 - front.length) true rest
    let zeros := List.replicate (8 - front.length - back.length) 0
    let address ← ofSegments? (front ++ zeros ++ back)
    return (address, rest)

end Address

/-- The endpoint at a port of an address, of which no zone is named. -/
def Address.atPort (address : Address) (port : UInt16) : Endpoint := { address, port }

namespace Endpoint

/-- An endpoint as text. -/
def display (e : Endpoint) : String :=
  match e.address with
  | .v4 .. => e.address.display ++ ":" ++ toString e.port.toNat
  | .v6 _ =>
    let zone := if e.zone = 0 then "" else "%" ++ toString e.zone.toNat
    "[" ++ e.address.display ++ zone ++ "]:" ++ toString e.port.toNat

/-- Reads a number of any length that is at most `limit`. -/
def readUpTo (limit : Nat) (text : List Char) : Option (Nat × List Char) :=
  Address.readNumber 10 text.length limit text

/-- Reads a port behind a colon, up to the end. -/
def readPort (text : List Char) : Option UInt16 := do
  let text ← Address.expect ':' text
  let (port, rest) ← readUpTo (UInt16.size - 1) text
  if rest.isEmpty then some (UInt16.ofNat port) else none

/-- Reads the number of a zone behind a percent sign; without one there is no zone. -/
def readZone (text : List Char) : Option (UInt32 × List Char) :=
  match text with
  | '%' :: text => do
    let (zone, rest) ← readUpTo (UInt32.size - 1) text
    return (UInt32.ofNat zone, rest)
  | text => some (0, text)

/-- What is said of a text that names no endpoint. -/
def syntaxMessage : String := "invalid socket address syntax"

/-- The endpoint that a text names, if it names one. -/
def parse? (text : String) : Option Endpoint :=
  match Address.readQuad text.toList with
  | some ((a, b, c, d), rest) => (readPort rest).map (Address.v4 a b c d).atPort
  | none => do
    let text ← Address.expect '[' text.toList
    let (address, rest) ← Address.readSix text
    let (zone, rest) ← readZone rest
    let rest ← Address.expect ']' rest
    let port ← readPort rest
    return { address, port, zone }

end Endpoint

end Lockstep
