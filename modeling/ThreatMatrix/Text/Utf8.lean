import ThreatMatrix.Text.Basic

/-!
# UTF-8

Octets and code points. Reading is strict: a fault says where the ill-formed octets stand and why
they are refused. Surrogates have no octets, so writing is refused where a text holds one.
-/

namespace ThreatMatrix.Utf8

/-- Why octets are not UTF-8. -/
inductive Reason where
  | badStart
  | badContinuation
  | truncated
  deriving DecidableEq, Repr

/-- The first ill-formed octets of a file: the reason, the places of the first and the last octet
that belong to the fault, and the first octet itself. -/
structure Malformed where
  reason : Reason
  first : Nat
  last : Nat
  lead : Byte
  deriving DecidableEq, Repr

/-- The text of a fault in octets that should be UTF-8. -/
def Malformed.message (fault : Malformed) : Text :=
  let reason : Text := match fault.reason with
    | .badStart => "invalid start byte"
    | .badContinuation => "invalid continuation byte"
    | .truncated => "unexpected end of data"
  let place : Text :=
    if fault.first = fault.last then
      "byte 0x" ++ Text.hex 2 fault.lead.toNat ++ " in position " ++ Text.decimal fault.first
    else "bytes in position " ++ Text.decimal fault.first ++ "-" ++ Text.decimal fault.last
  "'utf-8' codec can't decode " ++ place ++ ": " ++ reason

/-- A code point of which some octets are still to come: where it began, its first octet, how many
octets were read and are missing, the range of the next octet, and the bits read so far. -/
structure Pending where
  start : Nat
  lead : Byte
  seen : Nat
  missing : Nat
  low : Nat
  high : Nat
  bits : Nat

/-- What a first octet announces: a whole code point or a pending one. The ranges of the second
octet exclude long forms, surrogates and numbers above the last code point. -/
def announce (start : Nat) (b : Byte) : Except Malformed (CodePoint ⊕ Pending) :=
  let n := b.toNat
  let pending (missing low high bits : Nat) : Except Malformed (CodePoint ⊕ Pending) :=
    .ok (.inr ⟨start, b, 1, missing, low, high, bits⟩)
  if n < 0x80 then .ok (.inl (CodePoint.ofNat n))
  else if n < 0xC2 then .error ⟨.badStart, start, start, b⟩
  else if n < 0xE0 then pending 1 0x80 0xBF (n - 0xC0)
  else if n = 0xE0 then pending 2 0xA0 0xBF 0
  else if n = 0xED then pending 2 0x80 0x9F 0xD
  else if n < 0xF0 then pending 2 0x80 0xBF (n - 0xE0)
  else if n = 0xF0 then pending 3 0x90 0xBF 0
  else if n < 0xF4 then pending 3 0x80 0xBF (n - 0xF0)
  else if n = 0xF4 then pending 3 0x80 0x8F 4
  else .error ⟨.badStart, start, start, b⟩

/-- A pending code point with one more octet. -/
def Pending.extend (pending : Pending) (b : Byte) : Except Malformed (CodePoint ⊕ Pending) :=
  let n := b.toNat
  if pending.low ≤ n ∧ n ≤ pending.high then
    let bits := pending.bits * 0x40 + (n - 0x80)
    if pending.missing ≤ 1 then .ok (.inl (CodePoint.ofNat bits))
    else .ok (.inr { pending with
      seen := pending.seen + 1, missing := pending.missing - 1, low := 0x80, high := 0xBF, bits })
  else .error ⟨.badContinuation, pending.start, pending.start + pending.seen - 1, pending.lead⟩

/-- Reads octets from a place on, behind the code points already read (last first). -/
def decodeFrom (place : Nat) (read : Text) : Option Pending → List Byte → Except Malformed Text
  | none, [] => .ok read.reverse
  | some pending, [] => .error ⟨.truncated, pending.start, place - 1, pending.lead⟩
  | state, b :: rest =>
    match (match state with
      | none => announce place b
      | some pending => pending.extend b) with
    | .error fault => .error fault
    | .ok (.inl c) => decodeFrom (place + 1) (c :: read) none rest
    | .ok (.inr pending) => decodeFrom (place + 1) read (some pending) rest

/-- The text that octets stand for. -/
def decode (bytes : List Byte) : Except Malformed Text :=
  decodeFrom 0 [] none bytes

/-- The octets of a code point that is no surrogate. -/
def encodePoint (c : CodePoint) : List Byte :=
  let n := c.val
  let tail (unit : Nat) : Byte := .ofNat (0x80 + n / unit % 0x40)
  if n < 0x80 then [.ofNat n]
  else if n < 0x800 then [.ofNat (0xC0 + n / 0x40), tail 1]
  else if n < 0x10000 then [.ofNat (0xE0 + n / 0x1000), tail 0x40, tail 1]
  else [.ofNat (0xF0 + n / 0x40000), tail 0x1000, tail 0x40, tail 1]

/-- The first run of surrogates in a text: the places of its ends and its first member. -/
structure Unpaired where
  first : Nat
  last : Nat
  half : CodePoint
  deriving DecidableEq, Repr

/-- The text of a fault in a text that cannot be written. -/
def Unpaired.message (run : Unpaired) : Text :=
  let place : Text :=
    if run.first = run.last then
      "character '\\u" ++ Text.hex 4 run.half.val ++ "' in position " ++ Text.decimal run.first
    else "characters in position " ++ Text.decimal run.first ++ "-" ++ Text.decimal run.last
  "'utf-8' codec can't encode " ++ place ++ ": surrogates not allowed"

/-- The first run of surrogates, if there is one. -/
def unpaired? (text : Text) : Option Unpaired :=
  let before := text.takeWhile (!·.isSurrogate)
  let run := (text.drop before.length).takeWhile (·.isSurrogate)
  run.head?.map fun half => ⟨before.length, before.length + run.length - 1, half⟩

/-- The octets of a text without surrogates. -/
def encode (text : Text) : Except Unpaired (List Byte) :=
  match unpaired? text with
  | some run => .error run
  | none => .ok (text.flatMap encodePoint)

/-- How many octets a text needs, a surrogate counted as three. -/
def width (text : Text) : Nat :=
  (text.flatMap encodePoint).length

/-- The text with every line end written as a line feed: a carriage return, alone or before a line
feed, is one line end. -/
def unifyLines (text : Text) : Text :=
  (text.zip (none :: text.map some)).filterMap fun (c, before) =>
    if c = '\n' ∧ before = some ('\r' : CodePoint) then none
    else if c = '\r' then some ('\n' : CodePoint)
    else some c

end ThreatMatrix.Utf8
