/-!
Contract: reading of UTF-8 octets.

Owns:
- the shape of a sequence: how many octets follow a first octet, and the range in
  which the next of them must lie;
- the decoded characters, or the first fault with its position and the octets
  that are rejected together;
- the wording of a fault.

Does not own: where the octets come from.
-/

namespace ThreatModel.Text.Utf8

inductive Cause where
  | invalidStart
  | unexpectedEnd
  | invalidContinuation
deriving DecidableEq, Repr

def Cause.message : Cause → String
  | .invalidStart => "invalid start byte"
  | .unexpectedEnd => "unexpected end of data"
  | .invalidContinuation => "invalid continuation byte"

/-- Octets from `position` on that no text has there. -/
structure Fault where
  position : Nat
  first : UInt8
  count : Nat
  cause : Cause
deriving DecidableEq, Repr

def hexDigit (value : Nat) : Char :=
  (Nat.toDigits 16 (value % 16)).headD '0'

/-- Exactly `width` hexadecimal digits. -/
def hex : (width value : Nat) → List Char
  | 0, _ => []
  | width + 1, value => hex width (value / 16) ++ [hexDigit value]

def Fault.message (fault : Fault) : String :=
  let subject :=
    if fault.count = 1 then
      "byte 0x" ++ String.ofList (hex 2 fault.first.toNat) ++ s!" in position {fault.position}"
    else
      s!"bytes in position {fault.position}-{fault.position + fault.count - 1}"
  s!"'utf-8' codec can't decode {subject}: {fault.cause.message}"

/-- A character of which some octets have been read. -/
structure Partial where
  /-- Position and value of the first octet, and the number of octets read so far. -/
  position : Nat
  first : UInt8
  count : Nat
  /-- The number of octets still to come, and the range of the next one. -/
  owed : Nat
  low : Nat
  high : Nat
  /-- The bits read so far. -/
  bits : Nat
deriving DecidableEq, Repr

/-- What a first octet announces, as the number of further octets, the range of the next one, and
the octet's own bits. The ranges leave out surrogates, longer forms than needed, and values
beyond the last code point. -/
def announced? (octet : UInt8) : Option (Nat × Nat × Nat × Nat) :=
  let value := octet.toNat
  if value < 0x80 then some (0, 0, 0, value)
  else if value < 0xC2 then none
  else if value < 0xE0 then some (1, 0x80, 0xBF, value % 0x20)
  else if value = 0xE0 then some (2, 0xA0, 0xBF, 0)
  else if value = 0xED then some (2, 0x80, 0x9F, 0xD)
  else if value < 0xF0 then some (2, 0x80, 0xBF, value % 0x10)
  else if value = 0xF0 then some (3, 0x90, 0xBF, 0)
  else if value < 0xF4 then some (3, 0x80, 0xBF, value % 0x8)
  else if value = 0xF4 then some (3, 0x80, 0x8F, 4)
  else none

def Partial.fault
    (started : Partial)
    (cause : Cause) :
    Fault :=
  ⟨started.position, started.first, started.count, cause⟩

/-- Reads on from `position`, perhaps inside a character; `done` holds the characters read so far,
last first. -/
def decodeFrom :
    (position : Nat) →
    (started : Option Partial) →
    (done : List Char) →
    List UInt8 →
    Except Fault (List Char)
  | _, none, done, [] => .ok done.reverse
  | _, some started, _, [] => .error (started.fault .unexpectedEnd)
  | position, none, done, octet :: rest =>
      match announced? octet with
      | none => .error ⟨position, octet, 1, .invalidStart⟩
      | some (0, _, _, bits) => decodeFrom (position + 1) none (Char.ofNat bits :: done) rest
      | some (owed, low, high, bits) =>
          decodeFrom (position + 1) (some ⟨position, octet, 1, owed, low, high, bits⟩) done rest
  | position, some started, done, octet :: rest =>
      if octet.toNat < started.low ∨ started.high < octet.toNat then
        .error (started.fault .invalidContinuation)
      else
        let bits := started.bits * 0x40 + octet.toNat % 0x40
        if started.owed ≤ 1 then
          decodeFrom (position + 1) none (Char.ofNat bits :: done) rest
        else
          decodeFrom
            (position + 1)
            (some
              { started with
                count := started.count + 1
                owed := started.owed - 1
                low := 0x80
                high := 0xBF
                bits := bits })
            done
            rest

def decode (octets : List UInt8) : Except Fault (List Char) :=
  decodeFrom 0 none [] octets

/-- The octets of a text. -/
def encode (text : String) : List UInt8 :=
  text.toUTF8.toList

end ThreatModel.Text.Utf8
