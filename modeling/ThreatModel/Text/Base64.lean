/-!
Contract: octets written with sixty-four letters.

Owns:
- the value of each letter, six bits each;
- reading, where other characters are passed over, and padding ends the text.

Does not own: what the octets mean.
-/

namespace ThreatModel.Text.Base64

/-- The six bits of a letter. -/
def sextet? (character : Char) : Option Nat :=
  if 'A' ≤ character ∧ character ≤ 'Z' then some (character.toNat - 'A'.toNat)
  else if 'a' ≤ character ∧ character ≤ 'z' then some (character.toNat - 'a'.toNat + 26)
  else if '0' ≤ character ∧ character ≤ '9' then some (character.toNat - '0'.toNat + 52)
  else if character = '+' then some 62
  else if character = '/' then some 63
  else none

/-- Reads on after `place` letters of a group of four, of which `bits` is left over, and after
`pads` signs of padding. A group that is cut short has to be padded. -/
def decodeFrom :
    (place bits pads : Nat) →
    List Char →
    Option (List UInt8)
  | place, _, _, [] => if place = 0 then some [] else none
  | place, bits, pads, '=' :: rest =>
      if 2 ≤ place ∧ 4 ≤ place + pads + 1 then some []
      else decodeFrom place bits (if 2 ≤ place then pads + 1 else pads) rest
  | place, bits, pads, character :: rest =>
      match sextet? character with
      | none => decodeFrom place bits pads rest
      | some value =>
          match place with
          | 0 => decodeFrom 1 value 0 rest
          | 1 => (decodeFrom 2 (value % 16) 0 rest).map (UInt8.ofNat (bits * 4 + value / 16) :: ·)
          | 2 => (decodeFrom 3 (value % 4) 0 rest).map (UInt8.ofNat (bits * 16 + value / 4) :: ·)
          | _ => (decodeFrom 0 0 0 rest).map (UInt8.ofNat (bits * 64 + value) :: ·)

def decode (text : List Char) : Option (List UInt8) :=
  decodeFrom 0 0 0 text

end ThreatModel.Text.Base64
