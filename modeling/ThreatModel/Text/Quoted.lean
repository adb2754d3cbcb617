import ThreatModel.Text.Printable
import ThreatModel.Text.Utf8

/-!
Contract: the quoted form in which messages show a text.

Owns:
- the choice of the quote;
- the escapes of the quote, of backslashes, of line ends and tabs, and of
  characters that do not print.

Does not own: reading of quoted texts.
-/

namespace ThreatModel.Text

def quoteMark : Char := '\x27'

def doubleQuoteMark : Char := '\x22'

/-- Double quotes are used only for a text that has a single quote and no double quote. -/
def quoteFor (text : List Char) : Char :=
  if quoteMark ∈ text ∧ doubleQuoteMark ∉ text then doubleQuoteMark else quoteMark

def quotedChar
    (quote : Char)
    (character : Char) :
    List Char :=
  if character = quote ∨ character = '\\' then ['\\', character]
  else if character = '\t' then ['\\', 't']
  else if character = '\n' then ['\\', 'n']
  else if character = '\r' then ['\\', 'r']
  else if isPrintable character then [character]
  else if character.toNat < 0x100 then '\\' :: 'x' :: Utf8.hex 2 character.toNat
  else if character.toNat < 0x10000 then '\\' :: 'u' :: Utf8.hex 4 character.toNat
  else '\\' :: 'U' :: Utf8.hex 8 character.toNat

def quoted (text : String) : String :=
  let quote := quoteFor text.toList
  String.ofList (quote :: (text.toList.flatMap (quotedChar quote) ++ [quote]))

end ThreatModel.Text
