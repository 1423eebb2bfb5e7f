import EventTransport.Text.Hex
import EventTransport.Text.Unprintable
import EventTransport.Text.Combining

/-!
Contract: text written so that every character can be seen.

Owns:
- `Escaping`, the two decisions in which the written forms differ;
- `Escaping.quoted`, a text between double quotes, as events show their values;
- `Escaping.bare`, a text without quotes around it, as refusals show a key.

Does not own: reading escaped text back.
-/

namespace EventTransport.Text

/-- What a written form escapes beyond backslashes and invisible characters. -/
structure Escaping where
  /-- The quotation marks that are escaped. -/
  quotes : List Char
  /-- Whether combining characters are escaped everywhere, or only at the front of the text. -/
  combiningEverywhere : Bool

namespace Escaping

/-- A code point in braces. -/
def codePoint (char : Char) : List Char :=
  '\\' :: 'u' :: '{' :: Nat.toDigits 16 char.toNat ++ ['}']

/-- The written form of one character. -/
def char (style : Escaping) (combining : Bool) (char : Char) : List Char :=
  if char = '\x00' then ['\\', '0']
  else if char = '\t' then ['\\', 't']
  else if char = '\r' then ['\\', 'r']
  else if char = '\n' then ['\\', 'n']
  else if char = '\\' || style.quotes.contains char then ['\\', char]
  else if combining && isCombining char then codePoint char
  else if isUnprintable char then codePoint char
  else [char]

/-- The written form of a list of characters; only its first one may combine with what stands
before the text. -/
def chars (style : Escaping) : List Char → List Char
  | [] => []
  | first :: rest => style.char true first ++ rest.flatMap (style.char style.combiningEverywhere)

/-- Between double quotes, double quotes and all combining characters are escaped. -/
def quotedStyle : Escaping := ⟨['"'], true⟩

/-- Without quotes around it, both quotation marks and a leading combining character are escaped. -/
def bareStyle : Escaping := ⟨['"', '\''], false⟩

def quoted (text : String) : String :=
  String.ofList ('"' :: quotedStyle.chars text.toList ++ ['"'])

/-- A text without quotes around it. -/
def bare (text : String) : String :=
  String.ofList (bareStyle.chars text.toList)

end Escaping

end EventTransport.Text
