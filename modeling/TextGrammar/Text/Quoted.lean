import TextGrammar.Text.Bytes
import TextGrammar.Unicode.Property

/-!
Texts shown between double quotes. The quote, the backslash and the common controls have a short
escape, any other character without a glyph is written by its code in hexadecimal, and so is a
mark at the very start, which would combine with the opening quote.
-/

namespace TextGrammar

def hexDigits (value : Nat) : Text := Nat.toDigits 16 value

def codeEscape (character : Char) : Text :=
  ['\\', 'u', '\x7b'] ++ hexDigits character.toNat ++ ['\x7d']

def quotedCharacter (character : Char) : Text :=
  if character = '"' then ['\\', '"']
  else if character = '\\' then ['\\', '\\']
  else if character = '\n' then ['\\', 'n']
  else if character = '\r' then ['\\', 'r']
  else if character = '\t' then ['\\', 't']
  else if character = '\x00' then ['\\', '0']
  else if Unicode.isPrintable character then [character]
  else codeEscape character

def quotedStart : Text → Text
  | [] => []
  | first :: rest =>
      (if Unicode.isGraphemeExtend first then codeEscape first else quotedCharacter first) ++
        rest.flatMap quotedCharacter

def quoted (text : Text) : Text :=
  '"' :: (quotedStart text ++ ['"'])

end TextGrammar
