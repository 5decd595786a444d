import Denotation.Text.Unprintable

/-!
# Quoted texts

A quoted text stands between two quotes.  Inside, the quote itself and the backslash have a backslash
before them, four control characters have an escape with a letter or digit, and all other
unprintable characters are written as their code point.
-/

namespace Denotation.Text

def codePointEscape (char : Char) : List Char :=
  ['\\', 'u', '\x7b'] ++ Nat.toDigits 16 char.toNat ++ ['\x7d']

def quotedChar (quote char : Char) : List Char :=
  if char = '\x00' then ['\\', '0']
  else if char = '\t' then ['\\', 't']
  else if char = '\r' then ['\\', 'r']
  else if char = '\n' then ['\\', 'n']
  else if char = quote ∨ char = '\\' then ['\\', char]
  else if isUnprintable char then codePointEscape char
  else [char]

def quoted (quote : Char) (chars : List Char) : String :=
  String.ofList ([quote] ++ chars.flatMap (quotedChar quote) ++ [quote])

end Denotation.Text
