import Formulary.Text.Unseen

/-!
# Quoted text

Messages quote the text they complain about. The quote is an apostrophe, or a double quote when the
text has apostrophes and no double quotes, so that most texts need no escapes. A backslash escapes
itself and the quote; tab, line feed and carriage return have their letters; any other character that
would not be seen is written by its code point, in two, four or eight hexadecimal digits.
-/

set_option autoImplicit false

namespace Formulary.Text

/-- The apostrophe. -/
def apostrophe : Char :=
  '\x27'

/-- A number in hexadecimal digits, filled up to `width` with zeros. -/
def hex (width n : Nat) : List Char :=
  List.replicate (width - (Nat.toDigits 16 n).length) '0' ++ Nat.toDigits 16 n

/-- A character by its code point. -/
def codePoint (c : Char) : List Char :=
  if c.toNat < 0x100 then '\\' :: 'x' :: hex 2 c.toNat
  else if c.toNat < 0x10000 then '\\' :: 'u' :: hex 4 c.toNat
  else '\\' :: 'U' :: hex 8 c.toNat

/-- The quote that a text is put in. -/
def quoteMark (s : List Char) : Char :=
  if s.contains apostrophe && !s.contains '"' then '"' else apostrophe

/-- One character between quotes. -/
def escape (mark c : Char) : List Char :=
  if c = '\\' ∨ c = mark then ['\\', c]
  else if c = '\t' then ['\\', 't']
  else if c = '\n' then ['\\', 'n']
  else if c = '\r' then ['\\', 'r']
  else if isUnseen c then codePoint c
  else [c]

/-- The text in quotes. -/
def quoted (text : String) : String :=
  let mark := quoteMark text.toList
  String.ofList (mark :: (text.toList.flatMap (escape mark) ++ [mark]))

/-! The choice of the quote, and the three ways of escaping. -/

example : quoted "1,5" = "'1,5'" := by decide

example : quoted "1'2" = "\"1'2\"" := by decide

example : quoted "'\"" = "'\\'\"'" := by decide

example : quoted "\t\x01" = "'\\t\\x01'" := by decide

end Formulary.Text
