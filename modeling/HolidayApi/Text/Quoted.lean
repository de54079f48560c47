import HolidayApi.Text.Hidden

/-! # Quoted text

    A text between double quotes in which nothing is invisible: quotes and
    backslashes are escaped, a few controls have letters, and every other
    character without a picture of its own is shown by its number. Messages
    about data quote the texts that they found in this way. Documents escape
    characters by letters, too, and agree in all but a few of them (`escaped?`).
-/

namespace HolidayApi.Text

/-- A character as it stands between the quotes. -/
def quoteChar (c : Char) : List Char :=
  if c = '\x00' then ['\\', '0']
  else if c = '\t' then ['\\', 't']
  else if c = '\r' then ['\\', 'r']
  else if c = '\n' then ['\\', 'n']
  else if c = '\\' then ['\\', '\\']
  else if c = '"' then ['\\', '"']
  else if isHidden c then
    ['\\', 'u', '\x7b'] ++ Nat.toDigits 16 c.toNat ++ ['\x7d']
  else [c]

/-- The text in double quotes. -/
def quote (text : String) : String :=
  String.ofList ('"' :: text.toList.flatMap quoteChar ++ ['"'])

/-- The character that a letter after a backslash stands for in a document, where
    the characters in `plain` stand for themselves. -/
def escaped? (plain : List Char) (letter : Char) : Option Char :=
  if plain.contains letter then some letter
  else if letter = 'b' then some '\x08'
  else if letter = 'f' then some '\x0c'
  else if letter = 'n' then some '\n'
  else if letter = 'r' then some '\r'
  else if letter = 't' then some '\t'
  else none

end HolidayApi.Text
