import RelationalQuery.Text.Unprintable

/-!
# Quoted text

Text inside a message is put in double quotes, with escapes for the quote, the backslash and every
character that could not be seen.
-/

namespace RelationalQuery.Text

/-- A character between quotes. -/
def quotedChar (c : Char) : List Char :=
  if c = '"' then ['\\', '"']
  else if c = '\\' then ['\\', '\\']
  else if c = '\n' then ['\\', 'n']
  else if c = '\r' then ['\\', 'r']
  else if c = '\t' then ['\\', 't']
  else if c = '\x00' then ['\\', '0']
  else if isUnprintable c then
    '\\' :: 'u' :: '\x7b' :: (Nat.toDigits 16 c.toNat ++ ['\x7d'])
  else [c]

/-- The text in double quotes. -/
def quoted (text : String) : String :=
  String.ofList ('"' :: (text.toList.flatMap quotedChar ++ ['"']))

example : quoted "a\"b\n\x01" = "\"a\\\"b\\n\\u\x7b1\x7d\"" := by decide +kernel

end RelationalQuery.Text
