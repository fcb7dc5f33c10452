import Lifeline.Text.Visible
/-! A text in quotation marks, with everything escaped that would not show. -/
namespace Lifeline.Text

/-- The mark and the backslash get a backslash, four controls a letter, and any other character
that does not show its code in braces. -/
def quoteChar (c : Char) : List Char :=
  if c = '"' then ['\\', '"']
  else if c = '\\' then ['\\', '\\']
  else if c = '\n' then ['\\', 'n']
  else if c = '\r' then ['\\', 'r']
  else if c = '\t' then ['\\', 't']
  else if c = '\x00' then ['\\', '0']
  else if isVisible c then [c]
  else '\\' :: 'u' :: '\x7b' :: Nat.toDigits 16 c.toNat ++ ['\x7d']

def quoted (s : String) : String := String.ofList ('"' :: s.toList.flatMap quoteChar ++ ['"'])

example : quoted "a\"b\u200b" = "\"a\\\"b\\u\x7b200b\x7d\"" := by decide +kernel

end Lifeline.Text
