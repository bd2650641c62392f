import PromptStudio.Text.Printable

set_option autoImplicit false

/-!
# Quoted text in displays

A text inside a displayed list or map stands in quotes. What has no visible form is written as the
shortest of `\xNN`, `\uNNNN` and `\UNNNNNNNN`.
-/

namespace PromptStudio

def hexDigit (n : Nat) : Char := (Nat.digitChar n)

-- The last `width` hexadecimal digits.
def hexText : (width : Nat) → (n : Nat) → List Char
  | 0, _ => []
  | width + 1, n => hexText width (n / 16) ++ [hexDigit (n % 16)]

def quoteChar (quote c : Char) : List Char :=
  if c == quote || c == '\\' then ['\\', c]
  else if c == '\n' then ['\\', 'n']
  else if c == '\r' then ['\\', 'r']
  else if c == '\t' then ['\\', 't']
  else if isHidden c then
    if c.toNat < 256 then '\\' :: 'x' :: hexText 2 c.toNat
    else if c.toNat < 65536 then '\\' :: 'u' :: hexText 4 c.toNat
    else '\\' :: 'U' :: hexText 8 c.toNat
  else [c]

-- Double quotes are used only where they save escaping: a `'` inside and no `"`.
def quoteMark (text : List Char) : Char :=
  if text.contains '\'' && !text.contains '"' then '"' else '\''

def quotedChars (text : List Char) : List Char :=
  let mark := quoteMark text
  mark :: text.flatMap (quoteChar mark) ++ [mark]

def quoted (text : String) : String := String.ofList (quotedChars text.toList)

end PromptStudio
