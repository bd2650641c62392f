import PromptStudio.Json.Basic
import PromptStudio.Text.Numeral
import PromptStudio.Text.Quoted

set_option autoImplicit false

/-!
# Writing JSON text

A `Json.Style` fixes the separators and whether characters beyond ASCII are escaped. An integer with
too many digits has no text.
-/

namespace PromptStudio

def intChars (n : Int) : List Char :=
  if n < 0 then '-' :: decimalDigits n.natAbs else decimalDigits n.natAbs

def intText (n : Int) : String := String.ofList (intChars n)

namespace Json

structure Style where
  itemSeparator : String
  fieldSeparator : String
  asciiOnly : Bool

def Style.exchange : Style := ⟨", ", ": ", true⟩

-- Text a reader sees: nothing is escaped that need not be.
def Style.plain : Style := ⟨", ", ": ", false⟩

-- Values inside prompts: no white space outside strings.
def Style.compact : Style := ⟨",", ":", false⟩

def unitEscape (n : Nat) : List Char := '\\' :: 'u' :: hexText 4 n

-- Above U+FFFF a character is a pair of units.
def escapeWide (c : Char) : List Char :=
  if c.toNat < 0x10000 then unitEscape c.toNat
  else
    unitEscape (0xD800 + (c.toNat - 0x10000) / 1024) ++
      unitEscape (0xDC00 + (c.toNat - 0x10000) % 1024)

def escapeChar (asciiOnly : Bool) (c : Char) : List Char :=
  if c == '"' then ['\\', '"']
  else if c == '\\' then ['\\', '\\']
  else if c == '\n' then ['\\', 'n']
  else if c == '\r' then ['\\', 'r']
  else if c == '\t' then ['\\', 't']
  else if c.toNat == 8 then ['\\', 'b']
  else if c.toNat == 12 then ['\\', 'f']
  else if c.toNat < 32 then unitEscape c.toNat
  else if asciiOnly && 126 < c.toNat then escapeWide c
  else [c]

def literal (asciiOnly : Bool) (text : List Char) : List Char :=
  '"' :: text.flatMap (escapeChar asciiOnly) ++ ['"']

def boolChars (b : Bool) : List Char := if b then "true".toList else "false".toList

mutual

def chars (style : Style) : Json → List Char
  | .null => "null".toList
  | .bool b => boolChars b
  | .int n => intChars n
  | .float x => x.jsonText.toList
  | .str s => literal style.asciiOnly s.toList
  | .arr items => '[' :: itemChars style items ++ [']']
  | .obj fields => '{' :: fieldChars style fields ++ ['}']

def itemChars (style : Style) : List Json → List Char
  | [] => []
  | [item] => item.chars style
  | item :: rest => item.chars style ++ style.itemSeparator.toList ++ itemChars style rest

def fieldChars (style : Style) : List (String × Json) → List Char
  | [] => []
  | [(key, value)] =>
    literal style.asciiOnly key.toList ++ style.fieldSeparator.toList ++ value.chars style
  | (key, value) :: rest =>
    literal style.asciiOnly key.toList ++ style.fieldSeparator.toList ++ value.chars style ++
      style.itemSeparator.toList ++ fieldChars style rest

end

def write (style : Style) (v : Json) : String := String.ofList (v.chars style)

mutual

def isWritable : Json → Bool
  | .int n => (decimalDigits n.natAbs).length ≤ digitLimit
  | .arr items => itemsWritable items
  | .obj fields => fieldsWritable fields
  | _ => true

def itemsWritable : List Json → Bool
  | [] => true
  | item :: rest => item.isWritable && itemsWritable rest

def fieldsWritable : List (String × Json) → Bool
  | [] => true
  | (_, v) :: rest => v.isWritable && fieldsWritable rest

end

def write? (style : Style) (v : Json) : Option String :=
  if v.isWritable then some (v.write style) else none

def lineBreak (depth : Nat) : List Char := '\n' :: List.replicate (2 * depth) ' '

mutual

-- One item or name a line, two spaces for each level.
def tree (depth : Nat) : Json → List Char
  | .arr [] => "[]".toList
  | .obj [] => ['{', '}']
  | .arr items => '[' :: treeItems (depth + 1) items ++ lineBreak depth ++ [']']
  | .obj fields => '{' :: treeFields (depth + 1) fields ++ lineBreak depth ++ ['}']
  | .null => "null".toList
  | .bool b => boolChars b
  | .int n => intChars n
  | .float x => x.jsonText.toList
  | .str s => literal true s.toList

def treeItems (depth : Nat) : List Json → List Char
  | [] => []
  | [item] => lineBreak depth ++ item.tree depth
  | item :: rest => lineBreak depth ++ item.tree depth ++ ',' :: treeItems depth rest

def treeFields (depth : Nat) : List (String × Json) → List Char
  | [] => []
  | [(key, value)] =>
    lineBreak depth ++ literal true key.toList ++ ':' :: ' ' :: value.tree depth
  | (key, value) :: rest =>
    lineBreak depth ++ literal true key.toList ++ ':' :: ' ' :: value.tree depth ++
      ',' :: treeFields depth rest

end

def writeTree (v : Json) : String := String.ofList (v.tree 0)

mutual

def inner : Json → List Char
  | .null => "None".toList
  | .bool b => if b then "True".toList else "False".toList
  | .int n => intChars n
  | .float x => x.text.toList
  | .str s => quotedChars s.toList
  | .arr items => '[' :: innerItems items ++ [']']
  | .obj fields => '{' :: innerFields fields ++ ['}']

def innerItems : List Json → List Char
  | [] => []
  | [item] => item.inner
  | item :: rest => item.inner ++ ',' :: ' ' :: innerItems rest

def innerFields : List (String × Json) → List Char
  | [] => []
  | [(key, value)] => quotedChars key.toList ++ ':' :: ' ' :: value.inner
  | (key, value) :: rest =>
    quotedChars key.toList ++ ':' :: ' ' :: value.inner ++ ',' :: ' ' :: innerFields rest

end

-- The value as it stands in a sentence: a text is itself, all else as in a list. Integers are
-- written whatever their length, since one that was read from a text has at most `digitLimit` digits.
def display : Json → String
  | .str s => s
  | v => String.ofList v.inner

end Json

end PromptStudio
