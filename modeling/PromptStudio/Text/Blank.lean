set_option autoImplicit false

/-!
# Blank characters

`isBlank` is every character that text is trimmed of. `isSpacing` leaves out the four separators
of records and units below U+0020; numerals and form fields are trimmed of it.
-/

namespace PromptStudio

def isSpacing (c : Char) : Bool :=
  let n := c.toNat
  (9 ≤ n && n ≤ 13) || n == 32 || n == 133 || n == 160 || n == 5760 || (8192 ≤ n && n ≤ 8202) ||
    n == 8232 || n == 8233 || n == 8239 || n == 8287 || n == 12288

def isBlank (c : Char) : Bool := isSpacing c || (28 ≤ c.toNat && c.toNat ≤ 31)

def dropEnd (p : Char → Bool) (text : List Char) : List Char :=
  (text.reverse.dropWhile p).reverse

-- Drop what satisfies `p` at both ends.
def trimWhere (p : Char → Bool) (text : List Char) : List Char := dropEnd p (text.dropWhile p)

def trimChars (text : List Char) : List Char := trimWhere isBlank text

def trim (text : String) : String := String.ofList (trimChars text.toList)

@[simp] theorem toList_trim (text : String) : (trim text).toList = trimChars text.toList := by
  simp [trim]

-- `needle` stands somewhere in the text.
def occursIn (needle : List Char) : List Char → Bool
  | [] => needle.isEmpty
  | c :: rest => needle.isPrefixOf (c :: rest) || occursIn needle rest

-- The first `count` characters.
def cut (count : Nat) (text : String) : String := String.ofList (text.toList.take count)

end PromptStudio
