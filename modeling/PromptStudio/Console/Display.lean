import PromptStudio.Session.Run

set_option autoImplicit false

/-!
# Display

What a person gets to see, as lines of plain text: marks for colour and weight are left out.
-/

namespace PromptStudio

def isMarkLetter (c : Char) : Bool := c.isLower || c == '_' || c == '/'

def afterMark? (text : List Char) : Option (List Char) :=
  match text with
  | '[' :: rest =>
    match rest.takeWhile isMarkLetter, rest.dropWhile isMarkLetter with
    | _ :: _, ']' :: rest => some rest
    | _, _ => none
  | _ => none

-- A text without its marks; `skip` counts characters of a mark still to be left out.
def unmarkedFrom : (skip : Nat) → List Char → List Char
  | _, [] => []
  | skip + 1, _ :: rest => unmarkedFrom skip rest
  | 0, c :: rest =>
    match afterMark? (c :: rest) with
    | some after => unmarkedFrom (rest.length - after.length) rest
    | none => c :: unmarkedFrom 0 rest

def unmarked (text : String) : String := String.ofList (unmarkedFrom 0 text.toList)

def rowLine (cells : List String) : String := String.intercalate " | " (cells.map unmarked)

namespace Shown

def title (title : Option String) : List String :=
  (title.map fun text => "== " ++ unmarked text ++ " ==").toList

def lines : Shown → List String
  | .text line => [unmarked line]
  | .panel body top bottom _ => title top ++ [unmarked body] ++ title bottom
  | .table name columns rows =>
    title (some name) ++ rowLine (columns.map (·.1)) :: rows.map rowLine

end Shown

end PromptStudio
