import PromptStudio.Template.Path

set_option autoImplicit false

/-!
# Templates

A path in double braces is replaced by the text of what it leads to, in one pass from left to
right. What is put in is not looked at again.
-/

namespace PromptStudio

def placeholder? : List Char → Option (List Char × Nat)
  | '{' :: '{' :: rest =>
    let body := rest.takeWhile (· != '}')
    match body, rest.dropWhile (· != '}') with
    | _ :: _, '}' :: '}' :: _ => some (body, body.length + 4)
    | _, _ => none
  | _ => none

-- `skip` counts the characters of a placeholder that has already been replaced.
def renderFrom (context : Option Datum) : (skip : Nat) → List Char → List Char
  | _, [] => []
  | skip + 1, _ :: rest => renderFrom context skip rest
  | 0, c :: rest =>
    match placeholder? (c :: rest) with
    | some (path, length) =>
      Datum.charsOf (resolve context (trimChars path)) ++ renderFrom context (length - 1) rest
    | none => c :: renderFrom context 0 rest

def renderChars (context : Option Datum) (template : List Char) : List Char :=
  renderFrom context 0 template

def render (template : String) (context : Option Datum) : String :=
  String.ofList (renderChars context template.toList)

@[simp] theorem toList_render (template : String) (context : Option Datum) :
    (render template context).toList = renderChars context template.toList := by
  simp [render]

end PromptStudio
