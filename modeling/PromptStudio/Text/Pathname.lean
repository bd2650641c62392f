set_option autoImplicit false

/-!
# Path names

A path name is a root, which may be empty, and the steps from it. Steps that lead nowhere are left
out, so that names for one file that differ only in them are the same.
-/

namespace PromptStudio

structure Pathname where
  root : String := ""
  steps : List String
  deriving DecidableEq, Inhabited

namespace Pathname

-- Exactly two slashes are a root of their own.
def rootOf : List Char → String
  | '/' :: '/' :: '/' :: _ => "/"
  | '/' :: '/' :: _ => "//"
  | '/' :: _ => "/"
  | _ => ""

def ofText (text : String) : Pathname where
  root := rootOf text.toList
  steps := (text.splitOn "/").filter fun step => step != "" && step != "."

def text (p : Pathname) : String :=
  if p.root == "" && p.steps.isEmpty then "." else p.root ++ String.intercalate "/" p.steps

def join (p q : Pathname) : Pathname :=
  if q.root == "" then { p with steps := p.steps ++ q.steps } else q

end Pathname

end PromptStudio
