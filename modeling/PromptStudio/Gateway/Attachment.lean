import PromptStudio.Form.Reader

set_option autoImplicit false

/-!
# Attachments

A file that goes with a prompt. Models are shown images; other files are named in the prompt.
-/

namespace PromptStudio

structure Attachment where
  url : String
  contentType : String := "image/png"
  label : String := ""
  deriving DecidableEq, Inhabited

namespace Attachment

def read : Reader Attachment :=
  Reader.record "Attachment" fun fields =>
    Attachment.mk
      <$> Reader.needed fields "url" Reader.text
      <*> Reader.withDefault fields "content_type" "image/png" Reader.text
      <*> Reader.withDefault fields "label" "" Reader.text

def toJson (a : Attachment) : Json :=
  .obj [("url", .str a.url), ("content_type", .str a.contentType), ("label", .str a.label)]

def isImage (a : Attachment) : Bool := "image/".toList.isPrefixOf a.contentType.toList

def line (a : Attachment) : String :=
  "- " ++ (if a.label == "" then "Attachment" else a.label) ++ " (" ++ a.contentType ++ "): " ++
    a.url

def images (attachments : List Attachment) : List Attachment := attachments.filter isImage

def references (attachments : List Attachment) : List Attachment :=
  attachments.filter fun a => !a.isImage

end Attachment

-- A prompt followed by a line for each file that is no image.
def withReferences (prompt : String) (attachments : List Attachment) : String :=
  let references := Attachment.references attachments
  if references.isEmpty then prompt
  else
    prompt ++ "\n\nAttached references:\n" ++
      String.intercalate "\n" (references.map Attachment.line)

end PromptStudio
