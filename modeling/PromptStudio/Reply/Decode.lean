import PromptStudio.Failure
import PromptStudio.Json.Reader
import PromptStudio.Text.Blank

set_option autoImplicit false

/-!
# Decoding replies

Models wrap JSON in prose. A fenced block is tried first, then the whole text, then what lies
between the first opening and the last closing brace. A decoded null does not count.
-/

namespace PromptStudio

def fence : List Char := ['\x60', '\x60', '\x60']

def splitAt? (mark : List Char) : List Char → Option (List Char × List Char)
  | [] => if mark.isEmpty then some ([], []) else none
  | c :: rest =>
    if mark.isPrefixOf (c :: rest) then some ([], (c :: rest).drop mark.length)
    else (splitAt? mark rest).map fun (before, after) => (c :: before, after)

def fencedBlock? (text : List Char) : Option (List Char) :=
  match splitAt? fence text with
  | none => none
  | some (_, after) =>
    let body := if "json".toList.isPrefixOf after then after.drop 4 else after
    (splitAt? fence (body.dropWhile isBlank)).map (·.1)

-- From the first opening brace to the last closing one.
def outerBraces? (text : List Char) : Option (List Char) :=
  match text.dropWhile (· != '{') with
  | [] => none
  | body =>
    match body.reverse.dropWhile (· != '}') with
    | [] => none
    | reversed => some reversed.reverse

-- The value a text denotes once trimmed; null is no value.
def decodeTrimmed? (text : List Char) : Option Json :=
  match Json.readChars? (trimChars text) with
  | some .null => none
  | decoded => decoded

def decodeFenced? (text : List Char) : Option Json := (fencedBlock? text).bind decodeTrimmed?

def decodeOuter? (text : List Char) : Option Json := (outerBraces? text).bind decodeTrimmed?

def decodeChars? (text : List Char) : Option Json :=
  (decodeFenced? text).or ((decodeTrimmed? text).or (decodeOuter? text))

def parseFailure (message raw : String) : Failure :=
  .model ⟨.undecodable raw, .badRequest, message, "", "", none⟩

def decodeText (text : String) : Outcome Json :=
  match decodeChars? text.toList with
  | some v => .ok v
  | none => .error (parseFailure "Failed to parse JSON response" text)

-- Containers are already decoded, and what is empty decodes like empty text.
def decodeReply : Json → Outcome Json
  | .arr items => .ok (.arr items)
  | .obj fields => .ok (.obj fields)
  | .str s => decodeText s
  | v =>
    if v.truthy then .error (.wrongType "expected string or bytes-like object")
    else decodeText ""

end PromptStudio
