import PromptStudio.Text.Blank
import PromptStudio.Text.Word

set_option autoImplicit false

/-!
# Phrases in running text

A phrase is a list of pieces. `Phrase.ends` gives every place where a match of the phrase may end,
in order of preference; an occurrence must begin and end at the edge of a word. Text is expected in
lower case.
-/

namespace PromptStudio

inductive Piece where
  | letters (text : String)
  | gap
  | joint
  | maybe (c : Char)
  | within (first last : Char)
  | anyOf (choices : List String)
  deriving DecidableEq, Inhabited

abbrev Phrase := List Piece

/-- A place in a text: the character before it and the text after it. -/
structure Spot where
  before : Option Char
  after : List Char
  deriving DecidableEq, Inhabited

-- The dotless i and the long s have no lower case of their own.
def sameLetter (letter c : Char) : Bool :=
  letter == c || (letter == 'i' && c == 'ı') || (letter == 's' && c == 'ſ')

def isWithin (first last c : Char) : Bool :=
  let inside (c : Char) : Bool := first ≤ c && c ≤ last
  inside c || (inside 'i' && c == 'ı') || (inside 's' && c == 'ſ')

namespace Spot

def isEdge (s : Spot) : Bool := s.before.any isWord != s.after.head?.any isWord

def pass? (s : Spot) (accepts : Char → Bool) : Option Spot :=
  match s.after with
  | [] => none
  | c :: rest => if accepts c then some ⟨some c, rest⟩ else none

def passLetters? (s : Spot) : List Char → Option Spot
  | [] => some s
  | letter :: letters => (s.pass? (sameLetter letter)).bind fun next => next.passLetters? letters

-- The longest run of blanks comes first.
def passBlanks (before : Option Char) : List Char → List Spot
  | [] => [⟨before, []⟩]
  | c :: rest => (if isBlank c then passBlanks (some c) rest else []) ++ [⟨before, c :: rest⟩]

end Spot

def Piece.ends (p : Piece) (s : Spot) : List Spot :=
  match p with
  | .letters text => (s.passLetters? text.toList).toList
  | .gap => Spot.passBlanks s.before s.after
  | .joint => (s.pass? fun c => isBlank c || c == '-').toList ++ [s]
  | .maybe c => (s.pass? (sameLetter c)).toList ++ [s]
  | .within first last => (s.pass? (isWithin first last)).toList
  | .anyOf choices => choices.filterMap fun text => s.passLetters? text.toList

namespace Phrase

def ends : Phrase → Spot → List Spot
  | [], s => [s]
  | p :: rest, s => (p.ends s).flatMap (ends rest)

def plain (words : String) : Phrase :=
  ((words.toList.splitOn ' ').map fun word => .letters (String.ofList word)).intersperse .gap

def firstEnd? (phrases : List Phrase) (s : Spot) : Option Spot :=
  match phrases.flatMap (·.ends s) with
  | [] => none
  | ends => if s.isEdge then ends.find? Spot.isEdge else none

-- `skip` counts the characters of an occurrence that has already been noted.
def occurrencesFrom (phrases : List Phrase) :
    (position : Nat) → (before : Option Char) → (skip : Nat) → List Char → List Nat
  | _, _, _, [] => []
  | position, _, skip + 1, c :: rest => occurrencesFrom phrases (position + 1) (some c) skip rest
  | position, before, 0, c :: rest =>
    match firstEnd? phrases ⟨before, c :: rest⟩ with
    | some stop =>
      position ::
        occurrencesFrom phrases (position + 1) (some c) (rest.length - stop.after.length) rest
    | none => occurrencesFrom phrases (position + 1) (some c) 0 rest

-- The positions of the occurrences, none overlapping the one before.
def occurrences (phrases : List Phrase) (text : List Char) : List Nat :=
  occurrencesFrom phrases 0 none 0 text

end Phrase

end PromptStudio
