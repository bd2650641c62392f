import PromptStudio.Spec.Validation

set_option autoImplicit false

/-!
# Advice

What a choice suggests for another one, and the parts of a type that advice can fill in.
-/

namespace PromptStudio

def visualStyleFor (deckType : Option String) : String :=
  match deckType with
  | some "investor" => "image-rich"
  | some "sales" => "image-rich"
  | some "board" => "data-heavy"
  | some "training" => "data-heavy"
  | _ => "minimal"

-- The first language that lists the framework, whatever its case.
def languageFor (framework : Option String) : Option String :=
  match framework with
  | none => none
  | some framework =>
    if framework == "" then none
    else (frameworks.find? fun entry => entry.2.contains (lower framework)).map (·.1)

def errorHandlingFor (isProduction hasTests : Bool) : String :=
  if isProduction then "comprehensive" else if hasTests then "standard" else "minimal"

def reportSections : List String :=
  ["introduction", "methodology", "findings", "analysis", "conclusion", "recommendations"]

def sectionStructures : List (String × List String) :=
  [("report", reportSections),
    ("proposal", ["executive_summary", "problem_statement", "proposed_solution", "timeline",
      "budget", "conclusion"]),
    ("guide", ["introduction", "prerequisites", "steps", "troubleshooting", "faq"]),
    ("analysis", ["overview", "data_sources", "methodology", "findings", "implications"]),
    ("whitepaper", ["abstract", "introduction", "background", "solution", "benefits",
      "conclusion"]),
    ("memo", ["purpose", "background", "discussion", "action_items"]),
    ("requirements", ["executive_summary", "stakeholders", "functional_requirements",
      "non_functional_requirements", "user_stories", "acceptance_criteria", "constraints",
      "assumptions", "dependencies", "glossary"]),
    ("agenda", ["meeting_info", "attendees", "objectives", "agenda_items", "discussion_topics",
      "action_items", "next_steps"])]

def agendaStructures : List (String × List String) :=
  [("call", ["call_info", "attendees", "purpose", "talking_points", "questions", "next_steps"]),
    ("meeting", ["meeting_info", "attendees", "objectives", "agenda_items", "discussion_topics",
      "action_items", "next_steps"]),
    ("workshop", ["workshop_info", "facilitator", "participants", "objectives",
      "materials_needed", "activities", "wrap_up", "deliverables"]),
    ("standup", ["date_time", "attendees", "yesterday_updates", "today_plans", "blockers",
      "announcements"]),
    ("review", ["meeting_info", "attendees", "review_scope", "accomplishments", "demos",
      "feedback", "action_items"]),
    ("planning", ["meeting_info", "attendees", "goals", "backlog_review", "capacity",
      "commitments", "risks", "action_items"]),
    ("kickoff", ["project_overview", "stakeholders", "objectives", "scope", "timeline",
      "roles_responsibilities", "risks", "next_steps"]),
    ("one_on_one", ["meeting_info", "wins", "challenges", "priorities", "feedback",
      "career_development", "action_items"])]

def sectionsFor (documentType agendaType : Option String) : List String :=
  let agenda :=
    if documentType == some "agenda" then agendaType.bind fun name => agendaStructures.lookup name
    else none
  agenda.getD ((sectionStructures.lookup (documentType.getD "")).getD reportSections)

def summaryAdvised (length expertise : Option String) : Bool :=
  if length == some "short" then false
  else if expertise == some "expert" && length == some "medium" then false
  else length == some "long" || expertise == some "novice"

def outputFormatFor (useCase : Option String) : String :=
  match useCase with
  | some "export" => "csv"
  | some "api" => "json"
  | some "config" => "yaml"
  | _ => "table"

def formalityFor (relationship : Option String) : String :=
  match relationship with
  | some "peer" => "casual"
  | some "superior" => "formal"
  | some "public" => "formal"
  | _ => "professional"

structure ChannelTraits where
  maxLength : Nat
  supportsFormatting : Bool
  isAsync : Bool
  deriving DecidableEq, Inhabited

def emailTraits : ChannelTraits := ⟨500, true, true⟩

def channelTraits : List (String × ChannelTraits) :=
  [("email", emailTraits), ("slack", ⟨300, true, false⟩), ("memo", ⟨800, true, true⟩),
    ("letter", ⟨1000, false, true⟩), ("sms", ⟨160, false, false⟩), ("chat", ⟨200, false, false⟩)]

def traitsFor (channel : Option String) : ChannelTraits :=
  (channelTraits.lookup (channel.getD "")).getD emailTraits

def ChannelTraits.toJson (t : ChannelTraits) : Json :=
  .obj [("max_length", .int t.maxLength), ("supports_formatting", .bool t.supportsFormatting),
    ("async", .bool t.isAsync)]

def landingActions : List String := ["Sign Up", "Get Started", "Request Demo", "Download Now"]

def actionSuggestions : List (String × List String) :=
  [("ad", ["Shop Now", "Learn More", "Get Started", "Try Free"]),
    ("landing", landingActions),
    ("email", ["Read More", "Shop Now", "Claim Offer", "Book Now"]),
    ("social", ["Link in Bio", "Swipe Up", "Comment Below", "Share"]),
    ("press", ["Contact Us", "Learn More", "Read Full Release"]),
    ("product", ["Add to Cart", "Buy Now", "Pre-Order", "Subscribe"])]

def actionsFor (copyType : Option String) : List String :=
  (actionSuggestions.lookup (copyType.getD "")).getD landingActions

-- A name to look up; what cannot be a name is refused.
def lookupName (v : Json) : Outcome (Option String) :=
  match v with
  | .arr _ => .error (.wrongType "unhashable type: 'list'")
  | .obj _ => .error (.wrongType "unhashable type: 'dict'")
  | v => .ok v.asText?

def docGaps (s : PromptSpec) (provided : Section) : Outcome Section := do
  let own := s.typeSpecific
  let documentType := Section.text? own "document_type"
  let sections ←
    if (Section.items own "section_structure").isEmpty then do
      let agendaType ←
        if documentType == some "agenda" then lookupName (Section.value provided "agenda_type")
        else .ok none
      pure [("section_structure", Json.texts (sectionsFor documentType agendaType))]
    else pure []
  let summary :=
    if Entries.has provided "include_executive_summary" then []
    else [("include_executive_summary", Json.bool
      (summaryAdvised (Section.text? s.constraints "length")
        (Section.text? s.audience "expertise_level")))]
  return sections ++ summary

-- What advice adds to the part of the type.
def fillGaps (s : PromptSpec) (provided : Section) : Outcome Section :=
  let own := s.typeSpecific
  match s.variant? with
  | some .deck =>
    .ok (if Entries.has provided "visual_style" then []
      else [("visual_style", .str (visualStyleFor (Section.text? own "deck_type")))])
  | some .code =>
    .ok (if Section.flag own "language" then []
      else match languageFor (Section.text? own "framework") with
        | some language => [("language", .str language)]
        | none => [])
  | some .doc => docGaps s provided
  | some .comms =>
    .ok (if Entries.has provided "formality_level" then []
      else [("formality_level",
        .str (formalityFor (Section.text? s.audience "relationship")))])
  | _ => .ok []

end PromptStudio
