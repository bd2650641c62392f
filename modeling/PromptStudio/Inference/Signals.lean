import PromptStudio.Inference.Phrase

set_option autoImplicit false

/-!
# Signals of a brief

For each setting the values it may take, and the phrases that speak for each value.
-/

namespace PromptStudio

/-- A value, and the phrases that speak for it. -/
structure Row where
  value : String
  phrases : List Phrase
  deriving Inhabited

/-- A setting that a brief may reveal. -/
structure Signal where
  name : String
  rows : List Row
  deriving Inhabited

def worded (phrases : List String) : List Phrase := phrases.map Phrase.plain

def outputTypeRows : List Row := [
  ⟨"deck",
    worded ["presentation"] ++
    [[.letters "slide", .maybe 's']] ++
    worded ["deck", "pitch"]⟩,
  ⟨"data",
    worded ["api", "schema", "database", "data dictionary", "dashboard", "analytics report"]⟩,
  ⟨"code",
    worded ["code", "function", "class", "module", "bug fix", "refactor", "migration",
      "endpoint"]⟩,
  ⟨"copy",
    worded ["press release", "ad copy", "landing page", "tagline", "product description",
      "email campaign", "social media post"]⟩,
  ⟨"comms",
    worded ["email", "memo", "announcement", "update", "brief", "feedback", "1:1", "one-on-one"]⟩,
  ⟨"doc",
    worded ["document", "doc", "spec", "specification", "report", "guide", "manual", "proposal"]⟩]

def deckTypeRows : List Row := [
  ⟨"investor",
    worded ["investor", "pitch", "funding"] ++
    [[.letters "series", .gap, .within 'a' 'z']] ++
    worded ["seed", "venture", "vc"]⟩,
  ⟨"sales",
    worded ["sales", "prospect", "client", "customer pitch", "deal"]⟩,
  ⟨"board",
    worded ["board", "quarterly"] ++
    [[.letters "q", .within '1' '4']] ++
    worded ["directors", "governance"]⟩,
  ⟨"internal",
    worded ["internal", "team meeting", "stakeholder", "decision"]⟩,
  ⟨"training",
    worded ["training", "workshop", "onboarding", "learning", "course"]⟩]

def dataTypeRows : List Row := [
  ⟨"api",
    worded ["api", "rest", "graphql", "endpoint", "swagger", "openapi"]⟩,
  ⟨"schema",
    worded ["schema", "database", "table", "entity", "erd", "sql", "nosql", "postgres", "mysql",
      "mongo"]⟩,
  ⟨"dictionary",
    worded ["data dictionary", "field definition", "column definition", "metadata"]⟩,
  ⟨"analytics",
    worded ["analytics", "report", "findings", "metrics", "kpi", "analysis"]⟩,
  ⟨"dashboard",
    worded ["dashboard", "visualization", "tableau", "looker", "powerbi", "chart"]⟩]

def codeTypeRows : List Row := [
  ⟨"feature",
    worded ["feature", "user story", "requirement", "spec", "specification", "functional",
      "prd"]⟩,
  ⟨"bugfix",
    worded ["bug", "fix", "issue", "defect", "error", "broken", "regression"]⟩,
  ⟨"refactor",
    worded ["refactor", "cleanup", "technical debt", "modernize", "restructure"]⟩,
  ⟨"api",
    worded ["api", "endpoint", "route", "controller", "service layer"]⟩,
  ⟨"migration",
    worded ["migration", "migrate", "upgrade", "schema change", "data migration"]⟩]

def copyTypeRows : List Row := [
  ⟨"press",
    worded ["press release", "pr", "media release", "news release"]⟩,
  ⟨"email",
    worded ["email", "newsletter", "drip", "campaign", "nurture"]⟩,
  ⟨"ad",
    worded ["ad", "advertisement", "paid", "ppc", "facebook ad", "google ad", "linkedin ad"]⟩,
  ⟨"landing",
    worded ["landing page", "lp", "conversion", "signup", "lead gen"]⟩,
  ⟨"social",
    worded ["social", "twitter", "linkedin post", "instagram", "facebook post", "thread"]⟩,
  ⟨"product",
    worded ["product description", "pdp", "listing", "amazon", "shopify", "ecommerce"]⟩,
  ⟨"tagline",
    worded ["tagline", "slogan", "headline", "hook", "catchphrase"]⟩]

def commsTypeRows : List Row := [
  ⟨"exec_update",
    [[.anyOf ["exec", "executive", "leadership", "c-suite", "vp", "director"], .gap,
      .anyOf ["update", "report", "summary"]]]⟩,
  ⟨"allhands",
    [[.letters "all", .joint, .letters "hands"]] ++
    worded ["town hall"] ++
    [[.letters "company", .joint, .letters "wide"], [.letters "org", .joint, .letters "wide"]]⟩,
  ⟨"oneone",
    worded ["1:1"] ++
    [[.letters "one", .joint, .letters "on", .joint, .letters "one"]] ++
    worded ["1-on-1"] ++
    [[.letters "check", .joint, .letters "in"]] ++
    worded ["direct report"]⟩,
  ⟨"stakeholder",
    worded ["stakeholder", "brief", "decision maker", "sponsor", "executive brief"]⟩,
  ⟨"announcement",
    worded ["announce", "announcement", "news", "launch", "rollout", "introduce"]⟩,
  ⟨"feedback",
    worded ["feedback", "performance", "review", "constructive", "improvement"]⟩]

def emotionalAppealRows : List Row := [
  ⟨"fear",
    worded ["fear", "fomo", "miss out", "urgent", "scarcity", "limited", "deadline"]⟩,
  ⟨"aspiration",
    worded ["aspiration", "dream", "achieve", "success", "potential", "transform"]⟩,
  ⟨"trust",
    worded ["trust", "credibility", "proof", "testimonial", "case study", "evidence"]⟩,
  ⟨"belonging",
    worded ["belong", "community", "tribe", "together", "join", "part of"]⟩,
  ⟨"curiosity",
    worded ["curiosity", "discover", "secret", "reveal", "learn", "find out"]⟩]

def ctaTypeRows : List Row := [
  ⟨"purchase",
    worded ["buy", "purchase", "order", "checkout", "shop"]⟩,
  ⟨"signup",
    [[.letters "sign", .joint, .letters "up"]] ++
    worded ["register", "subscribe", "join"]⟩,
  ⟨"learn",
    worded ["learn more", "read more", "discover", "explore"]⟩,
  ⟨"contact",
    worded ["contact", "get in touch", "reach out", "talk to"]⟩,
  ⟨"download",
    worded ["download", "get the", "free", "ebook", "whitepaper", "guide"]⟩,
  ⟨"book",
    worded ["book", "schedule", "demo", "consultation", "call"]⟩]

def signals : List Signal :=
  [⟨"output_type", outputTypeRows⟩,
    ⟨"deck_type", deckTypeRows⟩,
    ⟨"data_type", dataTypeRows⟩,
    ⟨"code_type", codeTypeRows⟩,
    ⟨"copy_type", copyTypeRows⟩,
    ⟨"comms_type", commsTypeRows⟩,
    ⟨"emotional_appeal", emotionalAppealRows⟩,
    ⟨"cta_type", ctaTypeRows⟩]

end PromptStudio
