import Mathlib.Data.List.DropRight
import PromptStudio.Matrix.Cell
import PromptStudio.Proofs.Gateway.Parts
import PromptStudio.Proofs.Judge.Ranking

set_option autoImplicit false

namespace PromptStudio

def trimEnd (text : String) : String := String.ofList (dropEnd isBlank text.toList)

def Closed (text : String) : Prop := ∃ c, text.toList.getLast? = some c ∧ isBlank c = false

theorem Closed.append (front : String) {text : String} (closed : Closed text) :
    Closed (front ++ text) := by
  obtain ⟨c, last, visible⟩ := closed
  refine ⟨c, ?_, visible⟩
  rw [String.toList_append, List.getLast?_append, last, Option.some_or]

theorem trimEnd_append {front : String} (closed : Closed front) (tail : String) :
    trimEnd (front ++ tail) = front ++ trimEnd tail := by
  obtain ⟨c, last, visible⟩ := closed
  have kept : front.toList.rdropWhile isBlank = front.toList := by
    refine List.rdropWhile_eq_self_iff.mpr fun filled => ?_
    rw [Option.some.inj ((List.getLast?_eq_some_getLast filled).symm.trans last), visible]
    exact Bool.false_ne_true
  have split : dropEnd isBlank (front.toList ++ tail.toList) =
      front.toList ++ dropEnd isBlank tail.toList := by
    unfold List.rdropWhile at kept
    unfold dropEnd
    rw [List.reverse_append, List.dropWhile_append]
    split
    next nothing => rw [kept, List.isEmpty_iff.mp nothing, List.reverse_nil, List.append_nil]
    next => rw [List.reverse_append, List.reverse_reverse]
  rw [trimEnd, String.toList_append, split, String.ofList_append, String.ofList_toList]
  rfl

theorem trimEnd_line (text : String) : trimEnd (text ++ "\n") = trimEnd text := by
  unfold trimEnd dropEnd
  rw [String.toList_append, List.reverse_append]
  rfl

namespace Baseline

def heading (position : Nat) (b : Baseline) : String :=
  "### Example " ++ toString position ++ ": " ++ (if b.label == "" then "Baseline" else b.label) ++
    " (score: " ++ b.score.briefText ++ "/10)"

def text? (b : Baseline) : Option String :=
  if b.content = "" then b.file?.map fun url => "[Attached file: " ++ url ++ "]" else some b.content

def body (b : Baseline) : String :=
  match b.text? with
  | some text => "\n" ++ text
  | none => ""

/-- The examples, numbered from `position`, with an empty line between two of them. Blanks at the very
end are dropped. -/
def written (position : Nat) : List Baseline → String
  | [] => ""
  | [b] => "\n" ++ b.heading position ++ trimEnd b.body
  | b :: rest => "\n" ++ b.heading position ++ b.body ++ "\n" ++ written (position + 1) rest

theorem lines_eq (position : Nat) (b : Baseline) :
    b.lines position = b.heading position :: (b.text?.toList ++ [""]) := by
  change [b.heading position] ++ (if b.content != "" then [b.content] else _) ++ [""] = _
  unfold text?
  by_cases empty : b.content = "" <;> simp [empty]

theorem join_lines (position : Nat) (b : Baseline) :
    String.join ((b.lines position).map fun line => "\n" ++ line) =
      "\n" ++ b.heading position ++ b.body ++ "\n" := by
  rw [lines_eq, body]
  cases b.text? with
  | none => simp
  | some text => simp [String.append_assoc]

theorem heading_closed (front : String) (position : Nat) (b : Baseline) :
    Closed (front ++ b.heading position) := by
  have bracket : Closed "/10)" := ⟨')', rfl, rfl⟩
  have closed : Closed (b.heading position) := bracket.append _
  exact closed.append front

theorem trimEnd_linesFrom (front : String) (position : Nat) {shown : List Baseline}
    (listed : shown ≠ []) :
    trimEnd (front ++ String.join ((linesFrom position shown).map fun line => "\n" ++ line)) =
      front ++ written position shown := by
  fun_induction written position shown generalizing front with
  | case1 => exact absurd rfl listed
  | case2 position b =>
    have lines : linesFrom position [b] = b.lines position := List.append_nil _
    rw [lines, join_lines, ← String.append_assoc, trimEnd_line, ← String.append_assoc,
      ← String.append_assoc, trimEnd_append (heading_closed _ position b)]
    simp only [String.append_assoc]
  | case3 position b rest more ih =>
    rw [linesFrom, List.map_append, String.join_append, join_lines, ← String.append_assoc,
      ih _ more, String.append_assoc]

def title : String := "## Calibration Examples (human-scored, lowest to highest):"

def display (shown : List Baseline) : String :=
  if shown = [] then "" else "\n\n" ++ title ++ written 1 shown

theorem calibration_eq (given : List Baseline) : calibration given =
    if ranked given = [] then "" else title ++ written 1 (ranked given) := by
  have empty : given = [] ↔ ranked given = [] :=
    ⟨fun nothing => List.perm_nil.mp (nothing ▸ ranked_perm given),
      fun nothing => List.nil_perm.mp (nothing ▸ ranked_perm given)⟩
  unfold calibration
  by_cases nothing : given = []
  next => rw [if_pos (List.isEmpty_iff.mpr nothing), if_pos (empty.mp nothing)]
  next =>
    have listed := nothing ∘ empty.mpr
    rw [if_neg (nothing ∘ List.isEmpty_iff.mp), if_neg listed, ← trimEnd_linesFrom title 1 listed,
      ← intercalate_cons_eq_join]
    rfl

theorem join_calibration (given : List Baseline) :
    String.join ((if calibration given == "" then [] else [calibration given]).map
      fun text => "\n\n" ++ text) = display (ranked given) := by
  rw [calibration_eq, display]
  by_cases nothing : ranked given = []
  next => simp [nothing]
  next =>
    have filled : title ++ written 1 (ranked given) ≠ "" := fun empty => by
      have first := congrArg (fun text => text.toList.head?) empty
      simp [title] at first
    simp [nothing, filled, String.append_assoc]

end Baseline

theorem Exhibit.prompt_apart (x : Exhibit) : ∃ before after, ∀ given,
    { x with baselines := given }.prompt =
      before ++ Baseline.display (Baseline.ranked given) ++ after := by
  obtain ⟨first, others, last, parts⟩ : ∃ first others last, ∀ given,
      { x with baselines := given }.prompt = String.intercalate "\n\n" (first :: others ++
        (if Baseline.calibration given == "" then [] else [Baseline.calibration given]) ++
        [last]) := by
    apply Exists.intro
    apply Exists.intro
    apply Exists.intro
    intro given
    simp only [Exhibit.prompt]
    rfl
  refine ⟨first ++ String.join (others.map fun text => "\n\n" ++ text), "\n\n" ++ last,
    fun given => ?_⟩
  rw [parts, List.append_assoc, List.cons_append, intercalate_cons_eq_join, List.map_append,
    List.map_append, String.join_append, String.join_append, Baseline.join_calibration]
  simp [String.append_assoc]

namespace Baseline

def hasFile (b : Baseline) : Bool := b.fileUrl.any (· != "")

structure FileOf (b : Baseline) (a : Attachment) : Prop where
  url : b.fileUrl = some a.url
  label : a.label = b.label
  contentType : a.contentType = fullType b.contentType

theorem attachment?_cases (b : Baseline) :
    (b.hasFile = true ∧ ∃ a, b.attachment? = some a ∧ FileOf b a) ∨
      (b.hasFile = false ∧ b.attachment? = none) := by
  unfold hasFile attachment? file?
  cases address : b.fileUrl with
  | none => exact .inr ⟨rfl, rfl⟩
  | some url =>
    by_cases empty : url = ""
    next => exact .inr (by simp [empty])
    next => exact .inl ⟨by simp [empty], _, by simp [empty]; rfl, ⟨address, rfl, rfl⟩⟩

theorem filterMap_attachment? (shown : List Baseline) :
    List.Forall₂ FileOf (shown.filter hasFile) (shown.filterMap attachment?) := by
  induction shown with
  | nil => exact .nil
  | cons b rest ih =>
    rcases b.attachment?_cases with ⟨file, a, attached, own⟩ | ⟨fileless, unattached⟩
    next =>
      rw [List.filter_cons_of_pos file, List.filterMap_cons_some attached]
      exact .cons own ih
    next =>
      rwa [List.filter_cons_of_neg (Bool.eq_false_iff.mp fileless),
        List.filterMap_cons_none unattached]

end Baseline

namespace Hearing

variable {settings : Settings}

def on (h : Hearing) (x : Exhibit) : Hearing :=
  { h with
    prompt := x.prompt
    attachments := (Baseline.attachments x.baselines).map Attachment.toJson }

def bare (h : Hearing) : Hearing := { h with prompt := "", attachments := [] }

/-- The prompt numbers the examples as they are shown, the attachments are the files of those that
have one, and a request shows each file once, as an image or in a line below the prompt. -/
structure Conveys (h : Hearing) (settings : Settings) (before after : String)
    (shown : List Baseline) (files : List Attachment) : Prop where
  prompt : h.prompt = before ++ Baseline.display shown ++ after
  attached : List.Forall₂ Baseline.FileOf (shown.filter Baseline.hasFile) files
  -- A call can be prepared whenever one that shows nothing can.
  call : ∀ persona, h.call settings persona = (h.bare.call settings persona).map fun c =>
    { c with user := h.prompt, attachments := files }
  apart : (Attachment.images files ++ Attachment.references files).Perm files
  request : ∀ persona c, h.call settings persona = .ok c →
    ∃ parts, Part.shownBy? c.provider c.request = some parts ∧
      parts.filterMap Part.words? =
        [h.prompt ++ Attachment.referenceLines (Attachment.references files)] ∧
      parts.filterMap Part.image? = (Attachment.images files).map fun a =>
        (a.url, if c.provider = .google then some a.contentType else none)

theorem call_on (h : Hearing) (settings : Settings) (x : Exhibit) (persona : String) :
    (h.on x).call settings persona = ((h.on x).bare.call settings persona).map fun c =>
      { c with user := x.prompt, attachments := Baseline.attachments x.baselines } :=
  Call.prepare_shown settings h.model x.prompt (h.system persona) h.credentials h.callOptions
    (Baseline.attachments x.baselines)

theorem conveys_on (h : Hearing) (settings : Settings) {x : Exhibit} {before after : String}
    (prompt : x.prompt = before ++ Baseline.display (Baseline.ranked x.baselines) ++ after) :
    (h.on x).Conveys settings before after (Baseline.ranked x.baselines)
      (Baseline.attachments x.baselines) := by
  constructor
  case prompt => exact prompt
  case attached => exact Baseline.filterMap_attachment? _
  case call => exact h.call_on settings x
  case apart => exact Attachment.images_append_references_perm _
  case request =>
    intro persona c called
    rw [call_on] at called
    cases prepared : (h.on x).bare.call settings persona with
    | error f =>
      rw [prepared] at called
      cases called
    | ok c =>
      rw [prepared] at called
      cases called
      exact ⟨_, Call.shownBy?_request _, Call.words_parts _, Call.images_parts _⟩

theorem on_of_perm {x : Exhibit} {given other : List Baseline} (h : Hearing)
    (distinguished : Baseline.Distinguished given) (perm : other.Perm given) :
    h.on { x with baselines := other } = h.on { x with baselines := given } := by
  have same := Baseline.ranked_of_perm distinguished perm
  obtain ⟨before, after, prompt⟩ := x.prompt_apart
  unfold on Baseline.attachments
  rw [prompt other, prompt given, same]

end Hearing

theorem Experiment.hearing_on {e : Experiment} {cell : Combo} {blueprint output : String}
    {x : Exhibit} (built : e.exhibit cell blueprint output = .ok x) (model : String) (keys : Keys) :
    (e.hearing model keys x).on x = e.hearing model keys x := by
  obtain ⟨chosen, -, built⟩ := Outcome.bind_eq_ok.mp built
  cases built
  rfl

theorem examples_conveyed (h : Hearing) (settings : Settings) (x : Exhibit) :
    (∀ (e : Experiment) (cell : Combo) (blueprint output : String),
      e.exhibit cell blueprint output = .ok x →
        ∀ model keys, (e.hearing model keys x).on x = e.hearing model keys x) ∧
    ∃ before after, ∀ given : List Baseline,
      Baseline.Ranks (Baseline.ranked given) given ∧
      (h.on { x with baselines := given }).Conveys settings before after (Baseline.ranked given)
        (Baseline.attachments given) ∧
      (Baseline.Distinguished given → ∀ other, other.Perm given →
        h.on { x with baselines := other } = h.on { x with baselines := given }) := by
  constructor
  next => exact fun e cell blueprint output built model keys => e.hearing_on built model keys
  next =>
    obtain ⟨before, after, prompt⟩ := x.prompt_apart
    refine ⟨before, after, fun given => ⟨Baseline.ranked_ranks given, ?_, ?_⟩⟩
    next => exact h.conveys_on settings (prompt given)
    next => exact fun distinguished other => h.on_of_perm distinguished

namespace Baseline

def top : Baseline where
  score := .finite 9
  label := "top"
  content := "Fine"
  measured := ⟨by decide +kernel, by decide +kernel⟩

def low : Baseline where
  score := .finite 2
  label := "low"
  contentType := "pdf"
  fileUrl := some "u/low.pdf"
  measured := ⟨by decide +kernel, by decide +kernel⟩

def mid : Baseline where
  score := .finite 5
  label := "mid"
  contentType := "image"
  fileUrl := some "u/mid.png"
  measured := ⟨by decide +kernel, by decide +kernel⟩

end Baseline

def judgedByGemini : Hearing :=
  { (default : Hearing) with
    model := "gemini-2.5-pro", credentials := .obj [("gemini", .str "key")] }

def withExamples (given : List Baseline) : Hearing :=
  judgedByGemini.on { (default : Exhibit) with baselines := given }

theorem examples_conveyed_mixed :
    Baseline.Ranks [.low, .mid, .top] [.top, .low, .mid] ∧
    ∃ before after c parts,
      (withExamples [.top, .low, .mid]).prompt =
        before ++ Baseline.display [.low, .mid, .top] ++ after ∧
      (withExamples [.top, .low, .mid]).call {} soleJudge = .ok c ∧ c.provider = .google ∧
      Part.shownBy? c.provider c.request = some parts ∧
      parts.filterMap Part.words? = [(withExamples [.top, .low, .mid]).prompt ++
        "\n\nAttached references:\n- low (application/pdf): u/low.pdf"] ∧
      parts.filterMap Part.image? = [("u/mid.png", some "image/png")] ∧
      withExamples [.low, .top, .mid] = withExamples [.top, .low, .mid] := by
  have distinguished : Baseline.Distinguished [.top, .low, .mid] := by
    unfold Baseline.Distinguished
    decide +kernel
  have rising : Baseline.Rising [.low, .mid, .top] := by
    unfold Baseline.Rising
    decide +kernel
  have turned : [Baseline.top, .low, .mid].Perm [.low, .mid, .top] := by decide +kernel
  have ranked : Baseline.ranked [.top, .low, .mid] = [.low, .mid, .top] :=
    (Baseline.ranked_of_perm distinguished turned.symm).symm.trans (Baseline.ranked_of_rising rising)
  have files : Baseline.attachments [.top, .low, .mid] =
      [⟨"u/low.pdf", "application/pdf", "low"⟩, ⟨"u/mid.png", "image/png", "mid"⟩] := by
    rw [Baseline.attachments, ranked]
    decide +kernel
  obtain ⟨-, before, after, all⟩ := examples_conveyed judgedByGemini {} default
  obtain ⟨ranks, conveys, fixed⟩ := all [.top, .low, .mid]
  rw [ranked, files] at conveys
  have google : ((withExamples [.top, .low, .mid]).bare.call {} soleJudge).toOption.map
      Call.provider = some .google := by decide +kernel
  have called := conveys.call soleJudge
  cases prepared : (withExamples [.top, .low, .mid]).bare.call {} soleJudge with
  | error f =>
    rw [prepared] at google
    cases google
  | ok c =>
    rw [prepared] at google
    replace google : c.provider = .google := Option.some.inj google
    replace called := called.trans (congrArg _ prepared)
    obtain ⟨parts, shown, words, images⟩ := conveys.request soleJudge _ called
    refine ⟨ranked ▸ ranks, before, after, _, parts, conveys.prompt, called, google, shown,
      ?_, ?_, fixed distinguished _ (.swap _ _ _)⟩
    next => exact words
    next =>
      change _ = List.map (fun a : Attachment =>
        (a.url, if c.provider = .google then some a.contentType else none)) _ at images
      rw [google] at images
      exact images

end PromptStudio
