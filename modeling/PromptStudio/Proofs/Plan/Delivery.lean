import PromptStudio.Proofs.Plan.Preference
import PromptStudio.Proofs.Template.Substitution
import PromptStudio.Proofs.Text.Trimming

set_option autoImplicit false

namespace PromptStudio

section Steps

variable {fields : Entries Json} {name text : String} {heading : List Char}

def underHeading (heading text : List Char) : List Char :=
  if text = [] then heading else heading ++ '\n' :: text

/-- A heading that trimming leaves alone and that no placeholder starts in. -/
structure Heading (heading : List Char) : Prop where
  filled : heading ≠ []
  trimmed : Trimmed heading
  plain : '{' ∉ heading

theorem chars_underHeading (headed : Heading heading) (spellable : Spellable name)
    (held : Entries.get? fields name = some (.str text)) (trimmed : Trimmed text.toList) {s : Step}
    (written : s.template.toList = heading ++ '\n' :: (slot name).toList) :
    s.chars (some (.plain (.obj fields))) = underHeading heading text.toList := by
  have plain : '{' ∉ heading ++ ['\n'] := by simp [headed.plain]
  have single : ¬['{', '{'] <:+: heading ++ ['\n'] := fun twice =>
    plain (twice.subset List.mem_cons_self)
  have spelled : (slot name).toList = '{' :: '{' :: (name.toList ++ ['}', '}']) := by simp [slot]
  have rendered : renderChars (some (.plain (.obj fields))) s.template.toList =
      heading ++ ['\n'] ++ text.toList := by
    have literal := renderFrom_literal (some (.plain (.obj fields))) single (slot name).toList
      (by simp)
    rw [spelled, renderFrom_slot _ spellable.filled spellable.closed, spellable.bare,
      resolve_spellable spellable held] at literal
    rw [written, spelled, renderChars]
    simpa [Datum.charsOf, Datum.chars, renderFrom] using literal
  rw [Step.chars, rendered, underHeading]
  split
  next empty =>
    rw [empty, List.append_nil]
    exact trimChars_append_blank headed.trimmed (by simp; decide)
  next more =>
    rw [(headed.trimmed.append headed.filled ['\n'] trimmed more).trimChars]
    simp

theorem isIncluded_whenPresent (spellable : Spellable name)
    (held : Entries.get? fields name = some (.str text)) {s : Step}
    (conditions : s.conditions = [whenPresent name]) :
    s.isIncluded (some (.plain (.obj fields))) = (text != "") := by
  have filled : name ≠ "" := fun empty => spellable.filled (by rw [empty]; rfl)
  simp [Step.isIncluded, conditions, whenPresent, Condition.holds, Condition.holdsAt, filled,
    resolve_spellable spellable held, Condition.isPresent]

theorem underHeading_ne_nil (headed : Heading heading) (text : List Char) :
    underHeading heading text ≠ [] := by
  unfold underHeading
  split <;> simp [headed.filled]

end Steps

section Delivery

def briefHeading : List Char := "USER BRIEF:".toList

def notesHeading : List Char := "ADDITIONAL NOTES:".toList

def delivered (brief notes : String) : String :=
  (if brief = "" then "USER BRIEF:" else "USER BRIEF:\n" ++ brief) ++
    if notes = "" then "" else "\n\nADDITIONAL NOTES:\n" ++ notes

theorem heading_brief : Heading briefHeading := by
  have ends : briefHeading = 'U' :: "SER BRIEF".toList ++ [':'] := by decide +kernel
  exact ⟨by decide +kernel, ends ▸ trimmed_of_ends _ (by decide) (by decide), by decide +kernel⟩

theorem heading_notes : Heading notesHeading := by
  have ends : notesHeading = 'A' :: "DDITIONAL NOTES".toList ++ [':'] := by decide +kernel
  exact ⟨by decide +kernel, ends ▸ trimmed_of_ends _ (by decide) (by decide), by decide +kernel⟩

theorem toList_briefTitle : "USER BRIEF:\n".toList = briefHeading ++ ['\n'] := by decide +kernel

theorem spellable_userInput : Spellable "userInput" := by
  constructor <;> decide +kernel

theorem spellable_notes : Spellable "notes" := by
  constructor <;> decide +kernel

variable {fields : Entries Json} {brief notes : String}

theorem parts_sharedUserSteps (briefHeld : Entries.get? fields "userInput" = some (.str brief))
    (notesHeld : Entries.get? fields "notes" = some (.str notes))
    (trimmedBrief : Trimmed brief.toList) (trimmedNotes : Trimmed notes.toList) :
    Blocks.parts sharedUserSteps (some (.plain (.obj fields))) =
      underHeading briefHeading brief.toList ::
        if notes = "" then [] else [underHeading notesHeading notes.toList] := by
  let briefStep := userStep "user-brief" ("USER BRIEF:\n" ++ slot "userInput") []
  let notesStep :=
    userStep "user-notes" ("ADDITIONAL NOTES:\n" ++ slot "notes") [whenPresent "notes"]
  have notesTitle : "ADDITIONAL NOTES:\n".toList = notesHeading ++ ['\n'] := by decide +kernel
  have first : briefStep.chars (some (.plain (.obj fields))) =
      underHeading briefHeading brief.toList := by
    refine chars_underHeading heading_brief spellable_userInput briefHeld trimmedBrief ?_
    simp only [briefStep, userStep, String.toList_append, toList_briefTitle, List.append_assoc,
      List.cons_append, List.nil_append]
  have second : notesStep.chars (some (.plain (.obj fields))) =
      underHeading notesHeading notes.toList := by
    refine chars_underHeading heading_notes spellable_notes notesHeld trimmedNotes ?_
    simp only [notesStep, userStep, String.toList_append, notesTitle, List.append_assoc,
      List.cons_append, List.nil_append]
  have always : briefStep.isIncluded (some (.plain (.obj fields))) = true := rfl
  have told : notesStep.isIncluded (some (.plain (.obj fields))) = (notes != "") :=
    isIncluded_whenPresent spellable_notes notesHeld rfl
  have briefSaid := underHeading_ne_nil heading_brief brief.toList
  have notesSaid := underHeading_ne_nil heading_notes notes.toList
  change Blocks.parts [briefStep, notesStep] _ = _
  by_cases silent : notes = ""
  next => simp [Blocks.parts, always, told, silent, first, briefSaid]
  next =>
    simp [Blocks.parts, always, told, silent, first, second, briefSaid, notesSaid]

theorem text_sharedUserSteps (briefHeld : Entries.get? fields "userInput" = some (.str brief))
    (notesHeld : Entries.get? fields "notes" = some (.str notes))
    (trimmedBrief : Trimmed brief.toList) (trimmedNotes : Trimmed notes.toList) :
    Blocks.text sharedUserSteps (some (.plain (.obj fields))) = delivered brief notes := by
  have blank (s : String) : s.toList = [] ↔ s = "" := String.toList_eq_nil_iff
  have notesTitle : "\n\nADDITIONAL NOTES:\n".toList =
      Blocks.separator ++ (notesHeading ++ ['\n']) := by decide +kernel
  have briefSaid : (if brief = "" then "USER BRIEF:" else "USER BRIEF:\n" ++ brief).toList =
      underHeading briefHeading brief.toList := by
    simp only [underHeading, blank]
    split
    next => rfl
    next =>
      simp only [String.toList_append, toList_briefTitle, List.append_assoc, List.cons_append,
        List.nil_append]
  have notesSaid (told : notes ≠ "") : ("\n\nADDITIONAL NOTES:\n" ++ notes).toList =
      Blocks.separator ++ underHeading notesHeading notes.toList := by
    simp only [underHeading, blank, told, if_false, String.toList_append, notesTitle,
      List.append_assoc, List.cons_append, List.nil_append]
  rw [Blocks.text, Blocks.chars,
    parts_sharedUserSteps briefHeld notesHeld trimmedBrief trimmedNotes, ← String.toList_inj,
    String.toList_ofList, delivered, String.toList_append, briefSaid]
  by_cases silent : notes = ""
  next => simp [silent, List.intercalate]
  next => simp only [silent, if_false, notesSaid silent]; simp [List.intercalate]

theorem delivered_ne_empty (brief notes : String) : delivered brief notes ≠ "" := by
  unfold delivered
  split <;> simp

end Delivery

namespace PlanRequest

theorem plan_delivered (r : PlanRequest) :
    ∃ p, r.plan standardRegistry [] = .ok p ∧
      p.userPrompt = delivered (trim r.userInput) (trim r.notes) := by
  obtain ⟨key, spec, chosen, listed⟩ := resolve_standard r.specId
  have steps := standardRegistry_userSteps _ listed
  have trimmed (text : String) : Trimmed (trim text).toList := by
    rw [toList_trim]
    exact trimmed_trimChars text.toList
  have text : Blocks.text spec.userSteps (some (.plain (.obj (r.context spec)))) =
      delivered (trim r.userInput) (trim r.notes) := by
    rw [steps]
    exact text_sharedUserSteps rfl rfl (trimmed r.userInput) (trimmed r.notes)
  refine ⟨r.planFrom spec, by rw [plan, chosen]; rfl, ?_⟩
  simp only [planFrom, text, beq_iff_eq, delivered_ne_empty, if_false]

end PlanRequest

end PromptStudio
