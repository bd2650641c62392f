import PromptStudio.Plan.Plan
import PromptStudio.Proofs.Template.Mentions

set_option autoImplicit false

namespace PromptStudio

def briefNames : List String := ["userInput", "notes"]

def Step.BriefFree (s : Step) : Prop := ∀ path ∈ s.paths, Avoids briefNames path

instance (s : Step) : Decidable s.BriefFree :=
  inferInstanceAs (Decidable (∀ path ∈ s.paths, Avoids briefNames path))

def RegistrySpec.BriefFree (spec : RegistrySpec) : Prop := ∀ s ∈ spec.systemSteps, s.BriefFree

section Standard

-- A written text is its characters; computing them from its bytes takes far longer.
theorem toList_spelled {text : String} {chars : List Char} (spelled : text = String.ofList chars) :
    text.toList = chars := by
  rw [spelled, String.toList_ofList]

def settingNames : List String :=
  ["tone", "output", "format", "length", "contextConstraints", "typeSpecific", "toggles", "spec"]

def OfSetting : List (List Char) → Prop
  | [root] => String.ofList root = "contextConstraints"
  | [root, _] => String.ofList root ∈ settingNames
  | _ => False

instance : ∀ names, Decidable (OfSetting names)
  | [root] => inferInstanceAs (Decidable (String.ofList root = "contextConstraints"))
  | [root, _] => inferInstanceAs (Decidable (String.ofList root ∈ settingNames))
  | [] | _ :: _ :: _ :: _ => inferInstanceAs (Decidable False)

/-- The path leads to the constraints, or to what a setting holds under one name. -/
def ToSetting (path : List Char) : Prop := OfSetting (segments path)

instance (path : List Char) : Decidable (ToSetting path) :=
  inferInstanceAs (Decidable (OfSetting (segments path)))

theorem ToSetting.avoids {path : List Char} (leads : ToSetting path) : Avoids briefNames path := by
  have apart : ∀ name ∈ settingNames, name ∉ briefNames := by decide
  unfold ToSetting OfSetting at leads
  unfold Avoids
  split at leads
  next root split =>
    rw [split]
    change String.ofList root ∉ briefNames
    rw [leads]
    decide
  next root _ split =>
    rw [split]
    exact apart _ leads
  next => exact absurd leads not_false

theorem standardSteps_toSetting :
    ∀ steps ∈ [sharedSystemSteps, docSteps, deckSteps, dataSteps, codeSteps, copySteps, commsSteps],
      ∀ s ∈ steps, ∀ path ∈ s.paths, ToSetting path := by
  intro steps listed
  simp only [List.mem_cons, List.not_mem_nil, or_false] at listed
  rcases listed with rfl | rfl | rfl | rfl | rfl | rfl | rfl
  all_goals
    simp only [sharedSystemSteps, docSteps, deckSteps, dataSteps, codeSteps, copySteps, commsSteps,
      Step.paths, Condition.paths, systemStep, whenIs, whenNot, whenPresent, whenTrue, slot,
      String.toList_append, List.forall_mem_cons, List.flatMap_cons, List.flatMap_nil,
      Option.map_some, Option.toList_some]
    repeat rw [toList_spelled rfl]
    decide +kernel

theorem standardRegistry_toSetting : ∀ entry ∈ standardRegistry, ∀ s ∈ entry.2.systemSteps,
    ∀ path ∈ s.paths, ToSetting path := by
  have steps := standardSteps_toSetting
  simp only [List.forall_mem_cons] at steps
  obtain ⟨shared, doc, deck, data, code, copy, comms, -⟩ := steps
  have entry {own : List Step} (leads : ∀ s ∈ own, ∀ path ∈ s.paths, ToSetting path) :
      ∀ s ∈ sharedSystemSteps ++ own, ∀ path ∈ s.paths, ToSetting path :=
    List.forall_mem_append.mpr ⟨shared, leads⟩
  simp only [standardRegistry, List.forall_mem_cons]
  exact ⟨entry doc, entry deck, entry data, entry code, entry copy, entry comms, entry doc, by simp⟩

theorem standardRegistry_briefFree : ∀ entry ∈ standardRegistry, entry.2.BriefFree :=
  fun entry listed s inside path mentioned =>
    (standardRegistry_toSetting entry listed s inside path mentioned).avoids

end Standard

namespace PlanRequest

variable (r : PlanRequest) (brief notes : String)

theorem context_rebriefed (spec : RegistrySpec) : ∀ key ∉ briefNames,
    Entries.get? (r.context spec) key =
      Entries.get? ({ r with userInput := brief, notes := notes }.context spec) key := by
  intro key other
  simp only [briefNames, List.mem_cons, List.not_mem_nil, or_false, not_or] at other
  simp only [context, Entries.get?_cons, other.1, other.2, if_false]

theorem sameAt_rebriefed {spec : RegistrySpec} (free : spec.BriefFree) : ∀ s ∈ spec.systemSteps,
    SameAt (some (.plain (.obj (r.context spec))))
      (some (.plain (.obj ({ r with userInput := brief, notes := notes }.context spec)))) s.paths :=
  fun s inside path mentioned =>
    resolve_congr (r.context_rebriefed brief notes spec) (free s inside path mentioned)

theorem take_trace_planFrom (spec : RegistrySpec) :
    (r.planFrom spec).trace.take spec.systemSteps.length =
      Blocks.trace spec.systemSteps (some (.plain (.obj (r.context spec)))) := by
  have size : (Blocks.trace spec.systemSteps (some (.plain (.obj (r.context spec))))).length =
      spec.systemSteps.length := by simp [Blocks.trace]
  exact List.take_left' size

theorem plan_rebriefed : (∀ entry ∈ standardRegistry, entry.2.BriefFree) ∧
    ∀ (standard given : Registry) (r : PlanRequest) (spec : RegistrySpec),
      Registry.resolve standard given r.specId = .ok spec → spec.BriefFree →
      ∀ brief notes : String, ∃ p q : Plan,
        r.plan standard given = .ok p ∧
          { r with userInput := brief, notes := notes }.plan standard given = .ok q ∧
          p.systemPrompt = q.systemPrompt ∧
          (p.trace.take spec.systemSteps.length).map Trace.id = spec.systemSteps.map Step.id ∧
          p.trace.take spec.systemSteps.length = q.trace.take spec.systemSteps.length := by
  refine ⟨standardRegistry_briefFree, fun standard given r spec chosen free brief notes => ?_⟩
  have same := r.sameAt_rebriefed brief notes free
  refine ⟨r.planFrom spec, { r with userInput := brief, notes := notes }.planFrom spec, ?_, ?_, ?_,
    ?_, ?_⟩
  · rw [plan, chosen]
    rfl
  · rw [plan, chosen]
    rfl
  · exact Blocks.text_congr same
  · rw [take_trace_planFrom]
    simp [Blocks.trace]
  · rw [take_trace_planFrom, take_trace_planFrom]
    exact Blocks.trace_congr same

def memoPlan : RegistrySpec where
  id := "memo"
  systemSteps :=
    [systemStep "tone" ("Tone " ++ slot " ..tone. label ") [whenIs "typeSpecific.kind" "memo"],
      systemStep "limits" (slot "contextConstraints") [whenPresent ".contextConstraints"]]
  userSteps := [userStep "brief" (slot "userInput") []]

def memoRequest : PlanRequest where
  specId := some "memo"
  userInput := "Ask for leave"
  tone := some [("label", .str "dry")]
  typeSpecific := [("kind", .str "memo")]

theorem plan_memoRequest :
    Registry.resolve standardRegistry [("memo", memoPlan)] memoRequest.specId = .ok memoPlan ∧
      memoPlan.BriefFree ∧
      ∃ p q : Plan,
        memoRequest.plan standardRegistry [("memo", memoPlan)] = .ok p ∧
          { memoRequest with userInput := "\x7b\x7btone\x7d\x7d", notes := "soon" }.plan
            standardRegistry [("memo", memoPlan)] = .ok q ∧
          p.systemPrompt = q.systemPrompt ∧
          (p.trace.take 2).map Trace.id = ["tone", "limits"] ∧
          p.trace.take 2 = q.trace.take 2 := by
  have chosen : Registry.resolve standardRegistry [("memo", memoPlan)] memoRequest.specId =
      .ok memoPlan := rfl
  have free : memoPlan.BriefFree := by
    unfold RegistrySpec.BriefFree
    decide +kernel
  exact ⟨chosen, free, plan_rebriefed.2 standardRegistry [("memo", memoPlan)] memoRequest memoPlan
    chosen free "\x7b\x7btone\x7d\x7d" "soon"⟩

end PlanRequest

end PromptStudio
