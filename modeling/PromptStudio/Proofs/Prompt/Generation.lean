import PromptStudio.Pipeline.Pipeline
import PromptStudio.Proofs.Gateway.Single
import PromptStudio.Proofs.Spec.Loading

set_option autoImplicit false

namespace PromptStudio

section Prompt

theorem textParts_texts (position : Nat) (items : List String) :
    Json.textParts position (items.map .str) = .ok items := by
  induction items generalizing position with
  | nil => rfl
  | cons item items ih => rw [List.map_cons, Json.textParts, ih (position + 1)]; rfl

theorem listLine_texts {own : Section} {key : String} {items : List String}
    (held : Entries.get? own key = some (Json.texts items)) (before : String) :
    ∃ lines, listLine own key before = .ok lines := by
  have joined : (Json.texts items).commaJoined = .ok (String.intercalate ", " items) := by
    have elements : (Json.texts items).elements = .ok (items.map .str) := rfl
    rw [Json.commaJoined, elements, Outcome.bind_eq_ok]
    exact ⟨_, rfl, by rw [textParts_texts]; rfl⟩
  rw [listLine, Section.value, held, Option.getD_some, joined]
  cases (Json.texts items).truthy <;> exact ⟨_, rfl⟩

theorem texts_of_holds {form : Form} (wellFormed : form.WellFormed) {own : Section}
    (held : form.Holds own) {key : String} (inside : textsField key ∈ form.fields) :
    ∃ items, Entries.get? own key = some (Json.texts items) := by
  obtain ⟨v, found, read⟩ := held.field wellFormed inside
  obtain ⟨items, -, rfl⟩ := Checked.map_eq_ok_iff.mp read
  exact ⟨items, found⟩

-- Only lists of texts are joined, and the form has checked them.
theorem instructionLines_ok (t : OutputType) {own : Section} (held : t.form.Holds own) :
    ∃ lines, t.instructionLines own = .ok lines := by
  cases t with
  | doc =>
    obtain ⟨items, found⟩ := texts_of_holds (OutputType.form_wellFormed .doc) held
      (show textsField "section_structure" ∈ OutputType.doc.form.fields by
        simp [OutputType.form, OutputType.fields])
    obtain ⟨lines, joined⟩ := listLine_texts found "- Include sections: "
    rw [OutputType.instructionLines, docInstructions, joined]
    exact ⟨_, rfl⟩
  | comms =>
    obtain ⟨items, found⟩ := texts_of_holds (OutputType.form_wellFormed .comms) held
      (show textsField "action_items" ∈ OutputType.comms.form.fields by
        simp [OutputType.form, OutputType.fields])
    obtain ⟨lines, joined⟩ := listLine_texts found "- Include action items: "
    rw [OutputType.instructionLines, commsInstructions, joined]
    exact ⟨_, rfl⟩
  | _ => exact ⟨_, rfl⟩

namespace PromptSpec

variable {spec : PromptSpec}

theorem Tagged.ownInstructions (tagged : spec.Tagged) :
    ∃ own, spec.ownInstructions = .ok own := by
  unfold PromptSpec.ownInstructions instructions
  cases known : spec.outputType.bind OutputType.ofName? with
  | none => exact ⟨_, rfl⟩
  | some t =>
    obtain ⟨name, typed, named⟩ := Option.bind_eq_some_iff.mp known
    have form : typeForm spec.tag = t.form := by
      rw [PromptSpec.tag, typed]
      simp [Json.ofOption, typeForm, outputTypeOf?, named]
    obtain ⟨lines, written⟩ := instructionLines_ok t (form ▸ tagged.form)
    exact ⟨String.intercalate "\n" lines, Outcome.bind_eq_ok.mpr
      ⟨spec.typeSpecific, rfl, Outcome.bind_eq_ok.mpr ⟨lines, written, rfl⟩⟩⟩

theorem Tagged.generationPrompt (tagged : spec.Tagged) :
    ∃ prompt, spec.generationPrompt = .ok prompt := by
  obtain ⟨own, written⟩ := tagged.ownInstructions
  exact ⟨_, Outcome.bind_eq_ok.mpr ⟨own, written, rfl⟩⟩

end PromptSpec

end Prompt

namespace Json

/-- A number other than zero, or true: it counts, and there is nothing in it to go through. -/
def isAtom (v : Json) : Bool :=
  match v with
  | .bool _ | .int _ | .float _ => v.truthy
  | _ => false

variable {v : Json}

theorem truthy_of_isAtom (atom : v.isAtom = true) : v.truthy = true := by
  cases v with
  | bool _ | int _ | float _ => exact atom
  | _ => exact nomatch atom

theorem elements_of_isAtom (atom : v.isAtom = true) :
    v.elements = .error (.wrongType ("'" ++ v.typeName ++ "' object is not iterable")) := by
  cases v with
  | bool _ | int _ | float _ => rfl
  | _ => exact nomatch atom

theorem elements_of_truthy (counts : v.truthy = true) (parted : v.isAtom = false) :
    ∃ items, v.elements = .ok items := by
  cases v with
  | null => exact nomatch counts
  | str _ | arr _ | obj _ => exact ⟨_, rfl⟩
  | bool _ | int _ | float _ => exact absurd (counts.symm.trans parted) (by decide)

end Json

section Decoding

variable {reply : Json}

theorem decodeReply_of_isAtom (atom : reply.isAtom = true) :
    decodeReply reply = .error (.wrongType "expected string or bytes-like object") := by
  have counts := Json.truthy_of_isAtom atom
  cases reply with
  | bool _ | int _ | float _ => simp [decodeReply, counts]
  | _ => exact nomatch atom

theorem decodeText_answered (text : String) :
    (∃ v, decodeText text = .ok v) ∨ ∃ e, decodeText text = .error (.model e) := by
  unfold decodeText
  split
  · exact .inl ⟨_, rfl⟩
  · exact .inr ⟨_, rfl⟩

theorem decodeReply_answered (parted : reply.isAtom = false) :
    (∃ v, decodeReply reply = .ok v) ∨ ∃ e, decodeReply reply = .error (.model e) := by
  cases reply with
  | str text => exact decodeText_answered text
  | arr _ | obj _ => exact .inl ⟨_, rfl⟩
  | null => exact decodeText_answered ""
  | bool _ | int _ | float _ =>
    rw [Json.isAtom] at parted
    simpa [decodeReply, parted] using decodeText_answered ""

end Decoding

namespace Generation

/-- The fields of the object that a reply is or holds, when it has an expanded prompt. -/
def expected? (reply : Json) : Option Section :=
  match decodeReply reply with
  | .ok (.obj fields) => if Section.flag fields "expanded_prompt" then some fields else none
  | _ => none

def Usable (reply : Json) : Prop :=
  reply.isAtom = false ∧
    ∀ fields ∈ expected? reply, (Section.value fields "key_elements").isAtom = false

def ofExpected (fields : Section) : Generation where
  expandedPrompt := (Section.value fields "expanded_prompt").display
  structureSummary := shown (Section.value fields "structure_summary")
  keyElements :=
    ((Section.value fields "key_elements").elements.toOption.getD []).map Json.display

instance (reply : Json) : Decidable (Usable reply) :=
  inferInstanceAs (Decidable (_ ∧ ∀ fields ∈ expected? reply, _ = _))

def settled (reply : Json) : Generation := ((expected? reply).map ofExpected).getD (verbatim reply)

variable {reply : Json}

theorem ofFields_parted {fields : Section}
    (parted : (Section.value fields "key_elements").isAtom = false) :
    ofFields fields = .ok (ofExpected fields) := by
  unfold ofFields ofExpected
  by_cases counts : (Section.value fields "key_elements").truthy = true
  next =>
    obtain ⟨items, listed⟩ := Json.elements_of_truthy counts parted
    simp only [counts, listed, if_true]
    rfl
  next =>
    have empty : (Section.value fields "key_elements").elements.toOption.getD [] = [] := by
      generalize Section.value fields "key_elements" = v at counts
      cases v <;> simp_all [Json.elements, Except.toOption, Json.truthy]
    simp only [counts, empty]
    rfl

theorem ofFields_of_isAtom {fields : Section}
    (atom : (Section.value fields "key_elements").isAtom = true) :
    ∃ message, ofFields fields = .error (.wrongType message) := by
  have counts := Json.truthy_of_isAtom atom
  refine ⟨"'" ++ (Section.value fields "key_elements").typeName ++ "' object is not iterable", ?_⟩
  unfold ofFields
  simp only [counts, Json.elements_of_isAtom atom, if_true]
  rfl

theorem ofReply_parted (parted : reply.isAtom = false) :
    ofReply reply = ((expected? reply).map ofFields).getD (.ok (verbatim reply)) := by
  unfold ofReply expected?
  rcases decodeReply_answered parted with ⟨v, decoded⟩ | ⟨e, refused⟩
  · rw [decoded]
    cases v with
    | obj fields => by_cases named : Section.flag fields "expanded_prompt" = true <;> simp [named]
    | _ => rfl
  · rw [refused]
    rfl

theorem ofReply_usable (usable : Usable reply) : ofReply reply = .ok (settled reply) := by
  rw [ofReply_parted usable.1, settled]
  cases named : expected? reply with
  | none => rfl
  | some fields => exact ofFields_parted (usable.2 fields named)

theorem ofReply_of_isAtom (atom : reply.isAtom = true) :
    ofReply reply = .error (.wrongType "expected string or bytes-like object") := by
  rw [ofReply, decodeReply_of_isAtom atom]
  rfl

theorem ofReply_unusable (unusable : ¬Usable reply) :
    ∃ message, ofReply reply = .error (.wrongType message) := by
  by_cases atom : reply.isAtom = true
  next => exact ⟨_, ofReply_of_isAtom atom⟩
  next =>
    have parted : reply.isAtom = false := eq_false_of_ne_true atom
    rw [ofReply_parted parted]
    cases named : expected? reply with
    | none => exact absurd ⟨parted, by simp [named]⟩ unusable
    | some fields =>
      refine ofFields_of_isAtom ?_
      by_contra listed
      refine unusable ⟨parted, fun others found => ?_⟩
      obtain rfl : fields = others := Option.some.inj (named.symm.trans found)
      exact eq_false_of_ne_true listed

end Generation

section Calls

variable {spec : PromptSpec} {settings : Settings} {model : String} {credentials : Json}
  {options : CallerOptions} {temperature : Binary64} {s : Session}

def generationOfAnswer : Outcome Json → Outcome Generation
  | .ok reply => Generation.ofReply reply
  | .error f => .error (.generation f.message)

def generationAnswer (ask : Caller) (prompt : String) (temperature : Binary64) (s : Session) :
    Outcome Json × Session :=
  ask prompt generationPersona (some (.float temperature)) s

theorem generate_answered {ask : Caller} {prompt : String}
    (written : spec.generationPrompt = .ok prompt) :
    generate spec ask temperature s =
      (generationOfAnswer (generationAnswer ask prompt temperature s).1,
        (generationAnswer ask prompt temperature s).2) := by
  have prompted : Run.of spec.generationPrompt s = (.ok prompt, s) := by rw [Run.of_apply, written]
  have answered :=
    Run.outcome_apply (ask prompt generationPersona (some (.float temperature))) s
  refine (Run.bind_of_ok prompted).trans ((Run.bind_of_ok answered).trans ?_)
  change _ = (generationOfAnswer (ask prompt generationPersona (some (.float temperature)) s).1,
    (ask prompt generationPersona (some (.float temperature)) s).2)
  cases (ask prompt generationPersona (some (.float temperature)) s).1 <;> rfl

def generationCall (settings : Settings) (model : String) (credentials : Json)
    (options : CallerOptions) (prompt : String) (temperature : Binary64) : Run String :=
  callModel settings model prompt generationPersona credentials
    { jsonMode := true, temperature := .float temperature, cancellation := options.cancellation }

def generationOf : Outcome String → Outcome Generation
  | .ok text => Generation.ofReply (decodedOrText text)
  | .error f => .error (.generation f.message)

theorem generate_apply (decoding : options.jsonMode = true) {prompt : String}
    (written : spec.generationPrompt = .ok prompt) :
    generate spec (modelCaller settings model credentials options) temperature s =
      (generationOf (generationCall settings model credentials options prompt temperature s).1,
        (generationCall settings model credentials options prompt temperature s).2) := by
  have asked : modelCaller settings model credentials options prompt generationPersona
      (some (.float temperature)) = generationCall settings model credentials options prompt
        temperature >>= fun text => pure (decodedOrText text) := by
    unfold modelCaller generationCall
    simp only [decoding, if_true]
    rfl
  rw [generate_answered written, generationAnswer, asked, Run.bind_apply]
  cases generationCall settings model credentials options prompt temperature s with
  | mk answer later => cases answer <;> rfl

theorem generate_settled (settings : Settings) (model : String) (credentials : Json)
    (options : CallerOptions) (decoding : options.jsonMode = true) (raw : Json) (spec : PromptSpec)
    (loaded : PromptSpec.load raw = .ok spec)
    (tag : Entries.get? spec.typeSpecific "output_type" = some spec.tag) (temperature : Binary64)
    (s : Session) :
    ∃ prompt answer s', spec.generationPrompt = .ok prompt ∧
      generationCall settings model credentials options prompt temperature s = (answer, s') ∧
      (∀ f, answer = .error f →
        generate spec (modelCaller settings model credentials options) temperature s =
          (.error (.generation f.message), s')) ∧
      ∀ text, answer = .ok text →
        (Generation.Usable (decodedOrText text) →
          generate spec (modelCaller settings model credentials options) temperature s =
            (.ok (.settled (decodedOrText text)), s')) ∧
        (¬Generation.Usable (decodedOrText text) →
          ∃ message, generate spec (modelCaller settings model credentials options) temperature s =
            (.error (.wrongType message), s')) := by
  obtain ⟨prompt, written⟩ := (PromptSpec.tagged_of_load loaded tag).generationPrompt
  cases called : generationCall settings model credentials options prompt temperature s with
  | mk answer later =>
    refine ⟨prompt, answer, later, written, called, ?_, ?_⟩
    · rintro f rfl
      rw [generate_apply decoding written, called]
      rfl
    · rintro text rfl
      rw [generate_apply decoding written, called]
      constructor
      · intro usable
        rw [generationOf, Generation.ofReply_usable usable]
      · intro unusable
        obtain ⟨message, refused⟩ := Generation.ofReply_unusable unusable
        exact ⟨message, by rw [generationOf, refused]⟩

end Calls

section Witnesses

open Call Attempt

def outlinedDoc : Json :=
  .obj [("output_type", .str "doc"),
    ("type_specific", .obj [("section_structure", .arr [.str "Aim", .str "Cost"])])]

def repliedSession (text : String) : Session :=
  { providers := [{ answer := .ok { text := some text } }] }

def openKey : Json := .obj [("openai", .str "key")]

theorem generationCall_replied (text prompt : String) :
    (generationCall {} "gpt-4o" openKey {} prompt Role.generation.temperature
      (repliedSession text)).1 = .ok text := by
  obtain ⟨c, prepared, openai⟩ : ∃ c, Call.prepare {} "gpt-4o" prompt generationPersona openKey
      { jsonMode := true, temperature := .float Role.generation.temperature } = .ok c ∧
        c.provider = .openai := ⟨_, rfl, rfl⟩
  have time : timed (.finite 30) = true := by decide +kernel
  have early : (Binary64.finite 30).below (.ofRat 0) = false := by decide +kernel
  have answer : ((repliedSession text).settle.providers.entry {}
      (repliedSession text).settle.requests.length).answer = .ok { text := some text } := rfl
  have called : generationCall {} "gpt-4o" openKey {} prompt Role.generation.temperature
      (repliedSession text) = c.run {} .never (repliedSession text) :=
    callModel_prepared prepared (repliedSession text)
  rw [called]
  exact run_answered openai .never time answer early

def listedPrompt : String := "\x7b\"expanded_prompt\": [1], \"key_elements\": \"ab\"\x7d"

theorem generate_listedPrompt :
    ∃ spec s', PromptSpec.load outlinedDoc = .ok spec ∧
      Entries.get? spec.typeSpecific "output_type" = some spec.tag ∧
      generate spec (modelCaller {} "gpt-4o" openKey {}) Role.generation.temperature
          (repliedSession listedPrompt) = (.ok ⟨"[1]", "", ["a", "b"]⟩, s') := by
  obtain ⟨spec, loaded, tag⟩ : ∃ spec, PromptSpec.load outlinedDoc = .ok spec ∧
      Entries.get? spec.typeSpecific "output_type" = some spec.tag := ⟨_, rfl, rfl⟩
  obtain ⟨prompt, answer, s', -, called, -, given⟩ := generate_settled {} "gpt-4o" openKey {} rfl
    outlinedDoc spec loaded tag Role.generation.temperature (repliedSession listedPrompt)
  have replied := generationCall_replied listedPrompt prompt
  rw [called] at replied
  have usable : Generation.Usable (decodedOrText listedPrompt) := by decide +kernel
  have settled : Generation.settled (decodedOrText listedPrompt) = ⟨"[1]", "", ["a", "b"]⟩ := by
    decide +kernel
  exact ⟨spec, s', loaded, tag, settled ▸ (given listedPrompt replied).1 usable⟩

theorem generate_numberedReply :
    ∃ spec prompt s', PromptSpec.load outlinedDoc = .ok spec ∧
      Entries.get? spec.typeSpecific "output_type" = some spec.tag ∧
      spec.generationPrompt = .ok prompt ∧
      generationCall {} "gpt-4o" openKey {} prompt Role.generation.temperature
        (repliedSession "5") = (.ok "5", s') ∧
      generate spec (modelCaller {} "gpt-4o" openKey {}) Role.generation.temperature
          (repliedSession "5") =
        (.error (.wrongType "expected string or bytes-like object"), s') := by
  obtain ⟨spec, loaded, tag⟩ : ∃ spec, PromptSpec.load outlinedDoc = .ok spec ∧
      Entries.get? spec.typeSpecific "output_type" = some spec.tag := ⟨_, rfl, rfl⟩
  obtain ⟨prompt, written⟩ := (PromptSpec.tagged_of_load loaded tag).generationPrompt
  have replied := generationCall_replied "5" prompt
  have atom : (decodedOrText "5").isAtom = true := by decide +kernel
  have refused : generationOf (.ok "5") =
      .error (.wrongType "expected string or bytes-like object") := by
    rw [generationOf, Generation.ofReply_of_isAtom atom]
  cases called : generationCall {} "gpt-4o" openKey {} prompt Role.generation.temperature
    (repliedSession "5") with
  | mk answer later =>
    rw [called] at replied
    obtain rfl : answer = .ok "5" := replied
    refine ⟨spec, prompt, later, loaded, tag, written, called, ?_⟩
    rw [generate_apply rfl written, called, refused]

end Witnesses

end PromptStudio
