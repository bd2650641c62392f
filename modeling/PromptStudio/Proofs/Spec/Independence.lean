import PromptStudio.Proofs.Spec.Switching

set_option autoImplicit false

namespace PromptStudio

/-- No name of one update is, in either spelling, a name of the other. -/
def Apart (u v : Section) : Prop :=
  ∀ a ∈ Entries.keys u, ∀ b ∈ Entries.keys v, respell a ≠ respell b

theorem mem_keys_of_patchOf {u : Section} {key : String} {v : Json}
    (found : Entries.get? (patchOf u) key = some v) : ∃ k ∈ Entries.keys u, respell k = key := by
  rcases Entries.mem_of_get?_overlay found with nothing | inside
  · simp at nothing
  · obtain ⟨entry, member, same⟩ := List.mem_map.mp inside
    cases same
    exact ⟨entry.1, List.mem_map_of_mem member, rfl⟩

theorem Apart.patchOf {u v : Section} (apart : Apart u v) (key : String) :
    Entries.get? (patchOf u) key = none ∨ Entries.get? (patchOf v) key = none := by
  cases first : Entries.get? (PromptStudio.patchOf u) key with
  | none => exact .inl rfl
  | some x =>
    right
    rw [Option.eq_none_iff_forall_ne_some]
    intro y second
    obtain ⟨a, insideU, spelled⟩ := mem_keys_of_patchOf first
    obtain ⟨b, insideV, other⟩ := mem_keys_of_patchOf second
    exact apart a insideU b insideV (spelled.trans other.symm)

-- Two updates that are apart follow one another when they are given together.
theorem Apart.get?_overlay {u v : Section} (apart : Apart u v) (namesU : (Entries.keys u).Nodup)
    (namesV : (Entries.keys v).Nodup) (key : String) :
    Entries.get? (PromptStudio.patchOf (Entries.overlay u v)) key =
      (Entries.get? (PromptStudio.patchOf v) key).or
        (Entries.get? (PromptStudio.patchOf u) key) := by
  have distinct : (Entries.keys (u ++ v)).Nodup := by
    rw [Entries.keys, List.map_append, List.nodup_append]
    refine ⟨namesU, namesV, ?_⟩
    rintro a insideU b insideV rfl
    exact apart a insideU a insideV rfl
  have appended : PromptStudio.patchOf (u ++ v) = Entries.overlay (PromptStudio.patchOf u)
      (v.map fun entry => (respell entry.1, entry.2)) := by
    simp [PromptStudio.patchOf, Entries.ofPairs, Entries.overlay]
  rw [Entries.overlay_fresh u v distinct, appended, Entries.get?_overlay_ofPairs]
  rfl

/-- Of two updates that share no name, `joined` gives what either of them gives. -/
structure Joins (joined first second : Section) : Prop where
  sides : ∀ key,
    (Entries.get? first key = none ∧ Entries.get? joined key = Entries.get? second key) ∨
      (Entries.get? second key = none ∧ Entries.get? joined key = Entries.get? first key)

theorem Apart.joins {u v : Section} (apart : Apart u v) (namesU : (Entries.keys u).Nodup)
    (namesV : (Entries.keys v).Nodup) :
    Joins (PromptStudio.patchOf (Entries.overlay u v)) (PromptStudio.patchOf u)
      (PromptStudio.patchOf v) := by
  constructor
  intro key
  rw [apart.get?_overlay namesU namesV]
  rcases apart.patchOf key with absent | absent
  · exact .inl ⟨absent, by rw [absent, Option.or_none]⟩
  · exact .inr ⟨absent, by rw [absent, Option.none_or]⟩

namespace Joins

variable {joined first second : Section}

theorem symm (joins : Joins joined first second) : Joins joined second first :=
  ⟨fun key => (joins.sides key).symm⟩

theorem scalarFor (joins : Joins joined first second) (key : String) :
    (PromptStudio.scalarFor first key = none ∧
        PromptStudio.scalarFor joined key = PromptStudio.scalarFor second key) ∨
      (PromptStudio.scalarFor second key = none ∧
        PromptStudio.scalarFor joined key = PromptStudio.scalarFor first key) := by
  unfold PromptStudio.scalarFor
  rcases joins.sides key with ⟨absent, same⟩ | ⟨absent, same⟩
  · simp [absent, same]
  · simp [absent, same]

theorem updatesFor (joins : Joins joined first second) (key : String) :
    (PromptStudio.updatesFor first key = none ∧
        PromptStudio.updatesFor joined key = PromptStudio.updatesFor second key) ∨
      (PromptStudio.updatesFor second key = none ∧
        PromptStudio.updatesFor joined key = PromptStudio.updatesFor first key) := by
  unfold PromptStudio.updatesFor
  rcases joins.sides key with ⟨absent, same⟩ | ⟨absent, same⟩
  · simp [absent, same]
  · simp [absent, same]

theorem scalar (joins : Joins joined first second) {α : Type} {read : Reader α} {key : String}
    {old x y z : α} (one : (PromptStudio.scalarFor first key).elim (.ok old) read = .ok x)
    (other : (PromptStudio.scalarFor second key).elim (.ok x) read = .ok y)
    (both : (PromptStudio.scalarFor joined key).elim (.ok old) read = .ok z) : y = z := by
  rcases joins.scalarFor key with ⟨absent, same⟩ | ⟨absent, same⟩
  · rw [absent] at one
    cases one
    rw [same, other] at both
    injection both
  · rw [absent] at other
    cases other
    rw [same, one] at both
    injection both

theorem part (joins : Joins joined first second) (f : Form) (current : Section) (key : String)
    (extra : Section) :
    f.mergedPart (f.mergedPart current (PromptStudio.updatesFor first key) extra)
        (PromptStudio.updatesFor second key) extra =
      f.mergedPart current (PromptStudio.updatesFor joined key) extra := by
  rcases joins.updatesFor key with ⟨absent, same⟩ | ⟨absent, same⟩
  · rw [absent, same]
    rfl
  · rw [absent, same]
    rfl

end Joins

namespace PromptSpec

variable {s a b c : PromptSpec} {patch first second joined : Section}

theorem eq_of_parts {a b : PromptSpec} (version : a.version = b.version)
    (outputType : a.outputType = b.outputType) (generatedAt : a.generatedAt = b.generatedAt)
    (shared : ∀ name, a.shared name = b.shared name)
    (typeSpecific : a.typeSpecific = b.typeSpecific) (inferred : a.inferred = b.inferred) :
    a = b := by
  have intent : a.intent = b.intent := shared .intent
  have audience : a.audience = b.audience := shared .audience
  have context : a.context = b.context := shared .context
  have constraints : a.constraints = b.constraints := shared .constraints
  have quality : a.quality = b.quality := shared .quality
  cases a
  cases b
  simp_all

theorem reasoningUpdates_congr (same : a.inferred = s.inferred) :
    a.reasoningUpdates = s.reasoningUpdates := by
  funext updates
  rw [reasoningUpdates, reasoningUpdates, same]

theorem eq_of_joins (filled : s.Filled) (joins : Joins joined first second)
    (typeless : scalarFor first "output_type" = none)
    (untyped : scalarFor second "output_type" = none)
    (one : s.mergePatch first = .ok a) (other : a.mergePatch second = .ok b)
    (both : s.mergePatch joined = .ok c) : b = c := by
  have both_typeless : scalarFor joined "output_type" = none := by
    rcases joins.scalarFor "output_type" with ⟨-, same⟩ | ⟨-, same⟩
    · exact same.trans untyped
    · exact same.trans typeless
  have refilled := filled_of_mergePatch one
  have tagA : a.tag = s.tag :=
    (tag_of_mergePatch one).trans (s.mergedTag_of_typeless typeless)
  have tagB : b.tag = a.tag :=
    (tag_of_mergePatch other).trans (a.mergedTag_of_typeless untyped)
  have tagC : c.tag = s.tag :=
    (tag_of_mergePatch both).trans (s.mergedTag_of_typeless both_typeless)
  apply eq_of_parts
  case version =>
    exact joins.scalar (version_of_mergePatch one) (version_of_mergePatch other)
      (version_of_mergePatch both)
  case outputType => exact ofOption_str_inj.mp ((tagB.trans tagA).trans tagC.symm)
  case generatedAt =>
    exact joins.scalar (generatedAt_of_mergePatch one) (generatedAt_of_mergePatch other)
      (generatedAt_of_mergePatch both)
  case shared =>
    intro name
    rw [shared_of_mergePatch refilled other, shared_of_mergePatch filled one,
      shared_of_mergePatch filled both, joins.part]
  case typeSpecific =>
    rw [typeSpecific_of_mergePatch refilled (a.mergedTag_of_typeless untyped) other, tagA,
      typeSpecific_of_mergePatch filled (s.mergedTag_of_typeless typeless) one,
      typeSpecific_of_mergePatch filled (s.mergedTag_of_typeless both_typeless) both, joins.part]
  case inferred =>
    have before := inferred_of_mergePatch filled one
    rw [inferred_of_mergePatch refilled other, inferred_of_mergePatch filled both]
    rcases joins.updatesFor "inferred" with ⟨absent, same⟩ | ⟨absent, same⟩
    · rw [absent] at before
      rw [same, reasoningUpdates_congr before, before]
      rfl
    · rw [absent, same, before]
      rfl

structure Typeless (patch : Section) : Prop where
  version : ∀ v, scalarFor patch "version" = some v → ∃ text, v = .str text
  outputType : scalarFor patch "output_type" = none
  generatedAt : ∀ v, scalarFor patch "generated_at" = some v → ∃ time, Reader.moment v = .ok time

theorem Typeless.plain (typeless : Typeless patch) : Plain patch := by
  refine ⟨typeless.version, ?_, typeless.generatedAt⟩
  intro v found
  rw [typeless.outputType] at found
  cases found

theorem Typeless.merges (typeless : Typeless patch) (filled : s.Filled) :
    ∃ r, s.mergePatch patch = .ok r :=
  mergePatch_ok_of_kept filled typeless.plain (s.mergedTag_of_typeless typeless.outputType)

theorem Typeless.of_joins (one : Typeless first) (other : Typeless second)
    (joins : Joins joined first second) : Typeless joined := by
  have side (key : String) : scalarFor joined key = scalarFor second key ∨
      scalarFor joined key = scalarFor first key :=
    (joins.scalarFor key).imp (·.2) (·.2)
  constructor
  case version =>
    rcases side "version" with same | same
    · exact same ▸ other.version
    · exact same ▸ one.version
  case outputType =>
    rcases side "output_type" with same | same
    · exact same.trans other.outputType
    · exact same.trans one.outputType
  case generatedAt =>
    rcases side "generated_at" with same | same
    · exact same ▸ other.generatedAt
    · exact same ▸ one.generatedAt

theorem Typeless.merges_joined (one : Typeless first) (other : Typeless second)
    (filled : s.Filled) (joins : Joins joined first second) :
    ∃ a c, s.mergePatch first = .ok a ∧ a.mergePatch second = .ok c ∧
      s.mergePatch joined = .ok c := by
  obtain ⟨a, mergedA⟩ := one.merges filled
  obtain ⟨b, mergedB⟩ := other.merges (filled_of_mergePatch mergedA)
  obtain ⟨c, mergedC⟩ := (one.of_joins other joins).merges filled
  obtain rfl := eq_of_joins filled joins one.outputType other.outputType mergedA mergedB mergedC
  exact ⟨a, b, mergedA, mergedB, mergedC⟩

theorem merge_apart (s : PromptSpec) (filled : s.Filled) (u v : Section)
    (distinctU : (Json.obj u).Distinct) (distinctV : (Json.obj v).Distinct) (apart : Apart u v)
    (typelessU : Typeless (patchOf u)) (typelessV : Typeless (patchOf v)) :
    ∃ a b r, s.merge (.obj u) = .ok a ∧ a.merge (.obj v) = .ok r ∧
      s.merge (.obj v) = .ok b ∧ b.merge (.obj u) = .ok r ∧
      s.merge (.obj (Entries.overlay u v)) = .ok r := by
  have joins := apart.joins distinctU.names distinctV.names
  obtain ⟨a, r, first, second, both⟩ := typelessU.merges_joined typelessV filled joins
  obtain ⟨b, r', first', second', both'⟩ := typelessV.merges_joined typelessU filled joins.symm
  have same : r' = r := by
    rw [both] at both'
    cases both'
    rfl
  subst same
  simp only [merge_ok_iff_mergePatch]
  exact ⟨a, b, r', first, second, first', second', both⟩

def goalAndTime : Section :=
  [("intent", .obj [("primary_goal", .str "Grow"), ("urgency", .int 5)]),
    ("generatedAt", .str "2024-01-02T03:04:05Z")]

def slidesAndVersion : Section :=
  [("typeSpecific", .obj [("slide_count", .str "ten"), ("margin", .str "wide")]),
    ("version", .str "0.9.0")]

theorem typeless_goalAndTime : Typeless (patchOf goalAndTime) := by
  refine ⟨nofun, rfl, ?_⟩
  intro v found
  have given : scalarFor (patchOf goalAndTime) "generated_at" =
      some (.str "2024-01-02T03:04:05Z") := rfl
  rw [given] at found
  cases found
  exact ⟨_, rfl⟩

theorem typeless_slidesAndVersion : Typeless (patchOf slidesAndVersion) := by
  refine ⟨?_, rfl, nofun⟩
  intro v found
  have given : scalarFor (patchOf slidesAndVersion) "version" = some (.str "0.9.0") := rfl
  rw [given] at found
  cases found
  exact ⟨_, rfl⟩

theorem merge_apart_deck :
    (ofType (some "deck")).Filled ∧ (Json.obj goalAndTime).Distinct ∧
    (Json.obj slidesAndVersion).Distinct ∧ Apart goalAndTime slidesAndVersion ∧
    Typeless (patchOf goalAndTime) ∧ Typeless (patchOf slidesAndVersion) ∧
    ∃ a b r, (ofType (some "deck")).merge (.obj goalAndTime) = .ok a ∧
      a.merge (.obj slidesAndVersion) = .ok r ∧
      (ofType (some "deck")).merge (.obj slidesAndVersion) = .ok b ∧
      b.merge (.obj goalAndTime) = .ok r ∧
      (ofType (some "deck")).merge (.obj (Entries.overlay goalAndTime slidesAndVersion)) = .ok r ∧
      Section.value r.intent "primary_goal" = .str "Grow" ∧
      Section.value r.intent "urgency" = .str "normal" ∧
      Section.value r.typeSpecific "margin" = .str "wide" ∧ r.version = some "0.9.0" := by
  have filled := filled_ofType (some "deck")
  have goal : (Json.obj goalAndTime).Distinct := by
    simp [goalAndTime, Json.Distinct, Json.FieldsDistinct, Entries.keys]
  have slides : (Json.obj slidesAndVersion).Distinct := by
    simp [slidesAndVersion, Json.Distinct, Json.FieldsDistinct, Entries.keys]
  have apart : Apart goalAndTime slidesAndVersion := by
    unfold Apart
    decide
  obtain ⟨a, b, r, first, second, first', second', both⟩ :=
    merge_apart (ofType (some "deck")) filled goalAndTime slidesAndVersion goal slides apart
      typeless_goalAndTime typeless_slidesAndVersion
  refine ⟨filled, goal, slides, apart, typeless_goalAndTime, typeless_slidesAndVersion, a, b, r,
    first, second, first', second', both, ?_⟩
  cases both
  exact ⟨rfl, rfl, rfl, rfl⟩

end PromptSpec

end PromptStudio
