import PromptStudio.Proofs.Reply.Decoding

set_option autoImplicit false

namespace PromptStudio

def AllBlank (text : List Char) : Prop := ∀ c ∈ text, isBlank c = true

instance (text : List Char) : Decidable (AllBlank text) :=
  List.decidableBAll (fun c => isBlank c = true) text

theorem ne_of_isBlank {c d : Char} (blank : isBlank c = true) (visible : isBlank d = false) :
    c ≠ d := by
  rintro rfl
  simp [blank] at visible

theorem dropWhile_skip {p : Char → Bool} {front : List Char} (dropped : ∀ c ∈ front, p c = true)
    {c : Char} (kept : p c = false) (back : List Char) :
    (front ++ c :: back).dropWhile p = c :: back := by
  rw [List.dropWhile_append_of_pos dropped]
  simp [kept]

section Blocks

theorem splitAt?_fence_append {front : List Char} (absent : occursIn fence front = false) {c : Char}
    (other : c ≠ '\x60') (back : List Char) :
    splitAt? fence (front ++ c :: back) =
      (splitAt? fence back).map fun (before, after) => (front ++ c :: before, after) := by
  induction front with
  | nil => simp [splitAt?, fence, List.isPrefixOf, Ne.symm other]
  | cons d front ih =>
    simp only [occursIn, Bool.or_eq_false_iff] at absent
    rw [List.cons_append, splitAt?, isPrefixOf_fence_append d front other, absent.1, ih absent.2,
      Option.map_map]
    rfl

theorem splitAt?_fence_skip {front : List Char} (plain : ∀ c ∈ front, c ≠ '\x60')
    (back : List Char) :
    splitAt? fence (front ++ back) =
      (splitAt? fence back).map fun (before, after) => (front ++ before, after) := by
  induction front with
  | nil => simp
  | cons c front ih =>
    have later := ih fun d inside => plain d (by simp [inside])
    have empty : occursIn fence [] = false := rfl
    have first := splitAt?_fence_append empty (plain c (by simp)) (front ++ back)
    rw [List.nil_append, later, Option.map_map] at first
    exact first

theorem splitAt?_fence (after : List Char) : splitAt? fence (fence ++ after) = some ([], after) := by
  simp [splitAt?, fence, List.isPrefixOf]

def openers : List (List Char) := [fence, fence ++ "json".toList]

theorem blank_ne_tick {text : List Char} (blank : AllBlank text) : ∀ c ∈ text, c ≠ '\x60' :=
  fun c inside => ne_of_isBlank (blank c inside) (by decide)

theorem json_not_prefix {gap : List Char} (blank : AllBlank gap) (back : List Char) :
    "json".toList.isPrefixOf (gap ++ '{' :: back) = false := by
  cases gap with
  | nil => rfl
  | cons c gap =>
    have other : c ≠ 'j' := ne_of_isBlank (blank c (by simp)) (by decide)
    have first : ('j' == c) = false := beq_false_of_ne (Ne.symm other)
    change (('j' == c) && _) = false
    rw [first, Bool.false_and]

variable {inner : List Char}

theorem splitAt?_closing (absent : occursIn fence ('{' :: inner ++ ['}']) = false)
    {gap : List Char} (blank : AllBlank gap) (post : List Char) :
    splitAt? fence ('{' :: inner ++ ['}'] ++ gap ++ fence ++ post) =
      some ('{' :: inner ++ ['}'] ++ gap, post) := by
  have front : occursIn fence ('{' :: inner) = false := by
    rw [occursIn_fence_append ('{' :: inner) (by decide) []] at absent
    exact (Bool.or_eq_false_iff.mp absent).1
  have text : '{' :: inner ++ ['}'] ++ gap ++ fence ++ post =
      '{' :: inner ++ '}' :: (gap ++ (fence ++ post)) := by simp
  rw [text, splitAt?_fence_append front (by decide), splitAt?_fence_skip (blank_ne_tick blank),
    splitAt?_fence]
  simp

theorem fencedBlock?_wrapped (absent : occursIn fence ('{' :: inner ++ ['}']) = false)
    {pre opener gap gap' : List Char} (plain : ∀ c ∈ pre, c ≠ '\x60') (opens : opener ∈ openers)
    (leading : AllBlank gap) (trailing : AllBlank gap') (post : List Char) :
    fencedBlock? (pre ++ opener ++ gap ++ ('{' :: inner ++ ['}']) ++ gap' ++ fence ++ post) =
      some ('{' :: inner ++ ['}'] ++ gap') := by
  have closing := splitAt?_closing absent trailing post
  have body : (gap ++ ('{' :: inner ++ ['}'] ++ gap' ++ fence ++ post)).dropWhile isBlank =
      '{' :: inner ++ ['}'] ++ gap' ++ fence ++ post :=
    dropWhile_skip leading (by decide) (inner ++ ['}'] ++ gap' ++ fence ++ post)
  have opened (after : List Char) : splitAt? fence (pre ++ (fence ++ after)) = some (pre, after) := by
    rw [splitAt?_fence_skip plain, splitAt?_fence]
    simp
  simp only [openers, List.mem_cons, List.not_mem_nil, or_false] at opens
  rcases opens with rfl | rfl
  · have unnamed := json_not_prefix leading (inner ++ ['}'] ++ gap' ++ fence ++ post)
    have text : pre ++ fence ++ gap ++ ('{' :: inner ++ ['}']) ++ gap' ++ fence ++ post =
        pre ++ (fence ++ (gap ++ ('{' :: inner ++ ['}'] ++ gap' ++ fence ++ post))) := by simp
    have bare : ¬ "json".toList.isPrefixOf
        (gap ++ ('{' :: inner ++ ['}'] ++ gap' ++ fence ++ post)) = true :=
      ne_true_of_eq_false unnamed
    rw [text, fencedBlock?, opened]
    dsimp only
    rw [if_neg bare, body, closing]
    rfl
  · have text : pre ++ (fence ++ "json".toList) ++ gap ++ ('{' :: inner ++ ['}']) ++ gap' ++ fence ++
          post =
        pre ++ (fence ++ ("json".toList ++
          (gap ++ ('{' :: inner ++ ['}'] ++ gap' ++ fence ++ post)))) := by simp
    rw [text, fencedBlock?, opened]
    dsimp only
    rw [if_pos (by rfl)]
    have named : ("json".toList ++ (gap ++ ('{' :: inner ++ ['}'] ++ gap' ++ fence ++ post))).drop 4 =
        gap ++ ('{' :: inner ++ ['}'] ++ gap' ++ fence ++ post) := rfl
    rw [named, body, closing]
    rfl

theorem outerBraces?_wrapped {pre post : List Char} (before : '{' ∉ pre) (after : '}' ∉ post) :
    outerBraces? (pre ++ ('{' :: inner ++ ['}']) ++ post) = some ('{' :: inner ++ ['}']) := by
  have leading : ∀ c ∈ pre, (c != '{') = true := by
    intro c inside
    rw [bne_iff_ne]
    rintro rfl
    exact before inside
  have trailing : ∀ c ∈ post.reverse, (c != '}') = true := by
    intro c inside
    rw [bne_iff_ne]
    rintro rfl
    exact after (List.mem_reverse.mp inside)
  have start : (pre ++ ('{' :: inner ++ ['}']) ++ post).dropWhile (· != '{') =
      '{' :: (inner ++ ['}'] ++ post) := by
    simpa using dropWhile_skip leading (c := '{') (by decide) (inner ++ ['}'] ++ post)
  have backwards : ('{' :: (inner ++ ['}'] ++ post)).reverse =
      post.reverse ++ '}' :: ('{' :: inner).reverse := by simp
  rw [outerBraces?, start]
  dsimp only
  rw [backwards, dropWhile_skip trailing (by decide)]
  simp

end Blocks

section Objects

variable {fields : List (String × Json)}

theorem decodeTrimmed?_padded (portable : (Json.obj fields).Portable) {before after : List Char}
    (leading : AllBlank before) (trailing : AllBlank after) :
    decodeTrimmed? (before ++ (Json.obj fields).chars .exchange ++ after) = some (.obj fields) := by
  rw [decodeTrimmed?, (Json.trimmed_chars .exchange (.obj fields)).trimChars_between leading trailing,
    Json.readChars?_chars Json.Style.exchange_plain portable]

theorem decodeFenced?_wrapped (portable : (Json.obj fields).Portable)
    (unfenced : occursIn fence ((Json.obj fields).chars .exchange) = false)
    {pre opener gap gap' : List Char} (plain : ∀ c ∈ pre, c ≠ '\x60') (opens : opener ∈ openers)
    (leading : AllBlank gap) (trailing : AllBlank gap') (post : List Char) :
    decodeFenced? (pre ++ opener ++ gap ++ (Json.obj fields).chars .exchange ++ gap' ++ fence ++
      post) = some (.obj fields) := by
  have block := fencedBlock?_wrapped unfenced plain opens leading trailing post
  have nothing : AllBlank [] := by simp [AllBlank]
  have inside := decodeTrimmed?_padded portable nothing trailing
  rw [decodeFenced?, Json.chars, block, Option.bind_some]
  exact inside

theorem decodeOuter?_wrapped (portable : (Json.obj fields).Portable) {pre post : List Char}
    (before : '{' ∉ pre) (after : '}' ∉ post) :
    decodeOuter? (pre ++ (Json.obj fields).chars .exchange ++ post) = some (.obj fields) := by
  rw [decodeOuter?, Json.chars, outerBraces?_wrapped before after, Option.bind_some]
  exact decodeTrimmed?_chars Json.Style.exchange_plain (Json.obj_ne_null fields) portable

-- The whole text comes before its braces, so words that make it a JSON text hide the object.
theorem decodeChars?_wrapped (portable : (Json.obj fields).Portable) {pre post : List Char}
    (before : '{' ∉ pre) (after : '}' ∉ post)
    (bare : occursIn fence (pre ++ (Json.obj fields).chars .exchange ++ post) = false)
    (alone : AllBlank pre ∧ AllBlank post ∨
      Json.readChars? (trimChars (pre ++ (Json.obj fields).chars .exchange ++ post)) = none) :
    decodeChars? (pre ++ (Json.obj fields).chars .exchange ++ post) = some (.obj fields) := by
  rw [decodeChars?, decodeFenced?_eq_none bare, Option.none_or]
  rcases alone with ⟨leading, trailing⟩ | unread
  · rw [decodeTrimmed?_padded portable leading trailing, Option.some_or]
  · rw [decodeTrimmed?, unread, decodeOuter?_wrapped portable before after]
    rfl

end Objects

theorem decodeReply_of_decodeChars? {text : String} {v : Json}
    (decoded : decodeChars? text.toList = some v) : decodeReply (.str text) = .ok v := by
  rw [decodeReply, decodeText, decoded]

theorem decodeReply_wrapped (fields : List (String × Json)) (portable : (Json.obj fields).Portable)
    (unfenced : occursIn fence ((Json.obj fields).write .exchange).toList = false) :
    (∀ pre opener gap gap' post : String, '\x60' ∉ pre.toList → opener.toList ∈ openers →
      AllBlank gap.toList → AllBlank gap'.toList →
        decodeReply (.str (pre ++ opener ++ gap ++ (Json.obj fields).write .exchange ++ gap' ++
          String.ofList fence ++ post)) = .ok (.obj fields)) ∧
      ∀ pre post : String, '{' ∉ pre.toList → '}' ∉ post.toList →
        occursIn fence (pre ++ (Json.obj fields).write .exchange ++ post).toList = false →
        AllBlank pre.toList ∧ AllBlank post.toList ∨
          Json.readChars? (trimChars (pre ++ (Json.obj fields).write .exchange ++ post).toList) =
            none →
        decodeReply (.str (pre ++ (Json.obj fields).write .exchange ++ post)) =
          .ok (.obj fields) := by
  simp only [Json.write, String.toList_append, String.toList_ofList] at unfenced ⊢
  constructor
  · intro pre opener gap gap' post plain opens leading trailing
    have ticks : ∀ c ∈ pre.toList, c ≠ '\x60' := by
      rintro c inside rfl
      exact plain inside
    apply decodeReply_of_decodeChars?
    simp only [String.toList_append, String.toList_ofList]
    rw [decodeChars?, decodeFenced?_wrapped portable unfenced ticks opens leading trailing,
      Option.some_or]
  · intro pre post before after bare alone
    apply decodeReply_of_decodeChars?
    simp only [String.toList_append, String.toList_ofList]
    exact decodeChars?_wrapped portable before after bare alone

def bracedObject : List (String × Json) :=
  [("a\x7d", .arr [.int (-12), .str "\x7b\x60\x60"]), ("b", .obj [("c", .null)])]

theorem decodeReply_chattyObject :
    (Json.obj bracedObject).Portable ∧
      decodeReply (.str ("Sure:\n" ++ "\x60\x60\x60json" ++ "\n" ++
        (Json.obj bracedObject).write .exchange ++ " \n" ++ String.ofList fence ++
          "or \x7b\x7d \x60\x60\x60\x7b\x7d\x60\x60\x60")) = .ok (.obj bracedObject) ∧
      decodeReply (.str ("[it is\x7d " ++ (Json.obj bracedObject).write .exchange ++ ". Done\x7b")) =
        .ok (.obj bracedObject) := by
  have short : (decimalDigits 12).length ≤ digitLimit := by decide
  have portable : (Json.obj bracedObject).Portable := by
    simpa [bracedObject, Json.Portable, Json.FieldsPortable, Json.ItemsPortable, Entries.keys]
      using short
  have unfenced : occursIn fence ((Json.obj bracedObject).write .exchange).toList = false := by
    decide +kernel
  obtain ⟨fenced, worded⟩ := decodeReply_wrapped bracedObject portable unfenced
  refine ⟨portable, ?_, ?_⟩
  · exact fenced "Sure:\n" "\x60\x60\x60json" "\n" " \n" _ (by decide) (by decide) (by decide)
      (by decide)
  · exact worded "[it is\x7d " ". Done\x7b" (by decide) (by decide) (by decide +kernel)
      (.inr (by decide +kernel))

theorem decodeReply_bracketedObject :
    (Json.obj []).Portable ∧
      '{' ∉ "\u00a0[".toList ∧ '}' ∉ "]\u00a0".toList ∧
      occursIn fence ("\u00a0[" ++ (Json.obj []).write .exchange ++ "]\u00a0").toList = false ∧
      Json.readChars? ("\u00a0[" ++ (Json.obj []).write .exchange ++ "]\u00a0").toList = none ∧
      decodeReply (.str ("\u00a0[" ++ (Json.obj []).write .exchange ++ "]\u00a0")) ≠
        .ok (.obj []) := by
  have text : ("\u00a0[" ++ (Json.obj []).write .exchange ++ "]\u00a0").toList =
      "\u00a0[\x7b\x7d]\u00a0".toList := by
    decide +kernel
  have decoded : decodeChars? "\u00a0[\x7b\x7d]\u00a0".toList = some (.arr [.obj []]) := by rfl
  refine ⟨by simp [Json.Portable, Json.FieldsPortable, Entries.keys], by decide, by decide, ?_, ?_, ?_⟩
  · rw [text]
    decide
  · rw [text]
    rfl
  · rw [decodeReply_of_decodeChars? (text ▸ decoded)]
    simp

end PromptStudio
