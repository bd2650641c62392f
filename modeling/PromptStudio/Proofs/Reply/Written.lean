import PromptStudio.Proofs.Reply.Decoding

set_option autoImplicit false

namespace PromptStudio

namespace Json

theorem Style.compact_plain : Style.compact.Plain :=
  ⟨⟨[], rfl, by simp⟩, [], rfl, by simp⟩

def Container (v : Json) : Prop := (∃ items, v = .arr items) ∨ ∃ fields, v = .obj fields

variable {v : Json}

theorem Container.ne_null (container : v.Container) : v ≠ .null := by
  rcases container with ⟨items, rfl⟩ | ⟨fields, rfl⟩ <;> nofun

end Json

variable {v : Json} {style : Json.Style}

theorem decodeText_written (plain : style.Plain) (container : v.Container) (portable : v.Portable)
    (unfenced : v.Unfenced) : decodeText (v.write style) = .ok v := by
  have absent := decodeFenced?_eq_none (Json.occursIn_fence_chars plain v unfenced)
  rw [decodeText, Json.write, String.toList_ofList, decodeChars?, absent,
    decodeTrimmed?_chars plain container.ne_null portable]
  rfl

end PromptStudio
