import CrossRef.Proofs.Utf8
import CrossRef.Text.Raw

namespace CrossRef.RawText

@[simp]
theorem text_ofText (text : String) : (ofText text).text = text := by
  rw [RawText.text, ofText, Text.decodeLossy_encode, String.ofList_toList]

@[simp]
theorem text?_ofText (text : String) : (ofText text).text? = some text := by
  rw [text?, ofText, Text.decode?_encode, Option.map_some, String.ofList_toList]

theorem ofText_injective {a b : String} (h : ofText a = ofText b) : a = b := by
  rw [← text_ofText a, h, text_ofText]

/-- Bytes that are those of the text they are shown as. -/
def IsText (raw : RawText) : Prop :=
  raw = ofText raw.text

instance (raw : RawText) : Decidable raw.IsText :=
  inferInstanceAs (Decidable (raw = ofText raw.text))

theorem isText_ofText (text : String) : (ofText text).IsText := by
  rw [IsText, text_ofText]

/-- Texts that are shown alike are the same. -/
theorem IsText.eq_of_text {a b : RawText} (ha : a.IsText) (hb : b.IsText) (h : a.text = b.text) :
    a = b := by
  rw [ha, hb, h]

theorem ofText_append (a b : String) : ofText (a ++ b) = ofText a ++ ofText b := by
  apply congrArg RawText.mk
  rw [Text.encode, String.toList_append, List.flatMap_append]
  rfl

theorem IsText.append {a b : RawText} (ha : a.IsText) (hb : b.IsText) : (a ++ b).IsText := by
  rw [ha, hb, ← ofText_append]
  exact isText_ofText _

/-- The text of some bytes is the one that has these bytes. -/
theorem text?_eq_some_iff {raw : RawText} {text : String} :
    raw.text? = some text ↔ raw = ofText text := by
  rw [text?, Option.map_eq_some_iff]
  constructor
  · rintro ⟨cs, hcs, rfl⟩
    exact congrArg RawText.mk (Text.decode?_eq_some_iff.mp hcs)
  · rintro rfl
    exact ⟨text.toList, Text.decode?_encode text, String.ofList_toList⟩

theorem text?_eq_none_iff {raw : RawText} : raw.text? = none ↔ ¬ raw.IsText := by
  constructor
  · intro h htext
    rw [htext, text?_ofText] at h
    cases h
  · intro h
    cases htext : raw.text? with
    | none => rfl
    | some text => exact absurd (text?_eq_some_iff.mp htext ▸ isText_ofText text) h

end CrossRef.RawText
