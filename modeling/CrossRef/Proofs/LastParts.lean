import CrossRef.Classification
import CrossRef.Proofs.DocSegments
import CrossRef.Proofs.ShownNames
import CrossRef.Report.Listing

namespace CrossRef

namespace Text

theorem cutAtLast_of_not_mem {mark : Char} {text : List Char} (h : mark ∉ text) :
    cutAtLast mark text = none := by
  have hnone : cutAt [mark] text.reverse = none := by
    refine cutAt_eq_none_iff.mpr fun hwithin => h ?_
    exact List.mem_reverse.mp (hwithin.subset (List.mem_singleton_self mark))
  rw [cutAtLast, hnone, Option.map_none]

theorem cutAtLast_last {mark : Char} {after : List Char} (h : mark ∉ after) (before : List Char) :
    cutAtLast mark (before ++ mark :: after) = some (before, after) := by
  have hreverse : (before ++ mark :: after).reverse = after.reverse ++ mark :: before.reverse := by
    simp
  rw [cutAtLast, hreverse, cutAt_first (mt List.mem_reverse.mp h)]
  simp

/-- The part is what stands behind the last dot of a text, or all of a text that has none. -/
def IsLastPart (part text : String) : Prop :=
  '.' ∉ part.toList ∧ (text = part ∨ ∃ front, text = front ++ "." ++ part)

theorem exists_last_dot {text : String} (h : '.' ∈ text.toList) :
    ∃ front part, text = front ++ "." ++ part ∧ '.' ∉ part.toList := by
  obtain ⟨after, before, hparts, hafter⟩ :=
    List.eq_append_cons_of_mem (List.mem_reverse.mpr h)
  refine ⟨String.ofList before.reverse, String.ofList after.reverse, ?_, ?_⟩
  · apply String.toList_injective
    rw [← List.reverse_reverse text.toList, hparts]
    simp
  · simpa using hafter

theorem IsLastPart.behind_dot {part text : String} (h : IsLastPart part text) (front : String) :
    IsLastPart part (front ++ "." ++ text) := by
  obtain ⟨hdot, rfl | ⟨before, rfl⟩⟩ := h
  · exact ⟨hdot, Or.inr ⟨front, rfl⟩⟩
  · exact ⟨hdot, Or.inr ⟨front ++ "." ++ before, by simp [String.append_assoc]⟩⟩

end Text

namespace Report

/-- The last name is the last part. -/
theorem lastName_eq_iff {name part : String} :
    lastName name = part ↔ Text.IsLastPart part name := by
  by_cases hdot : '.' ∈ name.toList
  · obtain ⟨front, last, rfl, hlast⟩ := Text.exists_last_dot hdot
    have hchars : (front ++ "." ++ last).toList = front.toList ++ '.' :: last.toList := by simp
    have hown : lastName (front ++ "." ++ last) = last := by
      rw [lastName, hchars, Text.cutAtLast_last hlast]
      exact String.ofList_toList
    rw [hown]
    constructor
    · rintro rfl
      exact ⟨hlast, Or.inr ⟨front, rfl⟩⟩
    · rintro ⟨hpart, heq | ⟨before, heq⟩⟩
      · rw [heq] at hdot
        exact absurd hdot hpart
      · have hcut := Text.cutAtLast_last hpart before.toList
        have hother : (before ++ "." ++ part).toList = before.toList ++ '.' :: part.toList := by
          simp
        rw [← hother, ← heq, hchars, Text.cutAtLast_last hlast] at hcut
        exact String.toList_injective (Prod.mk.inj (Option.some.inj hcut)).2
  · have hown : lastName name = name := by rw [lastName, Text.cutAtLast_of_not_mem hdot]
    rw [hown]
    constructor
    · rintro rfl
      exact ⟨hdot, Or.inl rfl⟩
    · rintro ⟨_, heq | ⟨before, rfl⟩⟩
      · exact heq
      · exact absurd (by simp) hdot

/-- What stands in front of a dot does not change the last name. -/
theorem lastName_behind_dot (front name : String) :
    lastName (front ++ "." ++ name) = lastName name :=
  lastName_eq_iff.mpr ((lastName_eq_iff.mp rfl).behind_dot front)

theorem lastName_of_no_dot {name : String} (h : '.' ∉ name.toList) : lastName name = name :=
  lastName_eq_iff.mpr ⟨h, Or.inl rfl⟩

end Report

end CrossRef
