namespace CrossRef.Text

/-- Whether `needle` stands somewhere in the text; the empty needle stands in every text. -/
def occursIn (needle : List Char) : List Char → Bool
  | [] => needle.isEmpty
  | c :: cs => needle.isPrefixOf (c :: cs) || occursIn needle cs

theorem occursIn_iff_isInfix {needle text : List Char} :
    occursIn needle text = true ↔ needle <:+: text := by
  induction text with
  | nil => simp [occursIn]
  | cons c cs ih => simp [occursIn, ih, List.infix_cons_iff]

/-- The text before and after the first place where `mark` stands. -/
def cutAt (mark : List Char) : List Char → Option (List Char × List Char)
  | [] => if mark.isEmpty then some ([], []) else none
  | c :: cs =>
    match mark.isPrefixOf? (c :: cs) with
    | some rest => some ([], rest)
    | none => (cutAt mark cs).map fun (before, after) => (c :: before, after)

/-- The text before and after the last `c`. -/
def cutAtLast (c : Char) (cs : List Char) : Option (List Char × List Char) :=
  (cutAt [c] cs.reverse).map fun (after, before) => (before.reverse, after.reverse)

end CrossRef.Text
