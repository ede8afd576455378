namespace CrossRef.Text

/-- Characters at a regular distance from each other whose images keep that distance. -/
structure CaseRun where
  first : Nat
  last : Nat
  stride : Nat
  image : Nat

/-- The image of a code point, if it lies on the run. -/
def CaseRun.image? (run : CaseRun) (code : Nat) : Option Nat :=
  if run.first ≤ code ∧ code ≤ run.last ∧ (code - run.first) % run.stride = 0 then
    some (run.image + (code - run.first))
  else none

/-- The image of a code point under a list of runs; the first run that holds it decides. -/
def imageIn (runs : List CaseRun) (code : Nat) : Option Nat :=
  runs.findSome? (·.image? code)

/-- Membership in a list of closed ranges. -/
def inRanges (ranges : List (Nat × Nat)) (code : Nat) : Bool :=
  ranges.any fun r => r.1 ≤ code && code ≤ r.2

end CrossRef.Text
