namespace CrossRef

/-- The phases of a run. -/
inductive Phase
  | classifying
  | extracting
  | resolving
  deriving DecidableEq

def Phase.name : Phase → String
  | .classifying => "classifying"
  | .extracting => "extracting"
  | .resolving => "resolving"

/-- What a run tells while it goes on. -/
inductive Progress
  | started (phase : Phase) (total : Nat)
  | advanced (phase : Phase) (current : Nat) (path : String)
  | finished (phase : Phase)
  | skipped (path : String)
  deriving DecidableEq

end CrossRef
