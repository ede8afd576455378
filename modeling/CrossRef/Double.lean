namespace CrossRef.Double

/-- The least number that is nearer to infinity than to any double. -/
def limit : Nat :=
  Nat.pow 2 1024 - Nat.pow 2 970

/-- The double nearest to a whole number; of two that are equally near, the even one. -/
def nearest (n : Nat) : Nat :=
  let unit := Nat.pow 2 (n.log2 - 52)
  let below := n / unit
  let part := 2 * (n % unit)
  if unit < part || (part = unit && below % 2 = 1) then (below + 1) * unit else below * unit

end CrossRef.Double
