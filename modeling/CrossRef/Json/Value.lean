namespace CrossRef

/-- A JSON value. An object keeps the order of its members and any that are repeated. -/
inductive Json
  | null
  | bool (value : Bool)
  /-- A number written with digits alone. -/
  | nat (value : Nat)
  /-- A number with a sign, a fraction or an exponent, as it is written. -/
  | number (written : String)
  | str (text : String)
  /-- A string with half a character in it, or an object with one in a key, as it is written. It
  says nothing but can be passed over. -/
  | broken (written : String)
  | arr (items : List Json)
  | obj (members : List (String × Json))

end CrossRef
