namespace CrossRef.Text

/-- Equality of texts in which a letter from A to Z equals its small form. No other letter is
folded. -/
def equalIgnoringCase (a b : String) : Bool :=
  a.toList.map Char.toLower == b.toList.map Char.toLower

end CrossRef.Text
