namespace CrossRef.Text

/-- Why a text is not the number of a 64-bit word with a sign. -/
inductive IntegerFault
  | empty
  | invalidDigit
  | tooLarge
  | tooSmall
  deriving DecidableEq

def IntegerFault.message : IntegerFault → String
  | .empty => "cannot parse integer from empty string"
  | .invalidDigit => "invalid digit found in string"
  | .tooLarge => "number too large to fit in target type"
  | .tooSmall => "number too small to fit in target type"

/-- Reads digits behind those that make up `value`. The first fault from the left is reported. -/
def readDigits (negative : Bool) (value : Int) : List Char → Except IntegerFault Int
  | [] => .ok value
  | c :: rest =>
    if c.isDigit then
      let digit : Int := c.toNat - 48
      let value := value * 10 + if negative then -digit else digit
      if value > Int64.maxValue.toInt then .error .tooLarge
      else if value < Int64.minValue.toInt then .error .tooSmall
      else readDigits negative value rest
    else .error .invalidDigit

/-- Reads a whole number, which may have a sign. -/
def readInteger (text : String) : Except IntegerFault Int64 :=
  match text.toList with
  | [] => .error .empty
  | [c] => (readDigits false 0 [c]).map Int64.ofInt
  | '-' :: digits => (readDigits true 0 digits).map Int64.ofInt
  | '+' :: digits => (readDigits false 0 digits).map Int64.ofInt
  | digits => (readDigits false 0 digits).map Int64.ofInt

end CrossRef.Text
