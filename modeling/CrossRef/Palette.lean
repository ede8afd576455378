import CrossRef.Text.Ascii

namespace CrossRef

/-- How a text is painted: the codes of a colour and of its manner, none for plain text. -/
abbrev Ink := List Nat

/-- A text painted on a terminal. -/
def Ink.paint (ink : Ink) (text : String) : String :=
  if ink.isEmpty then text
  else
    let escape := String.singleton (Char.ofNat 0x1b)
    escape ++ "[" ++ ";".intercalate (ink.map toString) ++ "m" ++ text ++ escape ++ "[0m"

/-- The inks of the program's output, and whether it should say little. -/
structure Palette where
  header : Ink
  success : Ink
  warning : Ink
  info : Ink
  label : Ink
  symbol : Ink
  location : Ink
  unused : Ink
  quiet : Bool

namespace Palette

def plain : Palette :=
  ⟨[], [], [], [], [], [], [], [], false⟩

def coloured : Palette :=
  { header := [36, 1]
    success := [32, 1]
    warning := [33, 1]
    info := [35]
    label := [37, 2]
    symbol := [1]
    location := [34]
    unused := [90, 3]
    quiet := false }

/-- Whether the wish for quiet is granted: it says 1 or true. -/
def isQuiet (wish : Option String) : Bool :=
  wish.any fun text => text = "1" || Text.equalIgnoringCase text "true"

/-- The palette of a run: colours only on a terminal, and only where they are wanted. -/
def choose (terminal noColour : Bool) (quiet : Option String) : Palette :=
  { (if terminal && !noColour then coloured else plain) with quiet := isQuiet quiet }

end Palette

end CrossRef
