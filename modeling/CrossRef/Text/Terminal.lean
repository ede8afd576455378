import CrossRef.Text.Utf8

namespace CrossRef.Text

/-- How far a text has led a terminal into a control sequence. -/
inductive Sequence
  | outside
  /-- Behind the escape character, -/
  | escape
  /-- and behind further marks. -/
  | escapeMarks
  /-- Behind the bracket that opens a control sequence, -/
  | opened
  /-- among its parameters, -/
  | parameters
  /-- among the marks behind them, -/
  | marks
  /-- or at a place where it has gone wrong. -/
  | astray
  /-- Before the letter that opens a device string. -/
  | deviceHead
  /-- In a string that only an escape character or the end of a string closes. -/
  | string
  /-- In a string that a bell closes, too. -/
  | title
  deriving DecidableEq

namespace Sequence

/-- Whether the character holds the byte that closes a string. -/
def closesString (c : Char) : Bool :=
  (String.utf8EncodeChar c).contains 0x9c

/-- What a printing character behind an escape character opens. -/
def afterEscape (c : Char) : Sequence :=
  if c = '[' then .opened
  else if c = ']' then .title
  else if c = 'P' then .deviceHead
  else if c = 'X' || c = '^' || c = '_' then .string
  else .outside

/-- Where a terminal stands behind one more character. -/
def next (sequence : Sequence) (c : Char) : Sequence :=
  let n := c.toNat
  if n = 0x1b then .escape
  else if n = 0x18 || n = 0x1a then .outside
  else if n < 0x20 then if n = 0x07 && sequence = .title then .outside else sequence
  else if n < 0x7f then
    match sequence with
    | .outside => .outside
    | .escape => if n < 0x30 then .escapeMarks else afterEscape c
    | .escapeMarks => if n < 0x30 then .escapeMarks else .outside
    | .opened => if n < 0x30 then .marks else if n < 0x40 then .parameters else .outside
    | .parameters =>
      if n < 0x30 then .marks else if n < 0x3c then .parameters
      else if n < 0x40 then .astray else .outside
    | .marks => if n < 0x30 then .marks else if n < 0x40 then .astray else .outside
    | .astray => if n < 0x40 then .astray else .outside
    | .deviceHead => if n < 0x40 then .deviceHead else .string
    | .string => .string
    | .title => .title
  else if sequence = .string && closesString c then .outside
  else sequence

/-- Whether a terminal shows a character where it stands: everything but controls outside of a
sequence, and within one that is no string the controls that part words and lines. -/
def shows (sequence : Sequence) (c : Char) : Bool :=
  let parts := c = '\t' || c = '\n' || c = '\x0c' || c = '\r'
  match sequence with
  | .outside => parts || (0x20 ≤ c.toNat && c.toNat ≠ 0x7f)
  | .deviceHead | .string | .title => false
  | _ => parts

end Sequence

/-- What a terminal shows of a text. Behind a character that it shows (`shown`), the text passes
as if outside of a sequence up to the next that it does not show; an unfinished sequence goes on
there. -/
def bareFrom (sequence : Sequence) (shown : Bool) : List Char → List Char
  | [] => []
  | c :: cs =>
    if (if shown then Sequence.outside else sequence).shows c then
      c :: bareFrom (if c.toNat < 0x80 then sequence else .outside) true cs
    else bareFrom (sequence.next c) false cs

/-- A text without control sequences and without controls other than those that part words and
lines. -/
def bare (s : String) : String :=
  String.ofList (bareFrom .outside false s.toList)

end CrossRef.Text
