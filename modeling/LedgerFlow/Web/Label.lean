import LedgerFlow.Error
import LedgerFlow.Text.Composition
import LedgerFlow.Text.Encoding
import LedgerFlow.Web.LabelTable

namespace LedgerFlow.Web

abbrev Label := List Nat

def inRanges (ranges : List (Nat × Nat)) (n : Nat) : Bool :=
  ranges.any fun (first, last) => first ≤ n && n ≤ last

def inRuns (runs : List (Nat × Nat × Nat)) (n : Nat) : Bool :=
  runs.any fun (first, last, step) => first ≤ n && n ≤ last && (n - first) % step == 0

def isLabelCode (n : Nat) : Bool := inRuns labelRuns n

def isMark (n : Nat) : Bool := inRanges flatMarks n || inRanges wideMarks n

def hyphen : Nat := 0x2D

namespace Label

def quoted (label : Label) : String := Text.quoted (Text.ofCodes label)

def badLabel (message : String) : Fault := .raised .hostName message none

inductive Direction
  | left
  | right
  | arabic
  | number
  | arabicNumber
  | mark
  | neutral
deriving DecidableEq, Repr

def digitRanges : List (Nat × Nat) := [(0x30, 0x39), (0x6F0, 0x6F9)]

def arabicDigitRanges : List (Nat × Nat) := [(0x660, 0x669), (0x10D30, 0x10D39)]

def arabicRanges : List (Nat × Nat) := [
  (0x620, 0x6FF), (0x710, 0x7B1), (0x860, 0x8C9), (0xFE73, 0xFE73), (0x10D00, 0x10D23), (0x10F30, 0x10F45)]

def rightRanges : List (Nat × Nat) := [(0x5D0, 0x5F4), (0x7C0, 0x858), (0x10800, 0x10FF6), (0x1E800, 0x1E959)]

def neutralRanges : List (Nat × Nat) := [
  (0x2D, 0x2D), (0xB7, 0xB7), (0x2B9, 0x2BA), (0x2C6, 0x2CF), (0x2EC, 0x2EC), (0x375, 0x375), (0x200C, 0x200D),
  (0x2E2F, 0x2E2F), (0x30FB, 0x30FB), (0xA67F, 0xA67F), (0xA717, 0xA71F), (0xA788, 0xA788)]

def direction (n : Nat) : Direction :=
  if inRanges flatMarks n then .mark
  else if inRanges digitRanges n then .number
  else if inRanges arabicDigitRanges n then .arabicNumber
  else if inRanges arabicRanges n then .arabic
  else if inRanges rightRanges n then .right
  else if inRanges neutralRanges n then .neutral
  else .left

namespace Direction

def isRight (d : Direction) : Bool := d == .right || d == .arabic

def isRightToLeft (d : Direction) : Bool := d.isRight || d == .arabicNumber

def isNumber (d : Direction) : Bool := d == .number || d == .arabicNumber

def isEnding (rightwards : Bool) (d : Direction) : Bool :=
  if rightwards then d == .left || d == .number else d.isRight || d.isNumber

end Direction

def badDirection (message : String) : Fault := .raised .hostDirection message none

def checkDirections (rightwards ended : Bool) (numbers : Option Direction) (place : Nat) :
    List Direction → Except Fault Unit
  | [] => if ended then .ok () else .error (badDirection "Label ends with illegal codepoint directionality")
  | d :: rest =>
    let ended := d.isEnding rightwards || (d == .mark && ended)
    if rightwards then
      if d.isRightToLeft then
        .error (badDirection s!"Invalid direction for codepoint at position {place} in a left-to-right label")
      else checkDirections rightwards ended numbers (place + 1) rest
    else if d == .left then
      .error (badDirection s!"Invalid direction for codepoint at position {place} in a right-to-left label")
    else if d.isNumber && numbers.any (· != d) then
      .error (badDirection "Can not mix numeral types in a right-to-left label")
    else checkDirections rightwards ended (if d.isNumber then some d else numbers) (place + 1) rest

def checkDirection (label : Label) : Except Fault Unit :=
  let directions := label.map direction
  if !directions.any Direction.isRightToLeft then .ok ()
  else match directions with
    | [] => .ok ()
    | d :: _ =>
      if d.isRight then checkDirections false false none 1 directions
      else if d == .left then checkDirections true false none 1 directions
      else .error (badDirection s!"First codepoint in label {quoted label} must be directionality L, R or AL")

def virama : Nat := 9

def isTransparent (n : Nat) : Bool :=
  inRanges flatMarks n || [0xCBF, 0xCC6, 0x11A07, 0x11A08, 0x11C3F, 0x1E94B].contains n

def meets (isJoining : Nat → Bool) (codes : List Nat) : Bool :=
  (codes.find? (!isTransparent ·)).any isJoining

def joinsAfter (n : Nat) : Bool := inRanges leftJoining n || inRanges dualJoining n

def joinsBefore (n : Nat) : Bool := inRanges rightJoining n || inRanges dualJoining n

def followsVirama (before : List Nat) : Bool :=
  before.head?.any (Text.markClass · == virama)

def joinerFits (n : Nat) (before after : List Nat) : Bool :=
  followsVirama before || (n == 0x200C && meets joinsAfter before && meets joinsBefore after)

def isSign (n : Nat) : Bool :=
  [0xB7, 0x375, 0x5F3, 0x5F4, 0x30FB].contains n || inRanges [(0x660, 0x669), (0x6F0, 0x6F9)] n

def signFits (n : Nat) (before after : List Nat) : Bool :=
  match n with
  | 0xB7 => before.head? == some 0x6C && after.head? == some 0x6C
  | 0x375 => after.head?.any (inRanges greekLetters)
  | 0x5F3 | 0x5F4 => before.head?.any (inRanges hebrewLetters)
  | 0x30FB => (before ++ after).any (inRanges japaneseLetters)
  | _ =>
    let others := if n < 0x6F0 then [(0x6F0, 0x6F9)] else [(0x660, 0x669)]
    !(before ++ after).any (inRanges others)

def hexName (n : Nat) : String :=
  String.ofList ('U' :: '+' :: (Text.hexDigits 4 n).map Char.toUpper)

def checkCodes (label : Label) (before : List Nat) : List Nat → Except Fault Unit
  | [] => .ok ()
  | n :: after =>
    let place := before.length + 1
    if isLabelCode n then checkCodes label (n :: before) after
    else if n == 0x200C || n == 0x200D then
      if joinerFits n before after then checkCodes label (n :: before) after
      else .error (badLabel
        s!"Unknown codepoint adjacent to joiner {hexName n} at position {place} in {quoted label}")
    else if isSign n then
      if signFits n before after then checkCodes label (n :: before) after
      else .error (.raised .hostContext
        s!"Codepoint {hexName n} not allowed at position {place} in {quoted label}" none)
    else .error (.raised .hostCharacter
      s!"Codepoint {hexName n} at position {place} of {quoted label} not allowed" none)

def check (label : Label) : Except Fault Unit := do
  if label.isEmpty then throw (badLabel "Empty Label")
  if Text.composed label != label then throw (badLabel "Label must be in Normalization Form C")
  if (label.drop 2).take 2 == [hyphen, hyphen] then
    throw (badLabel "Label has disallowed hyphens in 3rd and 4th position")
  if label.head? == some hyphen || label.getLast? == some hyphen then
    throw (badLabel "Label must not start or end with a hyphen")
  if label.head?.any isMark then throw (badLabel "Label begins with an illegal combining character")
  checkCodes label [] label
  checkDirection label

end Label

end LedgerFlow.Web
