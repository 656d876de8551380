import LedgerFlow.Text.Case
import LedgerFlow.Web.Label
import LedgerFlow.Web.Punycode

namespace LedgerFlow.Web.HostName

def digitMark : List Char := ['x', 'n', '-', '-']

def separators : List Nat := [0x2E, 0x3002, 0xFF0E, 0xFF61]

def labels (name : List Nat) : List Label :=
  name.splitOnP separators.contains

def nameLabels (name : List Nat) : List Label × Bool :=
  let parts := labels name
  if parts.getLast? == some [] then (parts.dropLast, true) else (parts, false)

def readLabel (cs : List Char) : Except Fault Label := do
  if cs.take 4 == digitMark then
    let digits := cs.drop 4
    if digits.isEmpty then throw (Label.badLabel "Malformed A-label, no Punycode eligible content found")
    if digits.getLast? == some '-' then throw (Label.badLabel "A-label must not end with a hyphen")
    match Punycode.decode digits with
    | none => throw (Label.badLabel "Invalid A-label")
    | some label =>
      Label.check label
      return label
  else
    let label := cs.map Char.toNat
    Label.check label
    return label

def longestLabel : Nat := 63

def longestName : Nat := 253

def plainChars (label : Label) : List Char := label.map Char.ofNat

def writeLabel (label : Label) : Except Fault (List Char) := do
  let written ←
    if label.all Punycode.isPlain then
      discard (readLabel (plainChars label))
      pure (plainChars label)
    else
      Label.check label
      pure (digitMark ++ Punycode.encode label)
  if longestLabel < written.length then throw (Label.badLabel "Label too long")
  return written

def write (name : List Nat) : Except Fault String := do
  let (parts, ended) := nameLabels name
  let written := ".".intercalate ((← parts.mapM writeLabel).map String.ofList)
  let longest := if ended then longestName + 1 else longestName
  let written := if ended then written ++ "." else written
  if longest < written.length then throw (Label.badLabel "Domain too long")
  return written

def read (name : String) : Except Fault (List Label) :=
  (nameLabels (name.toList.map Char.toNat)).1.mapM fun label => readLabel (plainChars label)

end LedgerFlow.Web.HostName
