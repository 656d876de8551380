import LedgerFlow.Text.CompositionTable

namespace LedgerFlow.Text

def markClass (n : Nat) : Nat :=
  match markClasses.find? fun (first, last, _) => first ≤ n && n ≤ last with
  | some (_, _, k) => k
  | none => 0

def parts? (n : Nat) : Option (Nat × Nat) :=
  (compositions.find? fun (_, _, whole) => whole = n).map fun (a, b, _) => (a, b)

def whole? (a b : Nat) : Option Nat :=
  (compositions.find? fun (first, second, _) => first = a && second = b).map fun (_, _, whole) => whole

def longestMaking : Nat := 4

def takenApart (steps n : Nat) : List Nat :=
  match steps with
  | 0 => [n]
  | steps + 1 => match parts? n with
    | some (a, b) => takenApart steps a ++ [b]
    | none => [n]

def addInOrder (text : List Nat) (n : Nat) : List Nat :=
  match text with
  | [] => [n]
  | m :: rest => if markClass n != 0 && markClass n < markClass m then m :: addInOrder rest n else n :: text

def decomposed (text : List Nat) : List Nat :=
  ((text.flatMap (takenApart longestMaking)).foldl addInOrder []).reverse

/-- A text on the way to its composed form: what is done, kept from its end, and the letter that may still
take up marks, with those it did not take up and the class of the last code point after it. -/
structure Composing where
  done : List Nat
  letter : Option Nat
  marks : List Nat
  last : Nat

namespace Composing

def text (c : Composing) : List Nat := c.marks ++ c.letter.toList ++ c.done

def add (c : Composing) (n : Nat) : Composing :=
  let k := markClass n
  match c.letter.bind (whole? · n) with
  | some whole => if c.last < k || c.last = 0 then { c with letter := some whole } else keep c n k
  | none => keep c n k
where
  keep (c : Composing) (n k : Nat) : Composing :=
    if k = 0 then ⟨c.text, some n, [], 0⟩
    else { c with marks := n :: c.marks, last := k }

end Composing

def composed (text : List Nat) : List Nat :=
  ((decomposed text).foldl Composing.add ⟨[], none, [], 256⟩).text.reverse

example : composed [0xE2, 0x323] = [0x1EAD] := by decide +kernel
example : composed [0x65, 0x78] = [0x65, 0x78] := by decide +kernel

end LedgerFlow.Text
