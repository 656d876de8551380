import LedgerFlow.Text.CaseTable

namespace LedgerFlow.Text

def CaseRun.partner? (r : CaseRun) (n : Nat) : Option Nat :=
  if r.first ≤ n && n ≤ r.last && (n - r.first) % r.step == 0 then some (n + r.shift).toNat else none

def partner (runs : List CaseRun) (c : Char) : Char :=
  ((runs.findSome? (·.partner? c.toNat)).map Char.ofNat).getD c

def inRanges (ranges : List (Nat × Nat)) (c : Char) : Bool :=
  ranges.any fun r => r.1 ≤ c.toNat && c.toNat ≤ r.2

def facesCased : List Char → Bool
  | [] => false
  | c :: rest => if inRanges caseIgnorableRanges c then facesCased rest else inRanges casedRanges c

def lowerAt (before : List Char) (c : Char) (after : List Char) : List Char :=
  if c.val < 128 then [c.toLower]
  else if c = 'Σ' then [if facesCased before && !facesCased after then 'ς' else 'σ']
  else if c = 'İ' then ['i', Char.ofNat 0x307]
  else [partner lowerRuns c]

def lowerFrom (before : List Char) : List Char → List Char
  | [] => []
  | c :: rest => lowerAt before c rest ++ lowerFrom (c :: before) rest

/-- Lower case; a capital sigma that ends a word becomes the final one. -/
def lower (s : String) : String :=
  String.ofList (lowerFrom [] s.toList)

def upperChar (c : Char) : List Char :=
  if c.val < 128 then [c.toUpper]
  else match upperSequences.lookup c.toNat with
    | some letters => letters.map Char.ofNat
    | none => [partner upperRuns c]

def upper (s : String) : String :=
  String.ofList (s.toList.flatMap upperChar)

/-- The lower-case ASCII letter that a character stands for when case does not matter: besides the
capitals these are the dotted and dotless i, the long s and the Kelvin sign. -/
def fold (c : Char) : Char :=
  if c = 'İ' || c = 'ı' then 'i'
  else if c = 'ſ' then 's'
  else if c = Char.ofNat 0x212A then 'k'
  else if c.val < 128 then c.toLower
  else c

def isLabelChar (c : Char) : Bool :=
  let f := fold c
  ('a' ≤ f && f ≤ 'z') || ('0' ≤ f && f ≤ '9') || f == '-'

def contains (text phrase : List Char) : Bool :=
  phrase.isPrefixOf text ||
    match text with
    | [] => false
    | _ :: rest => contains rest phrase

def mentions (text phrase : String) : Bool :=
  contains (text.toList.map fold) phrase.toList

example : upper "straße" = "STRASSE" := by decide +kernel
example : lower "ΟΔΟΣ Σ" = "οδος σ" := by decide +kernel
example : mentions "uſer Rejected it" "user rejected" = true := by decide +kernel

end LedgerFlow.Text
