import LedgerFlow.Text.Blank
import LedgerFlow.Text.DecimalDigit

namespace LedgerFlow.Text

def digitLimit : Nat := 4300

inductive IntegerReading
  | value (n : Int)
  | tooManyDigits (count : Nat)
  | malformed
deriving DecidableEq, Repr

def isDigitOrUnderscore (c : Char) : Bool :=
  c = '_' || (digitValue? c).isSome

def underscoresFit : List Char → Bool
  | [] => true
  | '_' :: _ => false
  | [_] => true
  | _ :: '_' :: rest => match rest with
    | [] => false
    | c :: _ => c != '_' && underscoresFit rest
  | _ :: c :: rest => underscoresFit (c :: rest)

def ofDigits (digits : List Nat) : Nat :=
  digits.foldl (fun n d => 10 * n + d) 0

def readDigits (negative : Bool) (cs : List Char) : IntegerReading :=
  let run := cs.takeWhile isDigitOrUnderscore
  let digits := run.filterMap digitValue?
  if !underscoresFit run then .malformed
  else if digitLimit < digits.length then .tooManyDigits digits.length
  else if digits.isEmpty || !(cs.dropWhile isDigitOrUnderscore).all isSpace then .malformed
  else
    let n : Int := ofDigits digits
    .value (if negative then -n else n)

def readInteger (cs : List Char) : IntegerReading :=
  match cs.dropWhile isSpace with
  | '-' :: rest => readDigits true rest
  | '+' :: rest => readDigits false rest
  | cs => readDigits false cs

example : readInteger " -1_0 ".toList = .value (-10) := by decide +kernel
example : readInteger "1__0".toList = .malformed := by decide +kernel

end LedgerFlow.Text
