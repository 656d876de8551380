namespace LedgerFlow.Web.Address

def isDigit (c : Char) : Bool := '0' ≤ c && c ≤ '9'

def isHexDigit (c : Char) : Bool :=
  isDigit c || ('a' ≤ c && c ≤ 'f') || ('A' ≤ c && c ≤ 'F')

def valueOf (digits : List Char) : Nat :=
  digits.foldl (fun n c => 10 * n + (c.toNat - '0'.toNat)) 0

def isOctet (cs : List Char) : Bool :=
  !cs.isEmpty && cs.length ≤ 3 && cs.all isDigit && (cs == ['0'] || cs.head? != some '0') && valueOf cs < 256

def isOctets (cs : List Char) : Bool :=
  let parts := cs.splitOn '.'
  parts.length == 4 && parts.all isOctet

def isGroup (cs : List Char) : Bool :=
  !cs.isEmpty && cs.length ≤ 4 && cs.all isHexDigit

/-- The parts between colons, octets at the end counted as the two groups that they are; nothing if they are
no octets. -/
def groupParts (cs : List Char) : Option (List (List Char)) :=
  let parts := cs.splitOn ':'
  match parts.getLast? with
  | none => some parts
  | some last =>
    if !last.contains '.' then some parts
    else if isOctets last then some (parts.dropLast ++ [['0'], ['0']])
    else none

def gap? (parts : List (List Char)) : Option Nat :=
  (parts.dropLast.drop 1).findIdx? (·.isEmpty) |>.map (· + 1)

def side (parts : List (List Char)) : List (List Char) :=
  if parts == [[]] then [] else parts

def isGroupList (parts : List (List Char)) : Bool :=
  match gap? parts with
  | none => parts.length == 8 && parts.all isGroup
  | some place =>
    let left := side (parts.take place)
    let right := side (parts.drop (place + 1))
    left.all isGroup && right.all isGroup && left.length + right.length < 8

def isGroups (cs : List Char) : Bool :=
  let scope := cs.dropWhile (· != '%')
  (scope.isEmpty || (1 < scope.length && !(scope.drop 1).contains '%')) &&
    (groupParts (cs.takeWhile (· != '%'))).any isGroupList

example : isGroups "::ffff:1.2.3.4".toList = true := by decide +kernel
example : isGroups "1::2::3".toList = false := by decide +kernel

end LedgerFlow.Web.Address
