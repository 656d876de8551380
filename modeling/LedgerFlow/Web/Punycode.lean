namespace LedgerFlow.Web.Punycode

def threshold (index bias : Nat) : Nat :=
  min 26 (max 1 (36 * (index + 1) - bias))

theorem threshold_pos (index bias : Nat) : 0 < threshold index bias := by
  unfold threshold
  omega

def scaleDown (count n : Nat) : Nat × Nat :=
  if 455 < n then scaleDown (count + 36) (n / 35) else (count, n)
termination_by n
decreasing_by exact Nat.div_lt_self (by omega) (by omega)

def nextBias (first : Bool) (number size : Nat) : Nat :=
  let n := if first then number / 700 else number / 2
  let (count, n) := scaleDown 0 (n + n / size)
  count + 36 * n / (n + 38)

def digitChar (d : Nat) : Char :=
  if d < 26 then Char.ofNat ('a'.toNat + d) else Char.ofNat ('0'.toNat + (d - 26))

def numberDigits (bias index n : Nat) : List Char :=
  let t := threshold index bias
  if n < t then [digitChar n]
  else digitChar (t + (n - t) % (36 - t)) :: numberDigits bias (index + 1) ((n - t) / (36 - t))
termination_by n
decreasing_by
  have h := threshold_pos index bias
  exact Nat.lt_of_le_of_lt (Nat.div_le_self ..) (by omega)

structure Writing where
  digits : List Char
  distance : Nat
  bias : Nat
  placed : Nat
  first : Bool

def Writing.pass (code : Nat) (w : Writing) (n : Nat) : Writing :=
  if n < code then { w with distance := w.distance + 1 }
  else if n = code then
    { digits := w.digits ++ numberDigits w.bias 0 w.distance
      distance := 0
      bias := nextBias w.first w.distance (w.placed + 1)
      placed := w.placed + 1
      first := false }
  else w

def writeCodes (label : List Nat) (w : Writing) (next : Nat) : List Nat → List Char
  | [] => w.digits
  | code :: rest =>
    let w := { w with distance := w.distance + (code - next) * (w.placed + 1) }
    let w := label.foldl (Writing.pass code) w
    writeCodes label { w with distance := w.distance + 1 } (code + 1) rest

def isPlain (n : Nat) : Bool := n < 128

def encode (label : List Nat) : List Char :=
  let plain := label.filter isPlain
  let others := (label.filter (!isPlain ·)).eraseDups.mergeSort (· ≤ ·)
  let digits := writeCodes label ⟨[], 0, 72, plain.length, true⟩ 128 others
  plain.map Char.ofNat ++ (if plain.isEmpty then digits else '-' :: digits)

def digitValue? (c : Char) : Option Nat :=
  if 'a' ≤ c && c ≤ 'z' then some (c.toNat - 'a'.toNat)
  else if '0' ≤ c && c ≤ '9' then some (c.toNat - '0'.toNat + 26)
  else none

structure Reading where
  label : List Nat
  code : Nat
  place : Nat
  bias : Nat
  first : Bool
  number : Nat
  weight : Nat
  index : Nat

def Reading.digit (r : Reading) (d : Nat) : Option Reading :=
  let t := threshold r.index r.bias
  let number := r.number + d * r.weight
  if d < t then
    let size := r.label.length + 1
    let code := r.code + (r.place + number) / size
    let place := (r.place + number) % size
    if code < 0x110000 then
      some ⟨r.label.take place ++ code :: r.label.drop place, code, place + 1,
        nextBias r.first number size, false, 0, 1, 0⟩
    else none
  else some { r with number := number, weight := r.weight * (36 - t), index := r.index + 1 }

def readDigits (r : Reading) : List Char → Option (List Nat)
  | [] => if r.index = 0 then some r.label else none
  | c :: rest => (digitValue? c).bind r.digit >>= fun r => readDigits r rest

def splitLast (cs : List Char) : List Char × List Char :=
  let after := (cs.reverse.takeWhile (· != '-')).reverse
  (cs.take (cs.length - after.length - 1), after)

def decode (cs : List Char) : Option (List Nat) :=
  let (plain, digits) := splitLast cs
  readDigits ⟨plain.map Char.toNat, 128, 0, 72, true, 0, 1, 0⟩ digits

example : encode ("münchen".toList.map Char.toNat) = "mnchen-3ya".toList := by decide +kernel
example : decode "mnchen-3ya".toList = some ("münchen".toList.map Char.toNat) := by decide +kernel

end LedgerFlow.Web.Punycode
