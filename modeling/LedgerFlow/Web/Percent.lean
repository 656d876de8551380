import LedgerFlow.Error
import LedgerFlow.Text.Encoding

namespace LedgerFlow.Web.Percent

open Text (Point)

def isLetter (c : Char) : Bool :=
  ('a' ≤ c && c ≤ 'z') || ('A' ≤ c && c ≤ 'Z')

def isDigit (c : Char) : Bool := '0' ≤ c && c ≤ '9'

def isHexDigit (c : Char) : Bool :=
  isDigit c || ('a' ≤ c && c ≤ 'f') || ('A' ≤ c && c ≤ 'F')

def isUnreserved (c : Char) : Bool :=
  isLetter c || isDigit c || "-._~".toList.contains c

def isPlainBut (others : String) (c : Char) : Bool :=
  ' ' < c && c ≤ '~' && !others.toList.contains c

def fragmentHolds : Char → Bool := isPlainBut "\"<>`"

def queryHolds : Char → Bool := isPlainBut "\"#<>"

def pathHolds : Char → Bool := isPlainBut "\"#<>?`\x7b\x7d"

def userHolds : Char → Bool := isPlainBut "\"#<>?`\x7b\x7d/;=@[\\]^|"

def hostHolds (c : Char) : Bool :=
  "!$&'()*+,;=\"`\x7b\x7d%|\\".toList.contains c

def byteText (b : Nat) : List Char :=
  '%' :: (Text.hexDigits 2 b).map Char.toUpper

def unwritable (p : Point) : Fault :=
  .raised .unwritable (Text.misfitMessage "utf-8" "surrogates not allowed" 0 [p]) none

def pointText (holds : Char → Bool) : Point → Except Fault (List Char)
  | .char c => .ok (if isUnreserved c || holds c then [c] else (Text.charBytes c).flatMap byteText)
  | .half i => .error (unwritable (.half i))

def written? : List Point → Option (List Char × List Point)
  | .char '%' :: .char a :: .char b :: rest =>
    if isHexDigit a && isHexDigit b then some (['%', a, b], rest) else none
  | _ => none

theorem length_of_written? {ps rest : List Point} {cs : List Char} (h : written? ps = some (cs, rest)) :
    rest.length < ps.length := by
  unfold written? at h
  split at h
  · split at h
    · simp only [Option.some.injEq, Prod.mk.injEq] at h
      rw [← h.2]
      simp only [List.length_cons]
      omega
    · simp at h
  · simp at h

def encodePoints (holds : Char → Bool) (ps : List Point) : Except Fault (List Char) :=
  match h : written? ps with
  | some (cs, rest) =>
    have := length_of_written? h
    (cs ++ ·) <$> encodePoints holds rest
  | none => match ps with
    | [] => .ok []
    | p :: rest => do
      let cs ← pointText holds p
      (cs ++ ·) <$> encodePoints holds rest
termination_by ps.length

def encode (holds : Char → Bool) (cs : List Char) : Except Fault String :=
  String.ofList <$> encodePoints holds (Text.points cs)

end LedgerFlow.Web.Percent
