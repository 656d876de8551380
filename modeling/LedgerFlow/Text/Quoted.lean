import LedgerFlow.Text.UnprintableTable
import LedgerFlow.Text.Case
import LedgerFlow.Text.Point

namespace LedgerFlow.Text

def isPrintable (c : Char) : Bool :=
  !inRanges unprintableRanges c

def hexDigits (width n : Nat) : List Char :=
  let digits := Nat.toDigits 16 n
  List.replicate (width - digits.length) '0' ++ digits

def escapeChar (quote c : Char) : List Char :=
  if c = quote || c = '\\' then ['\\', c]
  else if c = '\t' then ['\\', 't']
  else if c = '\n' then ['\\', 'n']
  else if c = '\r' then ['\\', 'r']
  else if isPrintable c then [c]
  else if c.toNat < 0x100 then '\\' :: 'x' :: hexDigits 2 c.toNat
  else if c.toNat < 0x10000 then '\\' :: 'u' :: hexDigits 4 c.toNat
  else '\\' :: 'U' :: hexDigits 8 c.toNat

def escapePoint (quote : Char) : Point → List Char
  | .char c => escapeChar quote c
  | .half i => '\\' :: 'u' :: hexDigits 4 (Point.half i).code

def quoteFor (cs : List Char) : Char :=
  if cs.contains '\'' && !cs.contains '"' then '"' else '\''

def quoted (s : String) : String :=
  let q := quoteFor s.toList
  String.ofList (q :: (pointsOf s).flatMap (escapePoint q) ++ [q])

example : quoted "it's" = "\"it's\"" := by decide +kernel
example : quoted "a\u200bb" = "'a\\u200bb'" := by decide +kernel

end LedgerFlow.Text
