import LedgerFlow.Json.Basic
import LedgerFlow.Decimal.Text
import LedgerFlow.Text.Integer

/-!
Reading JSON text. Besides the standard grammar the words `NaN`, `Infinity` and `-Infinity` are numbers, and
half of a surrogate pair may be escaped alone. Every failure names what was expected and the place; the
place is kept as the number of characters that are left, and turned into line and column at the end.
-/

namespace LedgerFlow.Json

inductive Expected
  | value
  | propertyName
  | colon
  | comma
  | closingQuote
  | noControlCharacter
  | knownEscape
  | fourHexDigits
  | endOfText
  | noByteOrderMark
deriving DecidableEq, Repr

def Expected.message : Expected → String
  | .value => "Expecting value"
  | .propertyName => "Expecting property name enclosed in double quotes"
  | .colon => "Expecting ':' delimiter"
  | .comma => "Expecting ',' delimiter"
  | .closingQuote => "Unterminated string starting at"
  | .noControlCharacter => "Invalid control character at"
  | .knownEscape => "Invalid \\escape"
  | .fourHexDigits => "Invalid \\uXXXX escape"
  | .endOfText => "Extra data"
  | .noByteOrderMark => "Unexpected UTF-8 BOM (decode using utf-8-sig)"

inductive Container
  | array
  | object
deriving DecidableEq, Repr

def Container.word : Container → String
  | .array => "array"
  | .object => "object"

/-- How deep arrays and objects may be nested: what the stack has room for. -/
def nestingLimit : Nat := 1000

inductive Stop
  | expected (what : Expected) (left : Nat)
  | tooManyDigits (count : Nat)
  | tooDeep (innermost : Container)
deriving DecidableEq, Repr

structure SyntaxError where
  expected : Expected
  line : Nat
  column : Nat
  offset : Nat
deriving DecidableEq, Repr

def SyntaxError.message (e : SyntaxError) : String :=
  s!"{e.expected.message}: line {e.line} column {e.column} (char {e.offset})"

inductive ReadError
  | malformed (e : SyntaxError)
  | tooManyDigits (count : Nat)
  | tooDeep (innermost : Container)
deriving DecidableEq, Repr

def isWhite (c : Char) : Bool :=
  c = ' ' || c = '\t' || c = '\n' || c = '\r'

def skipWhite (cs : List Char) : List Char :=
  cs.dropWhile isWhite

theorem length_dropWhile_le (p : Char → Bool) (cs : List Char) : (cs.dropWhile p).length ≤ cs.length :=
  (List.dropWhile_suffix p).length_le

theorem length_skipWhite_le (cs : List Char) : (skipWhite cs).length ≤ cs.length :=
  length_dropWhile_le isWhite cs

abbrev Rest (cs : List Char) := { rest : List Char // rest.length < cs.length }

abbrev Read (α : Type) (cs : List Char) := Except Stop (α × Rest cs)

def Rest.weaken {cs ds : List Char} (h : cs.length ≤ ds.length) (r : Rest cs) : Rest ds :=
  ⟨r.val, Nat.lt_of_lt_of_le r.property h⟩

def hexValue? (c : Char) : Option Nat :=
  if c.isDigit then some (c.toNat - 48)
  else if 'a' ≤ c && c ≤ 'f' then some (c.toNat - 87)
  else if 'A' ≤ c && c ≤ 'F' then some (c.toNat - 55)
  else none

def hexQuad? (cs : List Char) : Option Nat :=
  cs.foldl (fun n c => do return 16 * (← n) + (← hexValue? c)) (some 0)

def isHighSurrogate (n : Nat) : Bool := 0xD800 ≤ n && n < 0xDC00

def isLowSurrogate (n : Nat) : Bool := 0xDC00 ≤ n && n < 0xE000

/-- A part of a string: a character as it stands in the text, or a code unit that was given by its digits. -/
inductive Piece
  | plain (c : Char)
  | unit (n : Nat)

def simpleEscape? : Char → Option Char
  | '"' => some '"'
  | '\\' => some '\\'
  | '/' => some '/'
  | 'b' => some '\x08'
  | 'f' => some '\x0c'
  | 'n' => some '\n'
  | 'r' => some '\r'
  | 't' => some '\t'
  | _ => none

def joinPieces (after : List Char) : List Piece → List Char
  | [] => after
  | .plain c :: before => joinPieces (c :: after) before
  | .unit low :: .unit high :: before =>
    if isHighSurrogate high && isLowSurrogate low then
      let code := 0x10000 + (high - 0xD800) * 0x400 + (low - 0xDC00)
      joinPieces ((Text.Point.ofCode code).written ++ after) before
    else joinPieces ((Text.Point.ofCode low).written ++ after) (.unit high :: before)
  | .unit n :: before => joinPieces ((Text.Point.ofCode n).written ++ after) before

def stringPieces {whole : List Char} (start : Nat) (acc : List Piece) (cs : List Char)
    (h : cs.length ≤ whole.length) : Read (List Piece) whole :=
  match cs with
  | [] => .error (.expected .closingQuote start)
  | '"' :: rest => .ok (acc, ⟨rest, by simp at h; omega⟩)
  | '\\' :: [] => .error (.expected .closingQuote start)
  | '\\' :: 'u' :: a :: b :: c :: d :: rest =>
    match if rest.isEmpty then none else hexQuad? [a, b, c, d] with
    | none => .error (.expected .fourHexDigits (rest.length + 5))
    | some n => stringPieces start (.unit n :: acc) rest (by simp at h; omega)
  | '\\' :: 'u' :: rest => .error (.expected .fourHexDigits (rest.length + 1))
  | '\\' :: c :: rest =>
    match simpleEscape? c with
    | none => .error (.expected .knownEscape (rest.length + 2))
    | some e => stringPieces start (.plain e :: acc) rest (by simp at h; omega)
  | c :: rest =>
    if c.toNat < 0x20 then .error (.expected .noControlCharacter (rest.length + 1))
    else stringPieces start (.plain c :: acc) rest (by simp at h; omega)

def fractionOf : List Char → List Char × List Char
  | '.' :: rest =>
    let digits := rest.takeWhile Char.isDigit
    if digits.isEmpty then ([], '.' :: rest) else (digits, rest.dropWhile Char.isDigit)
  | cs => ([], cs)

theorem fractionOf_length (cs : List Char) : (fractionOf cs).2.length ≤ cs.length := by
  unfold fractionOf
  split
  · next rest =>
    have := length_dropWhile_le Char.isDigit rest
    dsimp only
    split
    · simp
    · simp only [List.length_cons]; omega
  · simp

def exponentOf : List Char → Option Int × List Char
  | c :: rest =>
    if c = 'e' || c = 'E' then
      let (s, ds) := Decimal.splitSign rest
      let digits := ds.takeWhile Char.isDigit
      if digits.isEmpty then (none, c :: rest)
      else
        let n : Int := Decimal.natOfDigits digits
        (some (if s then -n else n), ds.dropWhile Char.isDigit)
    else (none, c :: rest)
  | [] => (none, [])

theorem splitSign_length (cs : List Char) : (Decimal.splitSign cs).2.length ≤ cs.length := by
  unfold Decimal.splitSign
  split <;> simp

theorem exponentOf_length (cs : List Char) : (exponentOf cs).2.length ≤ cs.length := by
  unfold exponentOf
  split
  · next c rest =>
    split
    · have h1 := splitSign_length rest
      have h2 := length_dropWhile_le Char.isDigit (Decimal.splitSign rest).2
      dsimp only
      split
      · simp
      · simp only [List.length_cons]; omega
    · simp
  · simp

def wholeOf : List Char → List Char × List Char
  | '0' :: rest => (['0'], rest)
  | cs => (cs.takeWhile Char.isDigit, cs.dropWhile Char.isDigit)

theorem length_dropWhile_lt {p : Char → Bool} {cs : List Char} (h : cs.takeWhile p ≠ []) :
    (cs.dropWhile p).length < cs.length := by
  cases cs with
  | nil => simp at h
  | cons c rest =>
    by_cases hc : p c
    · have := length_dropWhile_le p rest
      simp only [List.dropWhile_cons, hc, if_true, List.length_cons]
      omega
    · simp [hc] at h

theorem wholeOf_length {cs : List Char} (h : (wholeOf cs).1 ≠ []) : (wholeOf cs).2.length < cs.length := by
  unfold wholeOf at h ⊢
  split
  · simp
  · exact length_dropWhile_lt (by simpa using h)

def numberOf (negative : Bool) (whole fraction : List Char) (exponent : Option Int) : Except Stop Json :=
  match fraction, exponent with
  | [], none =>
    if Text.digitLimit < whole.length then .error (.tooManyDigits whole.length)
    else
      let n : Int := Decimal.natOfDigits whole
      .ok (.int (if negative then -n else n))
  | _, _ =>
    let e := exponent.getD 0 - fraction.length
    .ok (.float (Binary64.ofDecimal negative (Decimal.natOfDigits (whole ++ fraction)) e))

def number (negative : Bool) (start : Nat) (cs : List Char) : Read Json cs :=
  if h : (wholeOf cs).1 = [] then .error (.expected .value start)
  else
    have h1 := wholeOf_length h
    have h2 := fractionOf_length (wholeOf cs).2
    have h3 := exponentOf_length (fractionOf (wholeOf cs).2).2
    (numberOf negative (wholeOf cs).1 (fractionOf (wholeOf cs).2).1
      (exponentOf (fractionOf (wholeOf cs).2).2).1).map fun v =>
        (v, ⟨(exponentOf (fractionOf (wholeOf cs).2).2).2, by omega⟩)

def stringBody (cs : List Char) : Read String cs :=
  (stringPieces (cs.length + 1) [] cs (Nat.le_refl _)).map fun (pieces, r) =>
    (String.ofList (joinPieces [] pieces), r)

mutual

/-- A value at the start of the text, which has no white space before it; `room` more levels of nesting may follow. -/
def value (room : Nat) (cs : List Char) : Read Json cs :=
  match cs with
  | '"' :: rest =>
    (stringBody rest).map fun (s, r) =>
      (.string s, r.weaken (by simp))
  | '\x7b' :: rest =>
    match room with
    | 0 => .error (.tooDeep .object)
    | room + 1 =>
      have hw := length_skipWhite_le rest
      match h : skipWhite rest with
      | '\x7d' :: tail => .ok (.object [], ⟨tail, by rw [h] at hw; simp at hw ⊢; omega⟩)
      | inner =>
        have hi : inner.length ≤ rest.length := by rw [← h]; exact hw
        (members room [] inner).map fun (ms, r) => (ofMembers ms, r.weaken (by simp; omega))
  | '[' :: rest =>
    match room with
    | 0 => .error (.tooDeep .array)
    | room + 1 =>
      have hw := length_skipWhite_le rest
      match h : skipWhite rest with
      | ']' :: tail => .ok (.array [], ⟨tail, by rw [h] at hw; simp at hw ⊢; omega⟩)
      | inner =>
        have hi : inner.length ≤ rest.length := by rw [← h]; exact hw
        (elements room [] inner).map fun (vs, r) => (.array vs, r.weaken (by simp; omega))
  | 'n' :: 'u' :: 'l' :: 'l' :: rest => .ok (.null, ⟨rest, by simp +arith⟩)
  | 't' :: 'r' :: 'u' :: 'e' :: rest => .ok (.bool true, ⟨rest, by simp +arith⟩)
  | 'f' :: 'a' :: 'l' :: 's' :: 'e' :: rest => .ok (.bool false, ⟨rest, by simp +arith⟩)
  | 'N' :: 'a' :: 'N' :: rest => .ok (.float .nan, ⟨rest, by simp +arith⟩)
  | 'I' :: 'n' :: 'f' :: 'i' :: 'n' :: 'i' :: 't' :: 'y' :: rest =>
    .ok (.float (.infinity false), ⟨rest, by simp +arith⟩)
  | '-' :: 'I' :: 'n' :: 'f' :: 'i' :: 'n' :: 'i' :: 't' :: 'y' :: rest =>
    .ok (.float (.infinity true), ⟨rest, by simp +arith⟩)
  | '-' :: rest => (number true (rest.length + 1) rest).map fun (v, r) => (v, r.weaken (by simp))
  | cs => number false cs.length cs
termination_by (cs.length, 1)
decreasing_by all_goals (apply Prod.Lex.left; simp only [List.length_cons]; omega)

def elements (room : Nat) (acc : List Json) (cs : List Char) : Read (List Json) cs :=
  match value room cs with
  | .error e => .error e
  | .ok (v, ⟨after, ha⟩) =>
    have hw := length_skipWhite_le after
    match h : skipWhite after with
    | ']' :: tail => .ok ((v :: acc).reverse, ⟨tail, by rw [h] at hw; simp at hw; omega⟩)
    | ',' :: tail =>
      have ht := length_skipWhite_le tail
      (elements room (v :: acc) (skipWhite tail)).map fun (vs, r) =>
        (vs, r.weaken (by rw [h] at hw; simp at hw; omega))
    | other => .error (.expected .comma other.length)
termination_by (cs.length, 2)
decreasing_by
  · apply Prod.Lex.right; omega
  · apply Prod.Lex.left; rw [h] at hw; simp only [List.length_cons] at hw; omega

def members (room : Nat) (acc : List (String × Json)) (cs : List Char) : Read (List (String × Json)) cs :=
  match cs with
  | '"' :: rest =>
    match stringBody rest with
    | .error e => .error e
    | .ok (key, ⟨after, ha⟩) =>
      have hw := length_skipWhite_le after
      match h : skipWhite after with
      | ':' :: tail =>
        have ht := length_skipWhite_le tail
        match value room (skipWhite tail) with
        | .error e => .error e
        | .ok (v, ⟨next, hn⟩) =>
          have hx := length_skipWhite_le next
          match h2 : skipWhite next with
          | '\x7d' :: final =>
            .ok (((key, v) :: acc).reverse,
              ⟨final, by rw [h] at hw; rw [h2] at hx; simp at hw hx ⊢; omega⟩)
          | ',' :: final =>
            have hf := length_skipWhite_le final
            (members room ((key, v) :: acc) (skipWhite final)).map fun (ms, r) =>
              (ms, r.weaken (by rw [h] at hw; rw [h2] at hx; simp at hw hx ⊢; omega))
          | other => .error (.expected .comma other.length)
      | other => .error (.expected .colon other.length)
  | other => .error (.expected .propertyName other.length)
termination_by (cs.length, 0)
decreasing_by
  · apply Prod.Lex.left; rw [h] at hw; simp only [List.length_cons] at hw ⊢; omega
  · apply Prod.Lex.left; rw [h] at hw; rw [h2] at hx; simp only [List.length_cons] at hw hx ⊢; omega

end

def document (cs : List Char) : Except Stop Json :=
  if cs.head? = some (Char.ofNat 0xFEFF) then .error (.expected .noByteOrderMark cs.length)
  else
    match value nestingLimit (skipWhite cs) with
    | .error e => .error e
    | .ok (v, ⟨rest, _⟩) =>
      let tail := skipWhite rest
      if tail.isEmpty then .ok v else .error (.expected .endOfText tail.length)

def lineAndColumn (before : List Text.Point) : Nat × Nat :=
  (before.count (.char '\n') + 1, (before.reverse.takeWhile (· ≠ .char '\n')).length + 1)

def Stop.toReadError (cs : List Char) : Stop → ReadError
  | .expected what left =>
    let before := Text.points (cs.take (cs.length - left))
    let (line, column) := lineAndColumn before
    .malformed { expected := what, line, column, offset := before.length }
  | .tooManyDigits count => .tooManyDigits count
  | .tooDeep innermost => .tooDeep innermost

def parse (s : String) : Except ReadError Json :=
  (document s.toList).mapError (Stop.toReadError s.toList)

end LedgerFlow.Json
