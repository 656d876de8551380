namespace LedgerFlow.Text

/-- A character, or half of a surrogate pair that stands alone, counted from the first half U+D800. -/
inductive Point
  | char (c : Char)
  | half (i : Fin 2048)
deriving DecidableEq, Repr

/-- A code point that no text needs for itself. -/
def mark : Char := Char.ofNat 0xFDE7

namespace Point

def code : Point → Nat
  | .char c => c.toNat
  | .half i => 0xD800 + i

def ofCode (n : Nat) : Point :=
  if h : 0xD800 ≤ n ∧ n < 0xE000 then .half ⟨n - 0xD800, by omega⟩ else .char (Char.ofNat n)

def isHalf : Point → Bool
  | .char _ => false
  | .half _ => true

def written : Point → List Char
  | .char c => if c = mark then [mark, mark] else [c]
  | .half i => [mark, Char.ofNat (0xE000 + i)]

end Point

def marked? (c : Char) : Option Point :=
  if c = mark then some (.char mark)
  else if h : 0xE000 ≤ c.toNat ∧ c.toNat < 0xE800 then some (.half ⟨c.toNat - 0xE000, by omega⟩)
  else none

def points : List Char → List Point
  | [] => []
  | [c] => [.char c]
  | c :: d :: rest =>
    match if c = mark then marked? d else none with
    | some p => p :: points rest
    | none => .char c :: points (d :: rest)

theorem points_cons {c : Char} (h : c ≠ mark) (rest : List Char) : points (c :: rest) = .char c :: points rest := by
  cases rest <;> simp [points, h]

def next? : List Char → Option (Point × List Char)
  | [] => none
  | [c] => some (.char c, [])
  | c :: d :: rest =>
    match if c = mark then marked? d else none with
    | some p => some (p, rest)
    | none => some (.char c, d :: rest)

def pointsOf (s : String) : List Point := points s.toList

def ofPoints (ps : List Point) : String := String.ofList (ps.flatMap Point.written)

def ofPlain (s : String) : String := ofPoints (s.toList.map .char)

def size (s : String) : Nat := (pointsOf s).length

def first (n : Nat) (s : String) : String := ofPoints ((pointsOf s).take n)

def hasHalf (s : String) : Bool := (pointsOf s).any Point.isHalf

end LedgerFlow.Text
