import LedgerFlow.Text.Quoted

namespace LedgerFlow.Text

def charBytes (c : Char) : List Nat :=
  (String.utf8EncodeChar c).map (·.toNat)

def pointBytes : Point → List Nat
  | .char c => charBytes c
  | .half _ => []

def bytes (s : String) : List Nat := (pointsOf s).flatMap pointBytes

def firstMisfit (fits : Point → Bool) (place : Nat) : List Point → Option (Nat × List Point)
  | [] => none
  | p :: rest =>
    if fits p then firstMisfit fits (place + 1) rest
    else some (place, p :: rest.takeWhile (!fits ·))

def hexOf (n : Nat) : String :=
  String.ofList <|
    if n < 0x100 then 'x' :: hexDigits 2 n
    else if n < 0x10000 then 'u' :: hexDigits 4 n
    else 'U' :: hexDigits 8 n

def misfitMessage (encoding why : String) (place : Nat) : List Point → String
  | [p] => s!"'{encoding}' codec can't encode character '\\{hexOf p.code}' in position {place}: {why}"
  | ps => s!"'{encoding}' codec can't encode characters in position {place}-{place + ps.length - 1}: {why}"

def unwritable? (s : String) : Option String :=
  (firstMisfit (!·.isHalf) 0 (pointsOf s)).map fun (place, ps) =>
    misfitMessage "utf-8" "surrogates not allowed" place ps

def unplain? (s : String) : Option String :=
  (firstMisfit (·.code < 128) 0 (pointsOf s)).map fun (place, ps) =>
    misfitMessage "ascii" "ordinal not in range(128)" place ps

theorem firstMisfit_eq_none {fits : Point → Bool} {ps : List Point} {place : Nat} :
    firstMisfit fits place ps = none ↔ ps.all fits = true := by
  induction ps generalizing place with
  | nil => simp [firstMisfit]
  | cons p rest ih =>
    simp only [firstMisfit, List.all_cons, Bool.and_eq_true]
    split
    · next h => simp [h, ih]
    · next h => simp [h]

theorem unwritable?_eq_none (s : String) : unwritable? s = none ↔ hasHalf s = false := by
  simp [unwritable?, hasHalf, firstMisfit_eq_none]

inductive ByteOrder
  | big
  | little
deriving DecidableEq, Repr

def ByteOrder.name : ByteOrder → String
  | .big => "be"
  | .little => "le"

def ByteOrder.join (order : ByteOrder) (bs : List Nat) : Nat :=
  match order with
  | .big => bs.foldl (fun n b => 256 * n + b) 0
  | .little => bs.foldr (fun b n => 256 * n + b) 0

inductive Encoding
  | bytes
  | pairs (order : ByteOrder)
  | quads (order : ByteOrder)
deriving DecidableEq, Repr

/-- How bytes are to be read: text begins with a plain character, and zeros are what fills its unit. -/
def Encoding.ofStart : List Nat → Encoding
  | [a, b] => if a = 0 then .pairs .big else if b = 0 then .pairs .little else .bytes
  | a :: b :: c :: d :: _ =>
    if a = 0 then (if b = 0 then .quads .big else .pairs .big)
    else if b = 0 then (if c = 0 && d = 0 then .quads .little else .pairs .little)
    else .bytes
  | _ => .bytes

def byteMessage (encoding why : String) (place : Nat) : List Nat → String
  | [b] => s!"'{encoding}' codec can't decode byte 0x{String.ofList (hexDigits 2 b)} in position {place}: {why}"
  | bs => s!"'{encoding}' codec can't decode bytes in position {place}-{place + bs.length - 1}: {why}"

def readPairs (order : ByteOrder) (place : Nat) : List Nat → Except String (List Nat)
  | [] => .ok []
  | [b] => .error (byteMessage s!"utf-16-{order.name}" "truncated data" place [b])
  | a :: b :: rest => (order.join [a, b] :: ·) <$> readPairs order (place + 2) rest

def joinHalves : List Nat → List Nat
  | [] => []
  | [n] => [n]
  | n :: m :: rest =>
    if 0xD800 ≤ n && n < 0xDC00 && 0xDC00 ≤ m && m < 0xE000 then
      (0x10000 + (n - 0xD800) * 0x400 + (m - 0xDC00)) :: joinHalves rest
    else n :: joinHalves (m :: rest)

def readQuads (order : ByteOrder) (place : Nat) : List Nat → Except String (List Nat)
  | [] => .ok []
  | a :: b :: c :: d :: rest =>
    let n := order.join [a, b, c, d]
    if n < 0x110000 then (n :: ·) <$> readQuads order (place + 4) rest
    else .error (byteMessage s!"utf-32-{order.name}" "code point not in range(0x110000)" place [a, b, c, d])
  | bs => .error (byteMessage s!"utf-32-{order.name}" "truncated data" place bs)

def ofCodes (ns : List Nat) : String := ofPoints (ns.map Point.ofCode)

def withoutOrderMark (s : String) : String :=
  match s.toList with
  | [] => s
  | c :: rest => if c = Char.ofNat 0xFEFF then String.ofList rest else s

def reread (s : String) : Except String String :=
  let bs := bytes s
  match Encoding.ofStart bs with
  | .bytes => .ok (withoutOrderMark s)
  | .pairs order => (ofCodes ∘ joinHalves) <$> readPairs order 0 bs
  | .quads order => ofCodes <$> readQuads order 0 bs

example : reread "5\x00" = .ok "5" := by rfl
example : (unplain? "clé").isSome = true := by decide +kernel

end LedgerFlow.Text
