import LedgerFlow.Transaction

namespace LedgerFlow

structure PooledCoin where
  coinType : String
  coin : Handle
  amount : Int
deriving BEq, Repr

structure CoinPool where
  coins : List PooledCoin
deriving BEq, Repr

namespace CoinPool

def empty : CoinPool := ⟨[]⟩

def find? (p : CoinPool) (coinType : String) : Option PooledCoin :=
  p.coins.find? (·.coinType == coinType)

def contains (p : CoinPool) (coinType : String) : Bool := (p.find? coinType).isSome

def size (p : CoinPool) : Nat := p.coins.length

def available (p : CoinPool) (coinType : String) : Int :=
  ((p.find? coinType).map (·.amount)).getD 0

def insert (p : CoinPool) (c : PooledCoin) : CoinPool := ⟨p.coins ++ [c]⟩

def erase (p : CoinPool) (coinType : String) : CoinPool :=
  ⟨p.coins.filter (·.coinType != coinType)⟩

def adjust (p : CoinPool) (coinType : String) (change : Int) : CoinPool :=
  ⟨p.coins.map fun c => if c.coinType == coinType then { c with amount := c.amount + change } else c⟩

def holdsTooLittle (p : CoinPool) (coinType : String) (amount : Int) : Fault :=
  .showing [p.available coinType, amount] <|
    .missingKey s!"pool holds {p.available coinType} of {coinType}, {amount} requested"

end CoinPool

end LedgerFlow
