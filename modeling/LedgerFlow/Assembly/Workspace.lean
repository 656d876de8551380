import LedgerFlow.Coin.Pool
import LedgerFlow.Coin.Wallet

/-!
A transaction under assembly together with the coins that its steps can use. Steps fail, and what they had
recorded by then stays recorded.
-/

namespace LedgerFlow

structure Workspace where
  tx : Transaction
  pool : CoinPool
  wallet : Wallet

abbrev Assembly := ExceptT Fault (StateT Workspace Program)

namespace Assembly

def ofEngine {α : Type} (p : Engine α) : Assembly α :=
  ExceptT.mk fun w => p.run.bind fun r => .done (r, w)

def ofExcept {α : Type} (r : Except Fault α) : Assembly α :=
  ExceptT.mk fun w => .done (r, w)

def state : Assembly Workspace :=
  ExceptT.mk fun w => .done (.ok w, w)

def update (f : Workspace → Workspace) : Assembly Unit :=
  ExceptT.mk fun w => .done (.ok (), f w)

def mapFault {α : Type} (f : Fault → Fault) (p : Assembly α) : Assembly α :=
  ExceptT.mk fun w => (p.run w).bind fun r => .done (r.1.mapError f, r.2)

/-- Fails with what was to be said, or with the failure to say it. -/
def fail {α : Type} (r : Except Fault Fault) : Assembly α :=
  match r with
  | .ok f => throw f
  | .error f => throw f

def setTx (tx : Transaction) : Assembly Unit := update ({ · with tx := tx })

def setPool (p : CoinPool) : Assembly Unit := update ({ · with pool := p })

def setWallet (w : Wallet) : Assembly Unit := update ({ · with wallet := w })

def split (coin : Handle) (amounts : List Int) : Assembly (List Handle) := do
  let (pieces, tx) ← ofExcept ((← state).tx.split coin amounts)
  setTx tx
  return pieces

def splitOne (coin : Handle) (amount : Int) : Assembly Handle := do
  let (piece, tx) ← ofExcept ((← state).tx.splitOne coin amount)
  setTx tx
  return piece

def merge (destination : Handle) (sources : List Handle) : Assembly Unit := do
  setTx ((← state).tx.merge destination sources)

def transfer (objects : List Handle) (recipient : Option String) : Assembly Unit := do
  setTx ((← state).tx.transfer objects recipient)

def call (target : String) (arguments : List Handle) (typeArguments : List String) : Assembly Handle := do
  let (result, tx) := (← state).tx.call target arguments typeArguments
  setTx tx
  return result

/-- Leaves a coin for later steps; what is there already of its type absorbs it. -/
def deposit (coinType : String) (coin : Handle) (amount : Int) : Assembly Unit := do
  let pool := (← state).pool
  match pool.find? coinType with
  | none => setPool (pool.insert ⟨coinType, coin, amount⟩)
  | some held =>
    merge held.coin [coin]
    setPool (pool.adjust coinType amount)

/-- A pooled coin of exactly this amount. One that is used up is handed over whole; otherwise the part is
taken off the books before it is split off. -/
def withdraw (coinType : String) (amount : Int) : Assembly Handle := do
  let pool := (← state).pool
  match pool.find? coinType with
  | none => throw (pool.holdsTooLittle coinType amount)
  | some held =>
    if held.amount < amount then throw (pool.holdsTooLittle coinType amount)
    if held.amount = amount then
      setPool (pool.erase coinType)
      return held.coin
    setPool (pool.adjust coinType (-amount))
    splitOne held.coin amount

def take (coinType : String) : Assembly (Option PooledCoin) := do
  let pool := (← state).pool
  setPool (pool.erase coinType)
  return pool.find? coinType

def drain : Assembly (List PooledCoin) := do
  let pool := (← state).pool
  setPool .empty
  return pool.coins

def drawNative (step : Int) (t : Token) (amount : Int) : Assembly Handle := do
  let wallet := (← state).wallet
  let units ← ofEngine (wallet.nativeUnits t)
  setWallet (wallet.setNative units)
  if units < amount then fail (Wallet.shortfall step t amount units)
  setWallet (wallet.setNative (units - amount))
  splitOne .gas amount

def drawCoins (step : Int) (t : Token) (amount : Int) : Assembly Handle := do
  let wallet := (← state).wallet
  let held ← ofEngine (wallet.holding t)
  setWallet (wallet.setHolding t.coinType held)
  if held.isEmpty then fail (Wallet.noCoins step t amount)
  if held.remaining < amount then fail (Wallet.shortfall step t amount held.remaining)
  let gathered := held.gather amount
  merge gathered.primary (held.merged gathered)
  setWallet (wallet.setHolding t.coinType (gathered.spend amount))
  splitOne gathered.primary amount

def draw (step : Int) (t : Token) (amount : Int) : Assembly Handle :=
  if t.isNative then drawNative step t amount else drawCoins step t amount

/-- A coin of exactly this amount. What earlier steps left is used first, and topped up from the wallet if
it does not suffice. -/
def acquire (step : Int) (t : Token) (amount : Int) : Assembly Handle := do
  let pooled := (← state).pool.available t.coinType
  if amount ≤ pooled then withdraw t.coinType amount
  else if pooled = 0 then draw step t amount
  else match ← take t.coinType with
    | none => draw step t amount
    | some held =>
      let topUp ← draw step t (amount - pooled)
      merge held.coin [topUp]
      return held.coin

end Assembly

end LedgerFlow
