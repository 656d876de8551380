import LedgerFlow.Program
import LedgerFlow.Token

/-!
What the signer has left to spend. Of the native coin only a number of units is known, less a reserve for
gas. Of every other type the coins are listed; the largest are taken first, and all that are in use have
been merged into the first of them.
-/

namespace LedgerFlow

/-- The coins of one type: those in use, in the order in which they were taken, those that are not, from
the largest down, and what the first one in use holds by now. -/
structure Holding where
  used : List CoinRecord
  unused : List CoinRecord
  balance : Int
  spent : Int
deriving DecidableEq, Repr

namespace Holding

def ofCoins (coins : List CoinRecord) : Holding :=
  ⟨[], coins.mergeSort fun a b => b.balance ≤ a.balance, 0, 0⟩

def total : List CoinRecord → Int
  | [] => 0
  | c :: rest => c.balance + total rest

def remaining (h : Holding) : Int := h.balance + total h.unused

def isEmpty (h : Holding) : Bool := h.used.isEmpty && h.unused.isEmpty

def primary (h : Holding) : Handle :=
  match h.used with
  | [] => .missing
  | c :: _ => .object c.objectId

/-- How many of the leading coins it takes to raise `balance` to `amount`. -/
def needed (balance amount : Int) : List CoinRecord → Nat
  | [] => 0
  | c :: rest => if balance < amount then needed (balance + c.balance) amount rest + 1 else 0

/-- Takes coins into use until the primary one, with those merged into it, holds `amount`. -/
def gather (h : Holding) (amount : Int) : Holding :=
  let n := needed h.balance amount h.unused
  { h with
    used := h.used ++ h.unused.take n
    unused := h.unused.drop n
    balance := h.balance + total (h.unused.take n) }

def merged (before after : Holding) : List Handle :=
  (after.used.drop (max 1 before.used.length)).map fun c => .object c.objectId

def spend (h : Holding) (amount : Int) : Holding :=
  { h with balance := h.balance - amount, spent := h.spent + amount }

end Holding

structure Wallet where
  owner : String
  reserve : Int
  native : Option Int
  holdings : List (String × Holding)
deriving DecidableEq, Repr

namespace Wallet

def empty (owner : String) (reserve : Int) : Wallet := ⟨owner, reserve, none, []⟩

def setNative (w : Wallet) (units : Int) : Wallet := { w with native := some units }

def setHolding (w : Wallet) (coinType : String) (h : Holding) : Wallet :=
  { w with holdings := Json.put w.holdings coinType h }

def nativeUnits (w : Wallet) (t : Token) : Engine Int :=
  match w.native with
  | some units => pure units
  | none => do
    let balance ← Engine.balance w.owner t.coinType
    return max (balance - w.reserve) 0

def holding (w : Wallet) (t : Token) : Engine Holding :=
  match w.holdings.lookup t.coinType with
  | some h => pure h
  | none => do return Holding.ofCoins (← Engine.coins w.owner t.coinType)

def shortfall (step : Int) (t : Token) (needed available : Int) : Except Fault Fault := do
  let lacking ← t.fromBaseUnits (needed - available)
  let needed ← t.fromBaseUnits needed
  let available ← t.fromBaseUnits available
  return .engine (.onStep (.resource t.symbol (some lacking)) step
    (.insufficientBalance t.symbol needed available))

def noCoins (step : Int) (t : Token) (needed : Int) : Except Fault Fault := do
  let lacking ← t.fromBaseUnits needed
  return .engine (.onStep (.resource t.symbol (some lacking)) step (.noCoins t.symbol))

end Wallet

end LedgerFlow
