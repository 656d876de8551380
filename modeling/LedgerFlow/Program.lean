import LedgerFlow.Bridge.Route
import LedgerFlow.Bridge.Status
import LedgerFlow.Number
import LedgerFlow.Transaction

/-!
Computations that ask collaborators. A program either ends or makes a request and goes on from the answer;
what the collaborators do is no part of it, so a statement about a program holds for all of them.
-/

namespace LedgerFlow

structure CoinRecord where
  objectId : String
  balance : Int
deriving DecidableEq, Repr

structure SwapQuote where
  amountIn : Int
  amountOut : Int
  hops : Int
deriving DecidableEq, Repr

structure SwapOutput where
  commands : List Command
  coin : Handle

structure RouteUpdate where
  processes : List Json
  tool : Option String

structure RouteExecution where
  updates : List RouteUpdate
  failure : Option Fault

inductive Request
  | resolveName (name : String)
  | predicateBalance (owner coinType : String)
  | contractQuery (target : String) (arguments : List Json)
  | balance (owner coinType : String)
  | coins (owner coinType : String)
  | ownedObjects (owner structType : String)
  | activeValidators
  | swapRoute (source target : String) (amount : Int)
  | swapBuild (quote : SwapQuote) (input : Handle) (slippage : Number) (tx : Transaction)
  | submit (tx : Transaction)
  | routes (request : RouteRequest)
  | executeRoute (route : Route)
  | publish (status : BridgeStatus)

/-- What the collaborators may answer; all but a publication may fail. -/
abbrev Request.Answer : Request → Type
  | .resolveName _ => Except Fault (Option String)
  | .predicateBalance .. => Except Fault Json
  | .contractQuery .. => Except Fault Json
  | .balance .. => Except Fault Int
  | .coins .. => Except Fault (List CoinRecord)
  | .ownedObjects .. => Except Fault (List String)
  | .activeValidators => Except Fault (List String)
  | .swapRoute .. => Except Fault (Option SwapQuote)
  | .swapBuild .. => Except Fault SwapOutput
  | .submit _ => Except Fault String
  | .routes _ => Except Fault (List Route)
  | .executeRoute _ => RouteExecution
  | .publish _ => Unit

inductive Program (α : Type) : Type
  | done (a : α)
  | request (r : Request) (k : r.Answer → Program α)

namespace Program

def bind {α β : Type} : Program α → (α → Program β) → Program β
  | .done a, f => f a
  | .request r k, f => .request r fun answer => (k answer).bind f

instance : Monad Program where
  pure := .done
  bind := bind

def ask (r : Request) : Program r.Answer := .request r .done

theorem bind_done {α : Type} (p : Program α) : p.bind .done = p := by
  induction p with
  | done a => rfl
  | request r k ih => simp only [bind]; congr 1; funext answer; exact ih answer

theorem bind_assoc {α β γ : Type} (p : Program α) (f : α → Program β) (g : β → Program γ) :
    (p.bind f).bind g = p.bind fun a => (f a).bind g := by
  induction p with
  | done a => rfl
  | request r k ih => simp only [bind]; congr 1; funext answer; exact ih answer

def run {α σ : Type} (answer : (r : Request) → σ → r.Answer × σ) : Program α → σ → α × σ
  | .done a, s => (a, s)
  | .request r k, s => run answer (k (answer r s).1) (answer r s).2

theorem run_bind {α β σ : Type} (answer : (r : Request) → σ → r.Answer × σ) (p : Program α)
    (f : α → Program β) (s : σ) :
    (p.bind f).run answer s = (f (p.run answer s).1).run answer (p.run answer s).2 := by
  induction p generalizing s with
  | done a => rfl
  | request r k ih => exact ih _ _

end Program

abbrev Engine := ExceptT Fault Program

namespace Engine

def ofExcept {α : Type} (r : Except Fault α) : Engine α :=
  ExceptT.mk (.done r)

def ask {α : Type} (r : Request) (h : r.Answer = Except Fault α) : Engine α :=
  ExceptT.mk (.request r fun answer => .done (h ▸ answer))

def resolveName (name : String) : Engine (Option String) := ask (.resolveName name) rfl

def predicateBalance (owner coinType : String) : Engine Json := ask (.predicateBalance owner coinType) rfl

def contractQuery (target : String) (arguments : List Json) : Engine Json :=
  ask (.contractQuery target arguments) rfl

def balance (owner coinType : String) : Engine Int := ask (.balance owner coinType) rfl

def coins (owner coinType : String) : Engine (List CoinRecord) := ask (.coins owner coinType) rfl

def ownedObjects (owner structType : String) : Engine (List String) :=
  ask (.ownedObjects owner structType) rfl

def activeValidators : Engine (List String) := ask .activeValidators rfl

def swapRoute (source target : String) (amount : Int) : Engine (Option SwapQuote) :=
  ask (.swapRoute source target amount) rfl

def swapBuild (quote : SwapQuote) (input : Handle) (slippage : Number) (tx : Transaction) :
    Engine SwapOutput :=
  ask (.swapBuild quote input slippage tx) rfl

def submit (tx : Transaction) : Engine String := ask (.submit tx) rfl

def routes (request : RouteRequest) : Engine (List Route) := ask (.routes request) rfl

def executeRoute (route : Route) : Engine RouteExecution :=
  ExceptT.mk (.request (.executeRoute route) fun answer => .done (.ok answer))

def publish (status : BridgeStatus) : Engine Unit :=
  ExceptT.mk (.request (.publish status) fun answer => .done (.ok answer))

def attempt {α : Type} (p : Engine α) : Engine (Except Fault α) :=
  ExceptT.mk (p.run.bind fun r => .done (.ok r))

def mapFault {α : Type} (f : Fault → Fault) (p : Engine α) : Engine α :=
  ExceptT.mk (p.run.bind fun r => .done (r.mapError f))

end Engine

end LedgerFlow
