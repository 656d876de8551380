import LedgerFlow.Protocol.Registry

namespace LedgerFlow

structure AssemblySetting where
  tokens : TokenRegistry
  adapters : AdapterRegistry Builder
  names : NameTable
  signer : String
  hasRouter : Bool
  gasReserve : Number
  slippage : Number

structure AssemblyResult where
  transaction : Option Transaction
  operations : Nat
  bridges : List Step
  returned : List PooledCoin

namespace Assembly

/-- Any failure of a builder that is not the engine's own is reported as one of the step. -/
def buildFailure (s : Step) : Fault → Fault
  | .engine e => .engine e
  | f => s.error .execution (.buildFailed s.node.kindName f.text)

def protocolSetting (c : AssemblySetting) : Protocol.Setting :=
  ⟨c.signer, c.tokens, c.names, c.hasRouter, c.slippage⟩

def buildStep (c : AssemblySetting) (s : Step) (key : AdapterKey) : Assembly Unit :=
  match c.adapters.find? key with
  | none => throw (s.error .execution (AdapterRegistry.unknown key))
  | some b => mapFault (buildFailure s) (b.build (protocolSetting c) s)

def buildSteps (c : AssemblySetting) : List Step → Assembly Nat
  | [] => pure 0
  | s :: rest =>
    match s.node.adapterKey? with
    | some key =>
      if s.skipped || s.isBridge then buildSteps c rest
      else do
        buildStep c s key
        return (← buildSteps c rest) + 1
    | none => buildSteps c rest

def returnCoins (signer : String) : List PooledCoin → Assembly Unit
  | [] => pure ()
  | c :: rest => do
    transfer [c.coin] (some signer)
    returnCoins signer rest

def reserveUnits (c : AssemblySetting) : Except Fault Int := do
  let native ← c.tokens.get nativeSymbol
  let reserve ← Amount.ofResult (Decimal.ofText c.gasReserve.text)
  native.toBaseUnits reserve

def start (c : AssemblySetting) (reserve : Int) : Workspace :=
  ⟨.empty c.signer, .empty, .empty c.signer reserve⟩

def bridgesOf (steps : List Step) : List Step :=
  steps.filter fun s => s.isLive && s.isBridge

def build (c : AssemblySetting) (steps : List Step) : Assembly AssemblyResult := do
  let operations ← buildSteps c steps
  let left ← drain
  returnCoins c.signer left
  if operations = 0 then return ⟨none, 0, bridgesOf steps, []⟩
  return ⟨some (← state).tx, operations, bridgesOf steps, left⟩

end Assembly

def assemble (c : AssemblySetting) (steps : List Step) : Engine AssemblyResult := do
  let reserve ← Engine.ofExcept (Assembly.reserveUnits c)
  ExceptT.mk (((Assembly.build c steps).run (Assembly.start c reserve)).bind fun r => .done r.1)

end LedgerFlow
