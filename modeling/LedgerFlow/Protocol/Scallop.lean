import LedgerFlow.Protocol.Setting

namespace LedgerFlow.Protocol.Scallop

def package : String := "0xd384ded6b9e7f4d2c4c9007b0291ef88fbfed8e709bce83d2da69de2d79d013d"

def typePackage : String := "0xefe8b36d5b2e43728cc323298626b83177803521d195cfb11e15b910e892fddf"

def converter : String := "0x80ca577876dec91ae6d22090e56c39bc60dce9086ab0729930c6900bc4162b4c"

def version : Handle := .object "0x07871c4b3c847a0f674510d4978d5cf6f960452795e8ff6f189fd2088a3f6ac7"

def market : Handle := .object "0xa757975255146dc9686aa823b7838b507f315d704f428cbadad2f4ea061939d9"

structure WrappedCoin where
  coinType : String
  treasury : String

def wrappedCoins : List (String × WrappedCoin) := [
  ("SUI", ⟨"0xaafc4f740de0dd0dde642a31148fb94517087052f19afb0f7bed1dc41a50c77b::scallop_sui::SCALLOP_SUI",
    "0x5c1678c8261ac9eec024d4d630006a9f55c80dc0b1aa38a003fcb1d425818c6b"⟩)]

def exchangeRate (symbol : String) : Decimal :=
  match symbol with
  | "SUI" => .finite false 10931 (-4)
  | "USDC" => .finite false 10567 (-4)
  | "USDT" => .finite false 10489 (-4)
  | "WAL" => .finite false 10123 (-4)
  | _ => 1

def marketCoinType (t : Token) : String :=
  typePackage ++ "::reserve::MarketCoin<" ++ t.coinType ++ ">"

def obligationType : String := typePackage ++ "::obligation::Obligation"

def obligationKeyType : String := typePackage ++ "::obligation::ObligationKey"

def deposit (s : Step) (d : LendData) (token : Token) : Assembly Unit := do
  let amount ← Assembly.ofExcept (unitsOf token d.amount)
  let coin ← Assembly.acquire s.index token amount
  let _ ← Assembly.call (package ++ "::mint::mint_entry") [version, market, coin, clock] [token.coinType]

def leading (needed : Int) : List CoinRecord → List CoinRecord
  | [] => []
  | c :: rest => if needed ≤ 0 then [] else c :: leading (needed - c.balance) rest

def gather (coins : List CoinRecord) (needed : Int) : Assembly Handle := do
  match (leading needed coins).map fun c => Handle.object c.objectId with
  | [] => throw Fault.indexOutOfRange
  | primary :: rest =>
    Assembly.merge primary rest
    Assembly.splitOne primary needed

/-- The market coins that stand for an amount of the token, rounded up. -/
def sharesFor (token : Token) (amount : Option Decimal) : Except Fault Int := do
  match amount with
  | none => .error (.badType "unsupported operand type(s) for /: 'NoneType' and 'decimal.Decimal'")
  | some amount =>
    let shares ← Amount.ofResult (amount.div (exchangeRate token.symbol))
    let unit ← Amount.ofResult (Decimal.tenPow token.decimals)
    match ← Amount.ofResult (shares.mul unit) with
    | .finite negative c e => return Decimal.ceiling negative c e
    | other => Amount.toInt other

def noShares (s : Step) (d : LendData) (token : Token) : Fault :=
  .engine (.onStep (.resource ("s" ++ token.symbol) d.amount) s.index (.noShares token.symbol))

def insufficientShares (s : Step) (token : Token) (needed held : Int) : Except Fault Fault := do
  let asked ← token.fromBaseUnits needed
  let lacking ← token.fromBaseUnits (needed - held)
  return .engine (.onStep (.resource ("s" ++ token.symbol) (some lacking)) s.index
    (.insufficientShares token.symbol asked))

def marketCoins (c : Setting) (token : Token) (wrapped : Option WrappedCoin) :
    Assembly (List CoinRecord × List CoinRecord) := do
  let wrappedCoins ← match wrapped with
    | some w => Assembly.ofEngine (Engine.coins c.signer w.coinType)
    | none => pure []
  let plainCoins ← Assembly.ofEngine (Engine.coins c.signer (marketCoinType token))
  return (wrappedCoins, plainCoins)

def unwrap (token : Token) (w : WrappedCoin) (coin : Handle) : Assembly Handle :=
  Assembly.call (converter ++ "::s_coin_converter::burn_s_coin")
    [.object w.treasury, coin] [w.coinType, token.coinType]

def marketCoin (s : Step) (token : Token) (wrapped : Option WrappedCoin)
    (wrappedCoins plainCoins : List CoinRecord) (needed : Int) : Assembly Handle := do
  let wrappedTotal := Holding.total wrappedCoins
  let plainTotal := Holding.total plainCoins
  match wrapped.filter fun _ => needed ≤ wrappedTotal with
  | some w => unwrap token w (← gather wrappedCoins needed)
  | none =>
    if needed ≤ plainTotal then gather plainCoins needed
    else Assembly.fail (insufficientShares s token needed (max wrappedTotal plainTotal))

/-- No more is asked for than there is, so that rounding does not stand against a full withdrawal. -/
def withdraw (c : Setting) (s : Step) (d : LendData) (token : Token) : Assembly Unit := do
  let wrapped := wrappedCoins.lookup token.symbol
  let (wrappedCoins, plainCoins) ← marketCoins c token wrapped
  if wrappedCoins.isEmpty && plainCoins.isEmpty then throw (noShares s d token)
  let shares ← Assembly.ofExcept (sharesFor token d.amount)
  let needed := min shares (Holding.total wrappedCoins + Holding.total plainCoins)
  let coin ← marketCoin s token wrapped wrappedCoins plainCoins needed
  let _ ← Assembly.call (package ++ "::redeem::redeem_entry") [version, market, coin, clock] [token.coinType]

structure Obligation where
  id : String
  key : String

def first (objects : List String) (otherwise : Fault) : Assembly String :=
  match objects with
  | id :: _ => pure id
  | [] => throw otherwise

def obligation (c : Setting) (s : Step) (d : LendData) (action : String) : Assembly Obligation := do
  match d.obligationId.filter fun id => !id.isEmpty, d.obligationKeyId.filter fun id => !id.isEmpty with
  | some id, some key => return ⟨id, key⟩
  | _, _ =>
    let ids ← Assembly.ofEngine (Engine.ownedObjects c.signer obligationType)
    let id ← first ids (s.error .execution (.noObligation action))
    let keys ← Assembly.ofEngine (Engine.ownedObjects c.signer obligationKeyType)
    let key ← first keys (s.error .execution (.noObligationKey action))
    return ⟨id, key⟩

def borrow (c : Setting) (s : Step) (d : LendData) (token : Token) : Assembly Unit := do
  let o ← obligation c s d "borrow"
  let amount ← Assembly.ofExcept (unitsOf token d.amount)
  let _ ← Assembly.call (package ++ "::borrow::borrow_entry")
    [version, .object o.id, .object o.key, market, amountArgument amount, clock] [token.coinType]

def repay (c : Setting) (s : Step) (d : LendData) (token : Token) : Assembly Unit := do
  let o ← obligation c s d "repay"
  let amount ← Assembly.ofExcept (unitsOf token d.amount)
  let coin ← Assembly.acquire s.index token amount
  let _ ← Assembly.call (package ++ "::repay::repay_entry")
    [version, .object o.id, .object o.key, market, coin, clock] [token.coinType]

def lend (c : Setting) (s : Step) (d : LendData) : Assembly Unit := do
  let token ← Assembly.ofExcept (c.token s d.asset)
  match d.action with
  | "deposit" => deposit s d token
  | "withdraw" => withdraw c s d token
  | "borrow" => borrow c s d token
  | "repay" => repay c s d token
  | _ => throw (s.error .execution (.unsupportedLendingAction d.action))

end LedgerFlow.Protocol.Scallop
