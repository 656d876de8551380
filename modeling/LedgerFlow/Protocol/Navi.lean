import LedgerFlow.Protocol.Setting

namespace LedgerFlow.Protocol.Navi

def package : String := "0xee0041239b89564ce870a7dec5ddc5d114367ab94a1137e90aa0633cb76518e0"

def storage : Handle := .object "0xbb4e2f4b6205c2e2a2db47aeb4f830796ec7c005f88537ee775986639bc442fe"

def priceOracle : Handle := .object "0x1568865ed9a0b5ec414220e8f79b3d04c77acc82358f6e5ae4635687392ffbef"

def incentiveV2 : Handle := .object "0xf87a8acb8b81d14307894d12595541a73f19933f88e1326d5be349c7a6f7559c"

def incentiveV3 : Handle := .object "0x62982dad27fb10bb314b3384d5de8d2ac2d72ab2dbeae5d801dbdb9efa816c80"

structure LendingPool where
  asset : Int
  object : String

def pools : List (String × LendingPool) := [
  ("SUI", ⟨0, "0x96df0fce3c471489f4debaaa762cf960b3d97820bd1f3f025ff8190730e958c5"⟩),
  ("USDC", ⟨10, "0xa3582097b4c57630046c0c49a88bfc6b202a3ec0a9db5597c31765f7563755a8"⟩),
  ("USDT", ⟨19, "0xa3e0471746e5d35043801bce247d3b3784cc74329d39f7ed665446ddcf22a9e2"⟩),
  ("WAL", ⟨24, "0xef76883525f5c2ff90cd97732940dbbdba0b391e29de839b10588cee8e4fe167"⟩),
  ("CETUS", ⟨4, "0x3c376f857ec4247b8ee456c1db19e9c74e0154d4876915e54221b5052d5b1e2e"⟩),
  ("AUSD", ⟨9, "0xc9208c1e75f990b2c814fa3a45f1bf0e85bb78404cfdb2ae6bb97de58bb30932"⟩),
  ("DEEP", ⟨15, "0x08373c5efffd07f88eace1c76abe4777489d9ec044fd4cd567f982d9c169e946"⟩),
  ("BLUE", ⟨17, "0xe2cfd1807f5b44b44d7cabff5376099e76c5f0e4b35a01bdc4b0ef465a23e32c"⟩),
  ("BUCK", ⟨18, "0x98953e1c8af4af0cd8f59a52f9df6e60c9790b8143f556751f10949b40c76c50"⟩)]

def function (name : String) : String := package ++ "::incentive_v3::" ++ name

def LendingPool.assetArgument (p : LendingPool) : Handle := .pure (.int p.asset) (some "u8")

def deposit (s : Step) (token : Token) (pool : LendingPool) (amount : Int) : Assembly Unit := do
  let coin ← Assembly.acquire s.index token amount
  let _ ← Assembly.call (function "entry_deposit")
    [clock, storage, .object pool.object, pool.assetArgument, coin, amountArgument amount,
      incentiveV2, incentiveV3]
    [token.coinType]

def obtain (token : Token) (pool : LendingPool) (amount : Int) (action : String) : Assembly Unit := do
  let balance ← Assembly.call (function (action ++ "_v2"))
    [clock, priceOracle, storage, .object pool.object, pool.assetArgument, amountArgument amount,
      incentiveV2, incentiveV3, systemState]
    [token.coinType]
  let coin ← Assembly.call "0x2::coin::from_balance" [balance] [token.coinType]
  Assembly.produce token coin amount

def lend (c : Setting) (s : Step) (d : LendData) : Assembly Unit := do
  let token ← Assembly.ofExcept (c.token s d.asset)
  match pools.lookup token.symbol with
  | none => throw (s.error .execution (.poolUnavailable token.symbol))
  | some pool =>
    let amount ← Assembly.ofExcept (unitsOf token d.amount)
    match d.action with
    | "deposit" => deposit s token pool amount
    | "withdraw" => obtain token pool amount d.action
    | "borrow" => obtain token pool amount d.action
    | "repay" => throw (s.error .execution .repayUnsupported)
    | _ => throw (s.error .execution (.unsupportedLendingAction d.action))

end LedgerFlow.Protocol.Navi
