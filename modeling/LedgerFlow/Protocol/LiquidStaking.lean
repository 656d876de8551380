import LedgerFlow.Protocol.Native

namespace LedgerFlow.Protocol

namespace Aftermath

def package : String := "0x1575034d2729907aefca1ac757d6ccfcd3fc7e9e77927523c06007d8353ad836"

def vault : Handle := .object "0x2f8f6d5da7f13ea37daa397724280483ed062769813b6f31e9788e59cc88994d"

def safe : Handle := .object "0xeb685899830dd5837b47007809c76d91a098d52aabbf61e8ac467c59e5cc4610"

def referralVault : Handle :=
  .object "0x4ce9a19b594599536c53edb25d22532f82f18038dc8ef618afd00fbbfb9845ef"

def validator (s : Step) (d : StakeData) : Assembly String := do
  match d.validator.filter fun v => !v.isEmpty with
  | some validator => return validator
  | none => match ← Assembly.ofEngine Engine.activeValidators with
    | [] => throw (s.error .execution .noValidators)
    | validator :: _ => return validator

def stake (c : Setting) (s : Step) (d : StakeData) : Assembly Unit := do
  let validator ← validator s d
  let coin ← Native.stakeInput c s d
  let receipt ← Assembly.call (package ++ "::staked_sui_vault::request_stake")
    [vault, safe, systemState, referralVault, coin, addressArgument validator] []
  Assembly.transfer [receipt] (some c.signer)

end Aftermath

namespace Volo

def package : String := "0x68d22cf8bdbcd11ecba1e094922873e4080d4d11133e2443fddda0bfd11dae20"

def stakePool : Handle := .object "0x2d914e23d82fedef1b5f56a32d5c64bdcc3087ccfea2b4d6ea51a71f587840e5"

def metadata : Handle := .object "0x680cd26af32b2bde8d3361e804c53ec1d1cfe24c7f039eb7f549e8dfde389a60"

def stake (c : Setting) (s : Step) (d : StakeData) : Assembly Unit := do
  let coin ← Native.stakeInput c s d
  let receipt ← Assembly.call (package ++ "::stake_pool::stake")
    [stakePool, metadata, systemState, coin] []
  Assembly.transfer [receipt] (some c.signer)

end Volo

end LedgerFlow.Protocol
