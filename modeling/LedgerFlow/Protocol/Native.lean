import LedgerFlow.Protocol.Setting

namespace LedgerFlow.Protocol.Native

/-- A transfer to nobody is recorded before it fails. -/
def transfer (c : Setting) (s : Step) (d : TransferData) : Assembly Unit := do
  let token ← Assembly.ofExcept (c.token s d.asset)
  let amount ← Assembly.ofExcept (positiveUnitsOf s "Transfer" token d.amount)
  let recipient := d.recipientAddress.map c.names.lookup
  let coin ← Assembly.acquire s.index token amount
  Assembly.transfer [coin] recipient
  if recipient.isNone then throw (Fault.notSubscriptable "NoneType")

def stakeInput (c : Setting) (s : Step) (d : StakeData) : Assembly Handle := do
  let token ← Assembly.ofExcept (c.token s nativeSymbol)
  let amount ← Assembly.ofExcept (unitsOf token d.amount)
  Assembly.acquire s.index token amount

def stake (c : Setting) (s : Step) (d : StakeData) : Assembly Unit := do
  match d.validator.filter fun v => !v.isEmpty with
  | none => throw (s.error .execution .validatorRequired)
  | some validator =>
    let coin ← stakeInput c s d
    let _ ← Assembly.call "0x3::sui_system::request_add_stake"
      [systemState, coin, addressArgument validator] []

end LedgerFlow.Protocol.Native
