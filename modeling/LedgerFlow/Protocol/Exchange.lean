import LedgerFlow.Protocol.Setting

namespace LedgerFlow.Protocol.Exchange

def quote (s : Step) (source target : Token) (amount : Int) : Assembly SwapQuote := do
  let offer ← Assembly.ofEngine (Engine.swapRoute source.coinType target.coinType amount)
  match offer.filter fun q => 0 < q.amountOut with
  | some q => return q
  | none => throw (s.error .execution (.noSwapRoute source.symbol target.symbol))

def exchange (c : Setting) (q : SwapQuote) (input : Handle) : Assembly Handle := do
  let tx := (← Assembly.state).tx
  let output ← Assembly.ofEngine (Engine.swapBuild q input c.slippage tx)
  Assembly.setTx { tx with commands := tx.commands ++ output.commands }
  return output.coin

def swap (c : Setting) (s : Step) (d : SwapData) : Assembly Unit := do
  if !c.hasRouter then throw (s.error .execution .noSwapRouter)
  let source ← Assembly.ofExcept (c.tokenOf s d.fromAsset)
  let target ← Assembly.ofExcept (c.tokenOf s d.toAsset)
  let amount ← Assembly.ofExcept (positiveUnitsOf s "Swap" source d.amount)
  let offer ← quote s source target amount
  let input ← Assembly.acquire s.index source amount
  let output ← exchange c offer input
  Assembly.transfer [output] (some c.signer)

end LedgerFlow.Protocol.Exchange
