import LedgerFlow.Text.Case

namespace LedgerFlow.Chain

def sourceChainId : Int := 9270000000000000

def destinationIds : List (String × Int) := [
  ("ethereum", 1),
  ("polygon", 137),
  ("arbitrum", 42161),
  ("optimism", 10),
  ("base", 8453),
  ("avalanche", 43114),
  ("bsc", 56)]

def sourceTokens : List (String × String) := [
  ("SUI", "0x2::sui::SUI"),
  ("USDC", "0x5d4b302506645c37ff133b98c4b50a5ae14841659738d6d733d59d0d217a93bf::coin::COIN"),
  ("USDT", "0xc060006111016b8a020ad5b33834984a437aaa7d3c74c18e09a95d48aceab08c::coin::COIN")]

def nativeAddress : String := "0x0000000000000000000000000000000000000000"

def destinationTokens : List (String × List (Int × String)) := [
  ("USDC", [
    (1, "0xA0b86991c6218b36c1d19D4a2e9Eb0cE3606eB48"),
    (137, "0x3c499c542cEF5E3811e1192ce70d8cC03d5c3359"),
    (42161, "0xaf88d065e77c8cC2239327C5EDb3A432268e5831"),
    (10, "0x0b2C639c533813f4Aa9D7837CAf62653d097Ff85"),
    (8453, "0x833589fCD6eDb6E08f4c7C32D4f71b54bdA02913"),
    (43114, "0xB97EF9Ef8734C71904D8002F8b6Bc66Dd9c48a6E"),
    (56, "0x8AC76a51cc950d9822D68b83fE1Ad97B32Cd580d")]),
  ("USDT", [
    (1, "0xdAC17F958D2ee523a2206206994597C13D831ec7"),
    (137, "0xc2132D05D31c914a87C6611C10748AEb04B58e8F"),
    (42161, "0xFd086bC7CD5C481DCC9C85ebE478A1C0b69FCbb9"),
    (10, "0x94b008aA00579c1307B0EF2c499aD98a8ce58e58"),
    (43114, "0x9702230A8Ea53601f5cD2dc00fDBc13d4dF4A8c7"),
    (56, "0x55d398326f99059fF775485246999027B3197955")]),
  ("ETH", [
    (1, nativeAddress),
    (42161, nativeAddress),
    (10, nativeAddress),
    (8453, nativeAddress)]),
  ("WBTC", [
    (1, "0x2260FAC5E5542a773Aa44fBCfeDf7C193bc2C599"),
    (137, "0x1BFD67037B42Cf73acF2047067bd4F2C47D9BfD6"),
    (42161, "0x2f2a2543B76A4166549F7aaB2e75Bef0aefC5B0f")]),
  ("DAI", [
    (1, "0x6B175474E89094C44Da98b954EedeAC495271d0F"),
    (137, "0x8f3Cf7ad23Cd3CaDbD9735AFf958023239c6A063"),
    (42161, "0xDA10009cBd5D07dd0CeCc66161FC93D7c9000da1"),
    (10, "0xDA10009cBd5D07dd0CeCc66161FC93D7c9000da1")])]

/-- Chains are matched in lower case, assets in upper case. -/
def destinationId? (chain : String) : Option Int :=
  destinationIds.lookup (Text.lower chain)

def sourceToken? (asset : String) : Option String :=
  sourceTokens.lookup (Text.upper asset)

def destinationToken? (asset : String) (chainId : Int) : Option String :=
  (destinationTokens.lookup (Text.upper asset)).bind (·.lookup chainId)

def sourceDecimals (asset : String) : Int :=
  match Text.upper asset with
  | "SUI" => 9
  | "WAL" => 9
  | _ => 6

end LedgerFlow.Chain
