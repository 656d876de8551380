import LedgerFlow.Amount

namespace LedgerFlow

def nativeSymbol : String := "SUI"

structure Token where
  symbol : String
  decimals : Int
  coinType : String
deriving DecidableEq, Repr

namespace Token

def isNative (t : Token) : Bool := t.symbol == nativeSymbol

def toBaseUnits (t : Token) (amount : Decimal) : Except Fault Int :=
  Amount.toUnits t.decimals amount

def fromBaseUnits (t : Token) (n : Int) : Except Fault Decimal :=
  Amount.ofUnits t.decimals n

end Token

structure TokenRegistry where
  entries : List (String × Token)
deriving DecidableEq, Repr

namespace TokenRegistry

def empty : TokenRegistry := ⟨[]⟩

def register (r : TokenRegistry) (t : Token) : TokenRegistry :=
  ⟨Json.put r.entries (Text.upper t.symbol) t⟩

def ofList (ts : List Token) : TokenRegistry :=
  ts.foldl register empty

def find? (r : TokenRegistry) (symbol : String) : Option Token :=
  if symbol.isEmpty then none else r.entries.lookup (Text.upper symbol)

def unknown (shown : String) : Fault :=
  .raised .unknownToken s!"Asset '{shown}' is not supported" none

def get (r : TokenRegistry) (symbol : String) : Except Fault Token :=
  match r.entries.lookup (Text.upper symbol) with
  | some t => .ok t
  | none => .error (unknown symbol)

def getValue (r : TokenRegistry) : Json → Except Fault Token
  | .string symbol => r.get symbol
  | v => .error (unknown v.display)

def findValue? (r : TokenRegistry) : Json → Except Fault (Option Token)
  | .string symbol => .ok (r.find? symbol)
  | v => if v.isTruthy then .error (.noAttribute v.kindName "upper") else .ok none

def byCoinType? (r : TokenRegistry) (coinType : String) : Option Token :=
  (r.entries.find? fun e => e.2.coinType == coinType).map (·.2)

def symbols (r : TokenRegistry) : List String :=
  r.entries.map fun e => e.2.symbol

def mainnetTokens : List Token := [
  ⟨"SUI", 9, "0x2::sui::SUI"⟩,
  ⟨"USDC", 6, "0xdba34672e30cb065b1f93e3ab55318768fd6fef66c15942c9f7cb846e2f900e7::usdc::USDC"⟩,
  ⟨"USDT", 6, "0x375f70cf2ae4c00bf37117d0c85a2c71545e6ee05c4a5c7d282cd66a4504b068::usdt::USDT"⟩,
  ⟨"WAL", 9, "0x356a26eb9e012a68958082340d4c4116e7f55615cf27affcff209cf0ae544f59::wal::WAL"⟩,
  ⟨"CETUS", 9, "0x06864a6f921804860930db6ddbe2e16acdf8504495ea7481637a1c8b9a8fe54b::cetus::CETUS"⟩,
  ⟨"DEEP", 6, "0xdeeb7a4662eec9f2f3def03fb937a663dddaa2e215b8078a284d026b7946c270::deep::DEEP"⟩,
  ⟨"BLUE", 9, "0xe1b45a0e641b9955a20aa0ad1c1f4ad86aad8afb07296d4085e349a50e90bdca::blue::BLUE"⟩,
  ⟨"BUCK", 9, "0xce7ff77a83ea0cb6fd39bd8748e2ec89a3f41e8efdc3f4eb123e0ca37b184db2::buck::BUCK"⟩,
  ⟨"AUSD", 6, "0x2053d08c1e2bd02791056171aab0fd12bd7cd7efad2ab8f6b9c8902f14df2ff2::ausd::AUSD"⟩]

def standard : TokenRegistry := ofList mainnetTokens

end TokenRegistry

end LedgerFlow
