import LedgerFlow.Text.Integer
import LedgerFlow.Web.Address
import LedgerFlow.Web.HostName
import LedgerFlow.Web.Percent

namespace LedgerFlow.Web

structure Url where
  scheme : String
  user : String
  host : String
  hostPort : Option Int
  path : String
  query : Option String
  fragment : Option String
deriving DecidableEq, Repr

namespace Url

def invalid (message : String) : Fault := .raised .webAddress message none

def longest : Nat := 65536

def isSchemeChar (c : Char) : Bool :=
  Percent.isLetter c || Percent.isDigit c || c = '+' || c = '.' || c = '-'

def splitScheme (cs : List Char) : List Char × List Char :=
  let name := cs.takeWhile isSchemeChar
  match cs.drop name.length with
  | ':' :: rest => if name.head?.all Percent.isLetter then (name, rest) else ([], cs)
  | _ => ([], cs)

def splitAuthority : List Char → List Char × List Char
  | '/' :: '/' :: rest => rest.span fun c => c != '/' && c != '?' && c != '#'
  | cs => ([], cs)

def after? (sign : Char) : List Char → Option (List Char)
  | [] => none
  | c :: rest => if c = sign then some rest else none

def splitUser (cs : List Char) : List Char × List Char :=
  let rest := (cs.reverse.takeWhile (· != '@')).reverse
  (cs.take (cs.length - rest.length - 1), rest)

def splitHost (cs : List Char) : List Char × List Char :=
  if cs.head? == some '[' && cs.contains ']' then
    let rest := (cs.reverse.takeWhile (· != ']')).reverse
    (cs.take (cs.length - rest.length), rest)
  else cs.span (· != ':')

/-- Of four runs of digits with one code point between two of them: whether the code point leads from one
place to another. Even places are before a run, odd ones in it. -/
def leads (p : Text.Point) (a b : Nat) : Bool :=
  let isDigit := match p with
    | .char c => Percent.isDigit c
    | .half _ => false
  (isDigit && b == (if a % 2 = 0 then a + 1 else a)) || (a % 2 == 1 && b == a + 1)

def looksNumeric (ps : List Text.Point) : Bool :=
  (ps.foldl (fun places p => (List.range 8).filter fun b => places.any (leads p · b)) [0]).contains 7

def inner (cs : List Char) : List Char := (cs.drop 1).dropLast

def isBracketed (cs : List Char) : Bool :=
  1 < cs.length && cs.head? == some '[' && cs.getLast? == some ']'

def isPlain (cs : List Char) : Bool := cs.all (·.toNat < 128)

def readHost (cs : List Char) : Except Fault String :=
  let text := String.ofList cs
  if cs.isEmpty then .ok ""
  else if looksNumeric (Text.points cs) then
    if Address.isOctets cs then .ok text else .error (invalid s!"Invalid IPv4 address: {Text.quoted text}")
  else if isBracketed cs then
    if Address.isGroups (inner cs) then .ok (String.ofList (inner cs))
    else .error (invalid s!"Invalid IPv6 address: {Text.quoted text}")
  else if isPlain cs then Percent.encode Percent.hostHolds (cs.map Char.toLower)
  else
    match HostName.write ((Text.pointsOf (Text.lower text)).map (·.code)) with
    | .ok name => .ok name
    | .error _ => .error (invalid s!"Invalid IDNA hostname: {Text.quoted text}")

def usualPort? : String → Option Int
  | "ftp" => some 21
  | "http" => some 80
  | "https" => some 443
  | "ws" => some 80
  | "wss" => some 443
  | _ => none

def readPort (scheme : String) (cs : List Char) : Except Fault (Option Int) :=
  if cs.isEmpty then .ok none
  else match Text.readInteger cs with
    | .value n => .ok (if usualPort? scheme == some n then none else some n)
    | _ => .error (invalid s!"Invalid port: {Text.quoted (String.ofList cs)}")

def addStep (steps : List (List Char)) (step : List Char) : List (List Char) :=
  if step == ['.'] then steps
  else if step == ['.', '.'] then (if steps == [[]] then steps else steps.drop 1)
  else step :: steps

def withoutDots (cs : List Char) : List Char :=
  (['/']).intercalate ((cs.splitOn '/').foldl addStep []).reverse

def checkPath (hasScheme hasAuthority : Bool) (cs : List Char) : Except Fault Unit := do
  if hasAuthority && !cs.isEmpty && cs.head? != some '/' then
    throw (invalid "For absolute URLs, path must be empty or begin with '/'")
  if !hasScheme && !hasAuthority then
    if cs.take 2 == ['/', '/'] then throw (invalid "Relative URLs cannot have a path starting with '//'")
    if cs.head? == some ':' then throw (invalid "Relative URLs cannot have a path starting with ':'")

def isControl : Text.Point → Bool
  | .char c => c.toNat < 0x20 || c.toNat = 0x7F
  | .half _ => false

def checkPoints (ps : List Text.Point) : Except Fault Unit := do
  if longest < ps.length then throw (invalid "URL too long")
  match ps.findIdx? isControl with
  | none => return
  | some place =>
    let shown := Text.quoted (Text.ofPoints ((ps.drop place).take 1))
    throw (invalid s!"Invalid non-printable ASCII character in URL, {shown} at position {place}.")

def read (s : String) : Except Fault Url := do
  checkPoints (Text.pointsOf s)
  let (scheme, rest) := splitScheme s.toList
  let (authority, rest) := splitAuthority rest
  let (path, rest) := rest.span fun c => c != '?' && c != '#'
  let query := (after? '?' rest).map (·.takeWhile (· != '#'))
  let fragment := after? '#' (rest.dropWhile (· != '#'))
  let (user, rest) := splitUser authority
  let (host, rest) := splitHost rest
  let user ← Percent.encode Percent.userHolds user
  let host ← readHost host
  let hostPort ← readPort (String.ofList scheme) ((after? ':' rest).getD rest)
  let hasAuthority := !user.isEmpty || !host.isEmpty || hostPort.isSome
  checkPath (!scheme.isEmpty) hasAuthority path
  let path := if !scheme.isEmpty || hasAuthority then withoutDots path else path
  return {
    scheme := String.ofList (scheme.map Char.toLower)
    user := user
    host := host
    hostPort := hostPort
    path := ← Percent.encode Percent.pathHolds path
    query := ← query.mapM (Percent.encode Percent.queryHolds)
    fragment := ← fragment.mapM (Percent.encode Percent.fragmentHolds) }

def hostText (u : Url) : String :=
  if u.host.toList.contains ':' then s!"[{u.host}]" else u.host

def location (u : Url) : String :=
  u.hostText ++ (match u.hostPort with
    | some n => s!":{n}"
    | none => "")

def authority (u : Url) : String :=
  (if u.user.isEmpty then "" else u.user ++ "@") ++ u.location

def queryText (u : Url) : String :=
  match u.query with
  | some q => "?" ++ q
  | none => ""

def text (u : Url) : String :=
  (if u.scheme.isEmpty then "" else u.scheme ++ ":") ++
    (if u.authority.isEmpty then "" else "//" ++ u.authority) ++ u.path ++ u.queryText ++
    (match u.fragment with
    | some f => "#" ++ f
    | none => "")

def isAbsolute (u : Url) : Bool := !u.scheme.isEmpty && !u.host.isEmpty

def fromRoot (u : Url) : Except Fault Url := do
  let path := if u.path.isEmpty then "/" else u.path
  let path := String.ofList ('/' :: path.toList.dropWhile (· = '/'))
  if longest < path.length then throw (invalid "URL component 'path' too long")
  if u.query.any fun q => longest < q.length then throw (invalid "URL component 'query' too long")
  return ⟨"", "", "", none, path, u.query, none⟩

def target (s : String) : Except Fault Url := do
  let u ← read s
  if u.isAbsolute then return u else u.fromRoot

end Url

end LedgerFlow.Web
