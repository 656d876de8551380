import LedgerFlow.Plan
import LedgerFlow.Text.Blank

namespace LedgerFlow

namespace NameForm

def isLabel (cs : List Char) : Bool :=
  !cs.isEmpty && cs.all Text.isLabelChar

def labels (cs : List Char) : List (List Char) :=
  cs.splitOn '.'

def hasWord (word : String) (cs : List Char) : Bool :=
  cs.map Text.fold == word.toList

def isDotted (atLeast : Nat) (last : List Char → Bool) (cs : List Char) : Bool :=
  let parts := labels cs
  let before := parts.dropLast
  atLeast ≤ before.length && before.all isLabel && (parts.getLast?.map last).getD false

def isHandle : List Char → Bool
  | '@' :: rest => isLabel rest
  | _ => false

/-- A name of the ledger: `alice.sui`, or `@alice` with labels before it. -/
def isLedgerName (s : String) : Bool :=
  let cs := Text.trimBy Text.isBlank s.toList
  isDotted 1 (hasWord "sui") cs || isDotted 0 isHandle cs

def isForeignName (s : String) : Bool :=
  isDotted 1 (hasWord "eth") (Text.trimBy Text.isBlank s.toList)

end NameForm

structure NameTable where
  addresses : List (String × String)
deriving DecidableEq, Repr

namespace NameTable

def empty : NameTable := ⟨[]⟩

def key (name : String) : String := Text.lower (Text.trim name)

def contains (t : NameTable) (name : String) : Bool :=
  (t.addresses.lookup (key name)).isSome

def size (t : NameTable) : Nat := t.addresses.length

def insert (t : NameTable) (name address : String) : NameTable :=
  ⟨Json.put t.addresses (Text.lower name) address⟩

/-- The address of a name; what is no known name is its own address, trimmed. -/
def lookup (t : NameTable) (value : String) : String :=
  (t.addresses.lookup (key value)).getD (Text.trim value)

end NameTable

def Node.nameToResolve? (n : Node) : Option String :=
  match n.data with
  | .transfer d => d.recipientAddress.filter NameForm.isLedgerName
  | .logic d => d.balanceAddress.filter NameForm.isLedgerName
  | .bridge d => d.ethereumAddress.filter NameForm.isForeignName
  | _ => none

/-- The names of a plan with the steps that need them, first use first. -/
def collectNames (steps : List Step) : List (Nat × String) :=
  steps.filterMap fun s => s.node.nameToResolve?.map fun name => (s.index, Text.trim name)

end LedgerFlow
