import LedgerFlow.Protocol.Registry

/-!
A store of coins on which a transaction is replayed. A coin is known by its place: the gas coin, an object of
the ledger, or what a command made. Replaying fails where the ledger would refuse a command: a handle that names
no earlier command of the right kind, a coin that is not there any more, a split of more than there is.
-/

namespace LedgerFlow

inductive Place
  | gas
  | object (id : String)
  | made (command position : Nat)
deriving DecidableEq, Repr

/-- What is at a place: a coin, a drawn balance that is no coin yet, something else that a call gave, or nothing
any more. -/
inductive Worth
  | coin (coinType : String) (units : Int)
  | balance (coinType : String) (units : Int)
  | output
  | spent
deriving DecidableEq, Repr

namespace Worth

/-- Units that somebody has to account for. -/
def isLive : Worth → Bool
  | .coin .. => true
  | .balance .. => true
  | _ => false

end Worth

structure Payment where
  coinType : String
  units : Int
deriving DecidableEq, Repr

def totalUnits : List Int → Int
  | [] => 0
  | n :: rest => n + totalUnits rest

@[simp] theorem totalUnits_singleton (n : Int) : totalUnits [n] = n := by
  simp [totalUnits]

theorem totalUnits_append (ns ms : List Int) : totalUnits (ns ++ ms) = totalUnits ns + totalUnits ms := by
  induction ns with
  | nil => simp [totalUnits]
  | cons n rest ih => simp [totalUnits, ih, Int.add_assoc]

structure CoinStore where
  kinds : List CommandKind
  worth : Place → Option Worth
  paid : List Payment

namespace CoinStore

section Machine

variable (st : CoinStore)

def size : Nat := st.kinds.length

/-- The place that a handle refers to. A result has to be one of a call, and a part of a result one of a split or
of a call; the first part of a call's result is the result itself. -/
def find : Handle → Option Place
  | .gas => some .gas
  | .object id => some (.object id)
  | .result n => if st.kinds[n]? = some .moveCall then some (.made n 0) else none
  | .nestedResult n k =>
    if st.kinds[n]? = some .splitCoins ∨ st.kinds[n]? = some .moveCall then some (.made n k) else none
  | .pure .. => none
  | .missing => none

def coinAt? (p : Place) : Option (String × Int) :=
  match st.worth p with
  | some (.coin t n) => some (t, n)
  | _ => none

def set (p : Place) (x : Worth) : CoinStore :=
  { st with worth := fun q => if q = p then some x else st.worth q }

def pay (x : Payment) : CoinStore := { st with paid := st.paid ++ [x] }

def push (kind : CommandKind) (made : Nat → Option Worth) : CoinStore where
  kinds := st.kinds ++ [kind]
  worth
    | .made n k => if n = st.size then made k else st.worth (.made n k)
    | p => st.worth p
  paid := st.paid

def consume (p : Place) : Option CoinStore :=
  match st.worth p with
  | some (.coin t n) => some ((st.set p .spent).pay ⟨t, n⟩)
  | some .output => some (st.set p .spent)
  | _ => none

def split (coin : Handle) (amounts : List Int) : Option CoinStore := do
  let p ← st.find coin
  let (t, n) ← st.coinAt? p
  if amounts.all (0 < ·) && totalUnits amounts ≤ n then
    some ((st.set p (.coin t (n - totalUnits amounts))).push .splitCoins fun k => amounts[k]?.map (.coin t))
  else none

def absorb (p : Place) : List Handle → CoinStore → Option CoinStore
  | [], st => some st
  | h :: rest, st => do
    let q ← st.find h
    let (t, n) ← st.coinAt? p
    let (u, m) ← st.coinAt? q
    if q = .gas ∨ q = p ∨ u ≠ t then none
    else absorb p rest ((st.set q .spent).set p (.coin t (n + m)))

def merge (destination : Handle) (sources : List Handle) : Option CoinStore := do
  let p ← st.find destination
  let _ ← st.coinAt? p
  return (← absorb p sources st).push .mergeCoins fun _ => none

def give : List Handle → CoinStore → Option CoinStore
  | [], st => some st
  | h :: rest, st => do
    let p ← st.find h
    if p = .gas then none else give rest (← st.consume p)

def pass : List Handle → CoinStore → Option CoinStore
  | [], st => some st
  | .pure .. :: rest, st => pass rest st
  | h :: rest, st => do
    let p ← st.find h
    match p, st.worth p with
    | .gas, _ => none
    | .object _, none => pass rest st
    | p, some (.balance ..) => pass rest (st.set p .spent)
    | p, _ => pass rest (← st.consume p)

def drawing : List String := [Protocol.Navi.function "withdraw_v2", Protocol.Navi.function "borrow_v2"]

def fromBalance : String := "0x2::coin::from_balance"

def statedUnits? (arguments : List Handle) : Option Int :=
  arguments.findSome? fun
    | .pure (.int n) (some "u64") => some n
    | _ => none

/-- The first result of a call: what is drawn is a balance, and what is made of a balance is a coin. -/
def minted (target : String) (arguments : List Handle) (types : List String) : Worth :=
  if target ∈ drawing then
    match types, statedUnits? arguments with
    | [t], some n => .balance t n
    | _, _ => .output
  else if target = fromBalance then
    match arguments with
    | [h] => match (st.find h).bind st.worth with
      | some (.balance t n) => .coin t n
      | _ => .output
    | _ => .output
  else .output

def call (target : String) (arguments : List Handle) (types : List String) : Option CoinStore := do
  let after ← pass arguments st
  return after.push .moveCall fun k => if k = 0 then some (st.minted target arguments types) else some .output

def apply : Command → Option CoinStore
  | .splitCoins coin amounts => st.split coin amounts
  | .mergeCoins destination sources => st.merge destination sources
  | .transferObjects objects _ => do return (← give objects st).push .transferObjects fun _ => none
  | .moveCall target arguments types => st.call target arguments types

def replay : List Command → CoinStore → Option CoinStore
  | [], st => some st
  | c :: rest, st => do replay rest (← st.apply c)

theorem replay_append (cs ds : List Command) : replay (cs ++ ds) st = (replay cs st).bind (replay ds) := by
  induction cs generalizing st with
  | nil => rfl
  | cons c rest ih =>
    simp only [List.cons_append, replay]
    cases st.apply c with
    | none => rfl
    | some st' => exact ih st'

theorem replay_concat (cs : List Command) (c : Command) :
    replay (cs ++ [c]) st = (replay cs st).bind fun st' => st'.apply c := by
  rw [replay_append]
  congr 1
  funext st'
  simp only [replay]
  cases st'.apply c <;> rfl

end Machine

/-! What changes where -/

section Frame

variable {st : CoinStore} {p q : Place} {x : Worth}

@[simp] theorem kinds_set : (st.set p x).kinds = st.kinds := rfl

@[simp] theorem paid_set : (st.set p x).paid = st.paid := rfl

@[simp] theorem worth_set_self : (st.set p x).worth p = some x := if_pos rfl

theorem worth_set_of_ne (h : q ≠ p) : (st.set p x).worth q = st.worth q := if_neg h

@[simp] theorem worth_pay {y : Payment} : (st.pay y).worth = st.worth := rfl

@[simp] theorem paid_pay {y : Payment} : (st.pay y).paid = st.paid ++ [y] := rfl

variable {kind : CommandKind} {made : Nat → Option Worth}

@[simp] theorem kinds_push : (st.push kind made).kinds = st.kinds ++ [kind] := rfl

@[simp] theorem size_push : (st.push kind made).size = st.size + 1 := by simp [size]

@[simp] theorem paid_push : (st.push kind made).paid = st.paid := rfl

@[simp] theorem worth_push_gas : (st.push kind made).worth .gas = st.worth .gas := rfl

@[simp] theorem worth_push_object {id : String} : (st.push kind made).worth (.object id) = st.worth (.object id) := rfl

@[simp] theorem worth_push_made {k : Nat} : (st.push kind made).worth (.made st.size k) = made k := if_pos rfl

theorem worth_push_of_ne {n k : Nat} (h : n ≠ st.size) :
    (st.push kind made).worth (.made n k) = st.worth (.made n k) := if_neg h

theorem coinAt?_eq_some {t : String} {n : Int} :
    st.coinAt? p = some (t, n) ↔ st.worth p = some (.coin t n) := by
  unfold coinAt?
  split
  · next u m h => simp [h]
  · next h =>
    constructor
    · simp
    · intro hw
      exact absurd hw (h t n)

theorem find_of_kinds {other : CoinStore} (h : other.kinds = st.kinds) (handle : Handle) :
    other.find handle = st.find handle := by
  cases handle <;> simp only [find, h]

@[simp] theorem find_set (h : Handle) : (st.set p x).find h = st.find h := find_of_kinds kinds_set h

theorem find_of_prefix {other : CoinStore} {more : List CommandKind} (hk : other.kinds = st.kinds ++ more)
    {h : Handle} (hp : st.find h = some p) : other.find h = some p := by
  have grown : ∀ {n : Nat} {k : CommandKind}, st.kinds[n]? = some k → other.kinds[n]? = some k := by
    intro n k hn
    rw [hk, List.getElem?_append_left (List.getElem?_eq_some_iff.1 hn).1, hn]
  cases h with
  | gas => exact hp
  | object id => exact hp
  | result n =>
    simp only [find] at hp ⊢
    split at hp
    · next hn => rw [if_pos (grown hn), hp]
    · cases hp
  | nestedResult n k =>
    simp only [find] at hp ⊢
    split at hp
    · next hn => rw [if_pos (hn.imp grown grown), hp]
    · cases hp
  | pure v t => cases hp
  | missing => cases hp

end Frame

/-! Every command -/

/-- Up to the record of a command, only places change at which something was. -/
structure Within (st other : CoinStore) : Prop where
  kinds : other.kinds = st.kinds
  absent : ∀ p, st.worth p = none → other.worth p = none

namespace Within

variable {st other third : CoinStore}

theorem refl (st : CoinStore) : Within st st := ⟨rfl, fun _ h => h⟩

theorem trans (h : Within st other) (h' : Within other third) : Within st third :=
  ⟨h'.kinds.trans h.kinds, fun p hp => h'.absent p (h.absent p hp)⟩

theorem set {p : Place} {x y : Worth} (h : st.worth p = some x) : Within st (st.set p y) := by
  refine ⟨rfl, ?_⟩
  intro q hq
  rw [worth_set_of_ne, hq]
  rintro rfl
  simp [h] at hq

theorem pay {y : Payment} : Within st (st.pay y) := ⟨rfl, fun _ h => h⟩

theorem consume {p : Place} (h : st.consume p = some other) : Within st other := by
  unfold CoinStore.consume at h
  split at h
  · next hw =>
    cases h
    exact (set hw).trans pay
  · next hw =>
    cases h
    exact set hw
  · cases h

theorem absorb {p : Place} {hs : List Handle} (h : absorb p hs st = some other) : Within st other := by
  induction hs generalizing st with
  | nil =>
    cases h
    exact refl _
  | cons handle rest ih =>
    simp only [CoinStore.absorb, Option.bind_eq_bind, Option.bind_eq_some_iff] at h
    obtain ⟨q, -, ⟨t, n⟩, hp, ⟨u, m⟩, hq, h⟩ := h
    split at h
    · cases h
    · next hne =>
      have hw := coinAt?_eq_some.1 hp
      have hv := coinAt?_eq_some.1 hq
      have hpq : p ≠ q := fun heq => hne (.inr (.inl heq.symm))
      exact ((set hv).trans (set ((worth_set_of_ne hpq).trans hw))).trans (ih h)

theorem give {hs : List Handle} (h : give hs st = some other) : Within st other := by
  induction hs generalizing st with
  | nil =>
    cases h
    exact refl _
  | cons handle rest ih =>
    simp only [CoinStore.give, Option.bind_eq_bind, Option.bind_eq_some_iff] at h
    obtain ⟨p, -, h⟩ := h
    split at h
    · cases h
    · obtain ⟨mid, hc, h⟩ := Option.bind_eq_some_iff.1 h
      exact (consume hc).trans (ih h)

theorem pass {hs : List Handle} (h : pass hs st = some other) : Within st other := by
  induction hs generalizing st with
  | nil =>
    cases h
    exact refl _
  | cons handle rest ih =>
    have made : ∀ {p : Place}, (match p, st.worth p with
        | .gas, _ => none
        | .object _, none => pass rest st
        | p, some (.balance ..) => pass rest (st.set p .spent)
        | p, _ => (st.consume p).bind (pass rest)) = some other → Within st other := by
      intro p hp
      split at hp
      · cases hp
      · exact ih hp
      · next hw => exact (set hw).trans (ih hp)
      · obtain ⟨mid, hc, hm⟩ := Option.bind_eq_some_iff.1 hp
        exact (consume hc).trans (ih hm)
    cases handle with
    | pure v tag => exact ih h
    | _ =>
      simp only [CoinStore.pass, Option.bind_eq_bind] at h
      obtain ⟨p, -, hp⟩ := Option.bind_eq_some_iff.1 h
      exact made hp

end Within

theorem apply_eq_push {st st' : CoinStore} {c : Command} (h : st.apply c = some st') :
    ∃ mid made, Within st mid ∧ st' = mid.push c.kind made := by
  cases c with
  | splitCoins coin amounts =>
    simp only [apply, split, Option.bind_eq_bind, Option.bind_eq_some_iff] at h
    obtain ⟨p, -, ⟨t, n⟩, hp, h⟩ := h
    split at h
    · cases h
      exact ⟨_, _, .set (coinAt?_eq_some.1 hp), rfl⟩
    · cases h
  | mergeCoins destination sources =>
    simp only [apply, merge, Option.bind_eq_bind, Option.bind_eq_some_iff] at h
    obtain ⟨p, -, -, -, mid, hm, h⟩ := h
    cases h
    exact ⟨mid, _, .absorb hm, rfl⟩
  | transferObjects objects recipient =>
    simp only [apply, Option.bind_eq_bind, Option.bind_eq_some_iff] at h
    obtain ⟨mid, hm, h⟩ := h
    cases h
    exact ⟨mid, _, .give hm, rfl⟩
  | moveCall target arguments types =>
    simp only [apply, call, Option.bind_eq_bind, Option.bind_eq_some_iff] at h
    obtain ⟨mid, hm, h⟩ := h
    cases h
    exact ⟨mid, _, .pass hm, rfl⟩

theorem kinds_of_replay {cs : List Command} {st st' : CoinStore} (h : replay cs st = some st') :
    st'.kinds = st.kinds ++ cs.map Command.kind := by
  induction cs generalizing st with
  | nil =>
    cases h
    simp
  | cons c rest ih =>
    obtain ⟨st₁, hc, hr⟩ := Option.bind_eq_some_iff.1 h
    obtain ⟨mid, made, hm, rfl⟩ := apply_eq_push hc
    rw [ih hr, kinds_push, hm.kinds]
    simp

def Fresh (st : CoinStore) : Prop := ∀ n k, st.size ≤ n → st.worth (.made n k) = none

theorem fresh_of_replay {cs : List Command} {st st' : CoinStore} (hf : st.Fresh) (h : replay cs st = some st') :
    st'.Fresh := by
  induction cs generalizing st with
  | nil =>
    cases h
    exact hf
  | cons c rest ih =>
    obtain ⟨st₁, hc, hr⟩ := Option.bind_eq_some_iff.1 h
    obtain ⟨mid, made, hm, rfl⟩ := apply_eq_push hc
    apply ih _ hr
    intro n k hn
    have hs : mid.size = st.size := congrArg List.length hm.kinds
    rw [size_push, hs] at hn
    rw [worth_push_of_ne (hs ▸ Nat.ne_of_gt hn)]
    exact hm.absent _ (hf n k (Nat.le_of_succ_le hn))

end CoinStore

end LedgerFlow
