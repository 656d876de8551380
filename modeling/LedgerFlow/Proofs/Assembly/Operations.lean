import LedgerFlow.Proofs.Assembly.Workspace
import Mathlib.Data.List.Basic

namespace LedgerFlow

theorem Node.isSome_adapterKey? {n : Node} (h : n.isPassthrough = false) : n.adapterKey?.isSome = !n.isBranch := by
  obtain ⟨id, position, data⟩ := n
  cases data <;> first | rfl | cases h

theorem Node.isBranch_of_isBridge {n : Node} (h : n.isBridge = true) : n.isBranch = false := by
  obtain ⟨id, position, data⟩ := n
  cases data <;> first | rfl | cases h

namespace Plan

/-- The steps that are built into the transaction. -/
def operations (steps : List Step) : List Step :=
  steps.filter fun s => s.node.adapterKey?.isSome && s.isLive && !s.isBridge

theorem operations_cons (s : Step) (rest : List Step) :
    operations (s :: rest) =
      if s.node.adapterKey?.isSome && s.isLive && !s.isBridge then s :: operations rest else operations rest := by
  simp [operations, List.filter_cons]

theorem mem_active_of_mem_operations {steps : List Step} {s : Step} (h : s ∈ operations steps) :
    s ∈ active steps := by
  simp only [operations, List.mem_filter, Bool.and_eq_true] at h
  exact List.mem_filter.2 ⟨h.1, h.2.1.2⟩

variable {steps : List Step}

theorem mem_operations (h : ∀ s ∈ steps, s.node.isPassthrough = false) {t : Step} :
    t ∈ operations steps ↔ t ∈ steps ∧ t.isLive = true ∧ t.isBranch = false ∧ t.isBridge = false := by
  rw [operations, List.mem_filter]
  refine and_congr_right fun ht => ?_
  rw [Node.isSome_adapterKey? (h t ht)]
  simp only [Step.isBranch, Bool.and_eq_true, Bool.not_eq_true']
  rw [and_comm (a := t.node.isBranch = false), and_assoc]

theorem length_live (h : ∀ s ∈ steps, s.node.isPassthrough = false) :
    (steps.filter fun s => s.isLive && !s.isBranch).length =
      (operations steps).length + (Assembly.bridgesOf steps).length := by
  have hbridges : (steps.filter fun s => s.isLive && !s.isBranch).filter (·.isBridge) = Assembly.bridgesOf steps := by
    rw [List.filter_filter, Assembly.bridgesOf]
    apply List.filter_congr
    intro s _
    cases hb : s.isBridge with
    | false => simp
    | true => simp [Step.isBranch, Node.isBranch_of_isBridge hb]
  have hoperations :
      (steps.filter fun s => s.isLive && !s.isBranch).filter (fun s => !s.isBridge) = operations steps := by
    rw [List.filter_filter, operations]
    apply List.filter_congr
    intro s hs
    rw [Node.isSome_adapterKey? (h s hs), Bool.and_comm, Bool.and_comm s.isLive]
    rfl
  rw [List.length_eq_length_filter_add (·.isBridge), hbridges, hoperations, Nat.add_comm]

def collect {α : Type} (f : Step → Except Fault (List α)) : List Step → Except Fault (List α)
  | [] => .ok []
  | s :: rest => do
    let first ← f s
    return first ++ (← collect f rest)

theorem collect_append {α : Type} {f : Step → Except Fault (List α)} {steps : List Step} {s : Step} {as more : List α}
    (h : collect f steps = .ok as) (hs : f s = .ok more) : collect f (steps ++ [s]) = .ok (as ++ more) := by
  induction steps generalizing as with
  | nil =>
    cases h
    exact except_bind_eq_ok.2 ⟨more, hs, by simp [collect, bind, Except.bind, pure, Except.pure]⟩
  | cons t rest ih =>
    obtain ⟨first, hf, h⟩ := except_bind_eq_ok.1 h
    obtain ⟨others, ho, h⟩ := except_bind_eq_ok.1 h
    cases h
    exact except_bind_eq_ok.2 ⟨first, hf, except_bind_eq_ok.2 ⟨others ++ more, ih ho, by simp [pure, Except.pure]⟩⟩

end Plan

namespace Assembly

variable {c : AssemblySetting} {steps : List Step} {w w' : Workspace} {es : List Exchange}

theorem yields_buildSteps_cons {s : Step} {rest : List Step} {n : Nat}
    (hy : Yields (buildSteps c (s :: rest)) w es n w') :
    (Plan.operations (s :: rest) = Plan.operations rest ∧ Yields (buildSteps c rest) w es n w') ∨
      (Plan.operations (s :: rest) = s :: Plan.operations rest ∧
        ∃ key es₁ es₂ r w₁ m, s.node.adapterKey? = some key ∧ es = es₁ ++ es₂ ∧
          Yields (buildStep c s key) w es₁ r w₁ ∧ Yields (buildSteps c rest) w₁ es₂ m w' ∧ n = m + 1) := by
  rw [Plan.operations_cons]
  unfold buildSteps at hy
  split at hy
  · next key hk =>
    split at hy
    · next hskip =>
      have hno : (s.node.adapterKey?.isSome && s.isLive && !s.isBridge) = false := by
        rw [hk, Option.isSome_some, Bool.true_and, Step.isLive, ← Bool.not_or, hskip]
        rfl
      exact .inl ⟨by simp [hno], hy⟩
    · next hskip =>
      have hyes : (s.node.adapterKey?.isSome && s.isLive && !s.isBridge) = true := by
        rw [hk, Option.isSome_some, Bool.true_and, Step.isLive, ← Bool.not_or, Bool.eq_false_iff.2 hskip]
        rfl
      simp only [yields_bind, yields_pure] at hy
      obtain ⟨es₁, r, w₁, hb, _, rfl, es₂, m, _, hr, _, rfl, rfl, rfl, rfl⟩ := hy
      exact .inr ⟨by simp [hyes], key, es₁, es₂, r, w₁, m, hk, by simp, hb, hr, rfl⟩
  · next hk => exact .inl ⟨by simp [hk], hy⟩

theorem buildSteps_keeps {P : List Step → Workspace → Prop} {A : Exchange → Prop} {n : Nat} (before : List Step)
    (hP : ∀ before s key w es r w', s ∈ Plan.operations steps → s.node.adapterKey? = some key → P before w →
      Yields (buildStep c s key) w es r w' → (∀ e ∈ es, A e) → P (before ++ [s]) w')
    (h : P before w) (hy : Yields (buildSteps c steps) w es n w') (ha : ∀ e ∈ es, A e) :
    P (before ++ Plan.operations steps) w' := by
  induction steps generalizing before w es n with
  | nil =>
    obtain ⟨-, -, rfl⟩ := yields_pure.1 hy
    simpa [Plan.operations] using h
  | cons s rest ih =>
    obtain ⟨ho, hr⟩ | ⟨ho, key, es₁, es₂, r, w₁, m, hk, rfl, hb, hr, rfl⟩ := yields_buildSteps_cons hy
    · rw [ho] at hP ⊢
      exact ih before hP h hr ha
    · rw [ho] at hP ⊢
      have h₁ := hP before s key w es₁ r w₁ List.mem_cons_self hk h hb fun e he => ha e (List.mem_append_left _ he)
      have hall := ih (before ++ [s]) (fun b t k v fs r v' hm => hP b t k v fs r v' (.tail _ hm)) h₁ hr
        fun e he => ha e (List.mem_append_right _ he)
      simpa using hall

theorem length_operations {n : Nat} (hy : Yields (buildSteps c steps) w es n w') :
    n = (Plan.operations steps).length := by
  induction steps generalizing w es n with
  | nil =>
    obtain ⟨-, rfl, -⟩ := yields_pure.1 hy
    rfl
  | cons s rest ih =>
    obtain ⟨ho, hr⟩ | ⟨ho, key, es₁, es₂, r, w₁, m, hk, rfl, hb, hr, rfl⟩ := yields_buildSteps_cons hy
    · rw [ho, ih hr]
    · rw [ho, ih hr, List.length_cons]

def returning (signer : String) (left : List PooledCoin) : List Command :=
  left.map fun x => .transferObjects [x.coin] (some signer)

theorem yields_returnCoins {signer : String} {left : List PooledCoin} {r : Unit} :
    Yields (returnCoins signer left) w es r w' ↔
      es = [] ∧ w' = { w with tx := { w.tx with commands := w.tx.commands ++ returning signer left } } := by
  induction left generalizing w es with
  | nil => simp [returnCoins, returning]
  | cons x rest ih =>
    simp [returnCoins, yields_bind, yields_transfer, ih, returning, Transaction.append, and_assoc]

theorem yields_drain {cs : List PooledCoin} :
    Yields drain w es cs w' ↔ es = [] ∧ cs = w.pool.coins ∧ w' = { w with pool := .empty } := by
  simp [drain, yields_bind, and_assoc]

theorem yields_build {result : AssemblyResult} {tx : Transaction} (hy : Yields (build c steps) w es result w')
    (htx : result.transaction = some tx) :
    ∃ n w₁, Yields (buildSteps c steps) w es n w₁ ∧ result.returned = w₁.pool.coins ∧ w'.tx = tx ∧
      Yields (returnCoins c.signer w₁.pool.coins) { w₁ with pool := .empty } [] () w' := by
  simp only [build, yields_bind, yields_drain] at hy
  obtain ⟨es₁, n, w₁, hb, _, rfl, _, left, w₂, ⟨rfl, rfl, rfl⟩, _, rfl, es₂, _, w₃, hr, es₃, rfl, hy⟩ := hy
  obtain ⟨rfl, -⟩ := yields_returnCoins.1 hr
  split at hy
  · obtain ⟨-, rfl, rfl⟩ := yields_pure.1 hy
    cases htx
  · simp only [yields_bind, yields_state, yields_pure] at hy
    obtain ⟨_, _, _, ⟨rfl, rfl, rfl⟩, _, rfl, rfl, rfl, rfl⟩ := hy
    cases htx
    exact ⟨n, w₁, by simpa using hb, rfl, rfl, hr⟩

theorem bridgesOf_eq_nil : bridgesOf steps = [] ↔ ∀ t ∈ steps, t.isLive = true → t.isBridge = false := by
  simp [bridgesOf]

end Assembly

theorem of_assemble {c : AssemblySetting} {steps : List Step} {es : List Exchange} {a : AssemblyResult}
    (h : (assemble c steps).Yields es (.ok a)) :
    a.bridges = Assembly.bridgesOf steps ∧ a.operations = (Plan.operations steps).length ∧
      (a.transaction.isSome = true ↔ a.operations ≠ 0) := by
  obtain ⟨reserve, -, w, hb⟩ := Assembly.yields_assemble.1 h
  obtain ⟨_, operations, w₁, hs, _, rfl, h₂⟩ := Assembly.yields_bind.1 hb
  obtain ⟨_, left, w₂, -, _, rfl, h₃⟩ := Assembly.yields_bind.1 h₂
  obtain ⟨_, u, w₃, -, _, rfl, h₄⟩ := Assembly.yields_bind.1 h₃
  have hlength := Assembly.length_operations hs
  split at h₄
  · next hz =>
    rw [(Assembly.yields_pure.1 h₄).2.1]
    exact ⟨rfl, hz ▸ hlength, by simp⟩
  · next hz =>
    obtain ⟨_, w₄, w₅, -, _, rfl, h₅⟩ := Assembly.yields_bind.1 h₄
    rw [(Assembly.yields_pure.1 h₅).2.1]
    exact ⟨rfl, hlength, by simpa using hz⟩

end LedgerFlow
