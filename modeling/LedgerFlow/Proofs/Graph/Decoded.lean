import LedgerFlow.Graph.Decode

namespace LedgerFlow

open Schema

namespace Schema.Checked

variable {α β : Type}

theorem map_eq_valid {f : α → β} {x : Checked α} {b : β} : f <$> x = .valid b ↔ ∃ a, x = .valid a ∧ f a = b := by
  cases x with
  | valid a => exact ⟨fun h => ⟨a, rfl, by cases h; rfl⟩, by rintro ⟨a', h, rfl⟩; cases h; rfl⟩
  | invalid is => exact ⟨fun h => (nomatch h), fun ⟨_, h, _⟩ => (nomatch h)⟩

theorem seq_eq_valid {f : Checked (α → β)} {x : Checked α} {b : β} :
    f <*> x = .valid b ↔ ∃ g a, f = .valid g ∧ x = .valid a ∧ g a = b := by
  cases f with
  | valid g =>
    cases x with
    | valid a =>
      exact ⟨fun h => ⟨g, a, rfl, rfl, by cases h; rfl⟩, by rintro ⟨g', a', hg, ha, rfl⟩; cases hg; cases ha; rfl⟩
    | invalid is => exact ⟨fun h => (nomatch h), fun ⟨_, _, _, h, _⟩ => (nomatch h)⟩
  | invalid is =>
    cases x with
    | valid a => exact ⟨fun h => (nomatch h), fun ⟨_, _, h, _⟩ => (nomatch h)⟩
    | invalid js => exact ⟨fun h => (nomatch h), fun ⟨_, _, h, _⟩ => (nomatch h)⟩

theorem within_eq_valid {key : Key} {x : Checked α} {a : α} : x.within key = .valid a ↔ x = .valid a := by
  cases x <;> simp [within]

end Schema.Checked

open Checked

/-- A branch on a balance may leave out whose balance and what it is compared with, but never the asset. -/
def NodeData.statesAsset : NodeData → Bool
  | .logic d => !d.balanceAsset.isEmpty
  | _ => true

theorem statesAsset_of_decodeAsset {v : Json} {asset : String} (h : decodeAsset v = .valid asset) :
    asset.isEmpty = false := by
  cases v with
  | null =>
    cases h
    decide
  | string s =>
    cases h
    split
    · decide
    · next hs =>
      cases he : s.isEmpty with
      | false => rfl
      | true =>
        rw [String.isEmpty_iff.1 he] at hs
        exact absurd (by decide) hs
  | _ => cases h

theorem optionalField_eq_valid {α : Type} {ms : Members} {keys : List String} {default a : α} {d : Decoder α}
    (h : optionalField ms keys default d = .valid a) : a = default ∨ ∃ v, d v = .valid a := by
  unfold optionalField at h
  split at h
  · cases h
    exact .inl rfl
  · exact .inr ⟨_, within_eq_valid.1 h⟩

theorem exists_members_of_record {α : Type} {fields : Members → Checked α} {v : Json} {a : α}
    (h : record fields v = .valid a) : ∃ ms, fields ms = .valid a := by
  cases v with
  | object ms => exact ⟨ms, h⟩
  | _ => cases h

theorem fields_of_decodeLogic {v : Json} {d : LogicData} (h : decodeLogic v = .valid d) :
    ∃ ms, looseField ms "balance_asset" "SUI" decodeAsset = .valid d.balanceAsset ∧
      looseField ms "compare_value" none decodeAmount = .valid d.compareValue ∧
      looseField ms "contract_compare_value" none decodeAmount = .valid d.contractCompareValue := by
  obtain ⟨ms, hms⟩ := exists_members_of_record h
  simp only [seq_eq_valid, map_eq_valid] at hms
  obtain ⟨_, _, ⟨_, _, ⟨_, _, ⟨_, _, ⟨_, _, ⟨_, _, ⟨_, value, ⟨_, _, ⟨_, asset, ⟨_, _, ⟨_, _, rfl⟩, _, rfl⟩, hasset, rfl⟩,
    _, rfl⟩, hvalue, rfl⟩, _, rfl⟩, _, rfl⟩, _, rfl⟩, _, rfl⟩, _, rfl⟩, hcontract, rfl⟩ := hms
  exact ⟨ms, hasset, hvalue, hcontract⟩

theorem statesAsset_of_decodeLogic {v : Json} {d : LogicData} (h : decodeLogic v = .valid d) :
    d.balanceAsset.isEmpty = false := by
  obtain ⟨ms, hasset, -, -⟩ := fields_of_decodeLogic h
  obtain hdefault | ⟨v, hv⟩ := optionalField_eq_valid hasset
  · rw [hdefault]
    exact (by decide : "SUI".isEmpty = false)
  · exact statesAsset_of_decodeAsset hv

theorem statesAsset_of_dataDecoder? {kind : String} {decoder : Decoder NodeData} {v : Json} {data : NodeData}
    (hk : dataDecoder? kind = some decoder) (h : decoder v = .valid data) : data.statesAsset = true := by
  unfold dataDecoder? at hk
  split at hk <;> cases hk
  all_goals
    obtain ⟨d, hd, rfl⟩ := map_eq_valid.1 h
    first
      | rfl
      | simp [NodeData.statesAsset, statesAsset_of_decodeLogic hd]

def IsFiniteAmount (a : Option Decimal) : Prop := ∀ d, a = some d → d.isFinite = true

theorem isFiniteAmount_none : IsFiniteAmount none := fun _ h => nomatch h

theorem IsFiniteAmount.isNaN {a : Option Decimal} {d : Decimal} (h : IsFiniteAmount a) (ha : a = some d) :
    d.isNaN = false := by
  have hfinite := h d ha
  cases d with
  | nan s signalling payload => cases hfinite
  | _ => rfl

def NodeData.amounts : NodeData → List (Option Decimal)
  | .wallet _ => []
  | .selector _ => []
  | .logic d => [d.compareValue, d.contractCompareValue]
  | .transfer d => [d.amount]
  | .swap d => [d.amount, d.estimatedAmountOut]
  | .lend d => [d.amount]
  | .stake d => [d.amount]
  | .bridge d => [d.amount]
  | .custom _ => []

def NodeData.HasFiniteAmounts (data : NodeData) : Prop := ∀ a ∈ data.amounts, IsFiniteAmount a

theorem isFiniteAmount_of_decodeAmount {v : Json} {a : Option Decimal} (h : decodeAmount v = .valid a) :
    IsFiniteAmount a := by
  rintro d rfl
  unfold decodeAmount at h
  split at h
  · cases h
  · cases h
  · split at h
    · cases h
      rfl
    · cases h
  · split at h
    · split at h
      · next hfinite =>
        cases h
        exact hfinite
      · cases h
    · cases h
  · split at h
    · next x _ =>
      have hx : (if x.isFinite then some x else none) = some d := Checked.valid.inj h
      split at hx
      · next hfinite =>
        cases hx
        exact hfinite
      · cases hx
    · cases h
  · cases h

theorem isFiniteAmount_of_looseField {ms : Members} {name : String} {a : Option Decimal}
    (h : looseField ms name none decodeAmount = .valid a) : IsFiniteAmount a := by
  obtain rfl | ⟨v, hv⟩ := optionalField_eq_valid h
  · exact isFiniteAmount_none
  · exact isFiniteAmount_of_decodeAmount hv

theorem finite_of_decodeLogic {v : Json} {d : LogicData} (h : decodeLogic v = .valid d) :
    IsFiniteAmount d.compareValue ∧ IsFiniteAmount d.contractCompareValue := by
  obtain ⟨ms, -, hvalue, hcontract⟩ := fields_of_decodeLogic h
  exact ⟨isFiniteAmount_of_looseField hvalue, isFiniteAmount_of_looseField hcontract⟩

theorem finite_of_decodeTransfer {v : Json} {d : TransferData} (h : decodeTransfer v = .valid d) :
    IsFiniteAmount d.amount := by
  obtain ⟨ms, hms⟩ := exists_members_of_record h
  simp only [seq_eq_valid, map_eq_valid] at hms
  obtain ⟨_, _, ⟨_, _, ⟨_, _, rfl⟩, hamount, rfl⟩, _, rfl⟩ := hms
  exact isFiniteAmount_of_looseField hamount

theorem finite_of_decodeSwap {v : Json} {d : SwapData} (h : decodeSwap v = .valid d) :
    IsFiniteAmount d.amount ∧ IsFiniteAmount d.estimatedAmountOut := by
  obtain ⟨ms, hms⟩ := exists_members_of_record h
  simp only [seq_eq_valid, map_eq_valid] at hms
  obtain ⟨_, _, ⟨_, _, ⟨_, _, ⟨_, _, ⟨_, _, rfl⟩, _, rfl⟩, hamount, rfl⟩, hestimate, rfl⟩, _, rfl⟩ := hms
  exact ⟨isFiniteAmount_of_looseField hamount, isFiniteAmount_of_looseField hestimate⟩

theorem finite_of_decodeLend {v : Json} {d : LendData} (h : decodeLend v = .valid d) : IsFiniteAmount d.amount := by
  obtain ⟨ms, hms⟩ := exists_members_of_record h
  simp only [seq_eq_valid, map_eq_valid] at hms
  obtain ⟨_, _, ⟨_, _, ⟨_, _, ⟨_, _, ⟨_, _, ⟨_, _, rfl⟩, _, rfl⟩, hamount, rfl⟩, _, rfl⟩, _, rfl⟩, _, rfl⟩ := hms
  exact isFiniteAmount_of_looseField hamount

theorem finite_of_decodeStake {v : Json} {d : StakeData} (h : decodeStake v = .valid d) : IsFiniteAmount d.amount := by
  obtain ⟨ms, hms⟩ := exists_members_of_record h
  simp only [seq_eq_valid, map_eq_valid] at hms
  obtain ⟨_, _, ⟨_, _, ⟨_, hamount, rfl⟩, _, rfl⟩, _, rfl⟩ := hms
  exact isFiniteAmount_of_looseField hamount

theorem finite_of_decodeBridge {v : Json} {d : BridgeData} (h : decodeBridge v = .valid d) : IsFiniteAmount d.amount := by
  obtain ⟨ms, hms⟩ := exists_members_of_record h
  simp only [seq_eq_valid, map_eq_valid] at hms
  obtain ⟨_, _, ⟨_, _, ⟨_, _, ⟨_, _, ⟨_, _, ⟨_, _, rfl⟩, _, rfl⟩, _, rfl⟩, hamount, rfl⟩, _, rfl⟩, _, rfl⟩ := hms
  exact isFiniteAmount_of_looseField hamount

theorem hasFiniteAmounts_of_dataDecoder? {kind : String} {decoder : Decoder NodeData} {v : Json} {data : NodeData}
    (hk : dataDecoder? kind = some decoder) (h : decoder v = .valid data) : data.HasFiniteAmounts := by
  unfold dataDecoder? at hk
  split at hk <;> cases hk
  all_goals
    obtain ⟨d, hd, rfl⟩ := map_eq_valid.1 h
    simp only [NodeData.HasFiniteAmounts, NodeData.amounts, List.forall_mem_cons, List.not_mem_nil, false_implies,
      implies_true, and_true]
  · exact finite_of_decodeLogic hd
  · exact finite_of_decodeTransfer hd
  · exact finite_of_decodeSwap hd
  · exact finite_of_decodeLend hd
  · exact finite_of_decodeStake hd
  · exact finite_of_decodeBridge hd

theorem data_of_decodeNode {v : Json} {n : Node} (h : decodeNode v = .valid n) :
    ∃ kind decoder w, dataDecoder? kind = some decoder ∧ decoder w = .valid n.data := by
  unfold decodeNode at h
  split at h
  · split at h
    · cases h
    · split at h
      · next decoder hk =>
        have h := within_eq_valid.1 h
        simp only [seq_eq_valid, map_eq_valid] at h
        obtain ⟨_, data, ⟨_, _, ⟨_, _, rfl⟩, _, rfl⟩, hdata, rfl⟩ := h
        unfold fieldOrEmpty at hdata
        split at hdata
        · exact ⟨_, _, _, hk, hdata⟩
        · exact ⟨_, _, _, hk, within_eq_valid.1 hdata⟩
      · cases h
    · cases h
  · cases h

theorem valid_of_mem_decodeItems {α : Type} {d : Decoder α} {index : Nat} {vs : List Json} {as : List α}
    (h : decodeItems d index vs = .valid as) : ∀ a ∈ as, ∃ v, d v = .valid a := by
  induction vs generalizing index as with
  | nil =>
    cases h
    exact fun a ha => (List.not_mem_nil ha).elim
  | cons v rest ih =>
    simp only [decodeItems, seq_eq_valid, map_eq_valid, within_eq_valid] at h
    obtain ⟨_, more, ⟨first, hfirst, rfl⟩, hmore, rfl⟩ := h
    intro a ha
    obtain rfl | ha := List.mem_cons.1 ha
    · exact ⟨v, hfirst⟩
    · exact ih hmore a ha

theorem data_of_decodeParts {v : Json} {p : GraphParts} (h : decodeParts v = .valid p) :
    ∀ n ∈ p.nodes, ∃ kind decoder w, dataDecoder? kind = some decoder ∧ decoder w = .valid n.data := by
  cases v with
  | object ms =>
    simp only [decodeParts, record, seq_eq_valid, map_eq_valid] at h
    obtain ⟨_, _, ⟨_, _, ⟨nodes, hnodes, rfl⟩, _, rfl⟩, _, rfl⟩ := h
    intro n hn
    obtain rfl | ⟨v, hv⟩ := optionalField_eq_valid hnodes
    · exact (List.not_mem_nil hn).elim
    · cases v with
      | array vs =>
        obtain ⟨v, hv⟩ := valid_of_mem_decodeItems hv n hn
        exact data_of_decodeNode hv
      | _ => cases hv
  | _ => cases h

theorem data_of_decodeGraph {v : Json} {g : FlowGraph} (h : decodeGraph v = .valid g) :
    ∀ n ∈ g.nodes, ∃ kind decoder w, dataDecoder? kind = some decoder ∧ decoder w = .valid n.data := by
  unfold decodeGraph at h
  cases hp : decodeParts v with
  | invalid is =>
    rw [hp] at h
    cases h
  | valid p =>
    rw [hp, Checked.andThen, GraphParts.toGraph] at h
    split at h
    · cases h
      exact data_of_decodeParts hp
    · cases h

theorem statesAsset_of_decodeGraph {v : Json} {g : FlowGraph} (h : decodeGraph v = .valid g) :
    ∀ n ∈ g.nodes, n.data.statesAsset = true := by
  intro n hn
  obtain ⟨kind, decoder, w, hk, hw⟩ := data_of_decodeGraph h n hn
  exact statesAsset_of_dataDecoder? hk hw

theorem hasFiniteAmounts_of_decodeGraph {v : Json} {g : FlowGraph} (h : decodeGraph v = .valid g) :
    ∀ n ∈ g.nodes, n.data.HasFiniteAmounts := by
  intro n hn
  obtain ⟨kind, decoder, w, hk, hw⟩ := data_of_decodeGraph h n hn
  exact hasFiniteAmounts_of_dataDecoder? hk hw

theorem readGraph_of_parts {v : Json} {g : FlowGraph} (h : decodeParts v = .valid ⟨g.nodes, g.edges, g.metadata⟩)
    (wording : Wording) : readGraph wording v = .ok g := by
  have hgraph : GraphParts.toGraph ⟨g.nodes, g.edges, g.metadata⟩ = .valid g := by
    unfold GraphParts.toGraph
    split
    · rfl
    · next hdefect => simp [g.sound] at hdefect
  rw [readGraph, decodeGraph, h, Checked.andThen, hgraph]
  rfl

end LedgerFlow
