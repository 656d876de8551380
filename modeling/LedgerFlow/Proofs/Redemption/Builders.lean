import LedgerFlow.Proofs.Redemption.Sparing
import LedgerFlow.Proofs.Replay.Builders

namespace LedgerFlow

open Assembly

structure Protocol.Setting.Aloof (c : Protocol.Setting) (l : Ledger) (ids named : List String) : Prop where
  tokens : ∀ symbol t, c.tokens.find? symbol = some t → ∀ x ∈ l.coinsOf t.coinType, x.objectId ∉ ids
  apart : l.Apart ids named

namespace Protocol.Setting.Aloof

variable {c : Protocol.Setting} {l : Ledger} {ids named : List String} {s : Step} {t : Token} {x : Handle}
  {f hs : List Handle} {id : String}

theorem token {symbol : String} (h : c.Aloof l ids named) (ht : c.token s symbol = .ok t) :
    ∀ x ∈ l.coinsOf t.coinType, x.objectId ∉ ids :=
  h.tokens symbol t (find?_of_token ht)

theorem tokenOf {symbol : Option String} (h : c.Aloof l ids named) (ht : c.tokenOf s symbol = .ok t) :
    ∀ x ∈ l.coinsOf t.coinType, x.objectId ∉ ids := by
  cases symbol with
  | none => cases ht
  | some symbol => exact h.token ht

theorem shared (h : c.Aloof l ids named) (hx : x ∈ sharedHandles) : x.Spares ids := by
  rintro id rfl
  exact h.apart.shared id (List.mem_append_left _ (List.mem_append_left _ (List.mem_filterMap.2 ⟨_, hx, rfl⟩)))

end Protocol.Setting.Aloof

namespace Protocol

variable {c : Setting} {l : Ledger} {ids named : List String} {s : Step}

theorem spares_nil : ∀ y ∈ ([] : List Handle), y.Spares ids := by
  simp

theorem spares_cons {x : Handle} {hs : List Handle} (hx : x.Spares ids) (h : ∀ y ∈ hs, y.Spares ids) :
    ∀ y ∈ x :: hs, y.Spares ids :=
  List.forall_mem_cons.2 ⟨hx, h⟩

theorem spares_shared {f hs : List Handle} (hc : c.Aloof l ids named) (hf : ∀ x ∈ f, x ∈ sharedHandles)
    (h : ∀ y ∈ hs, y.Spares ids) : ∀ y ∈ f ++ hs, y.Spares ids := by
  intro y hy
  cases List.mem_append.1 hy with
  | inl hy => exact hc.shared (hf y hy)
  | inr hy => exact h y hy

theorem spares_pureHandle {v : Json} {tag : Option String} : (Handle.pure v tag).Spares ids :=
  Handle.spares_of_objectId? rfl

theorem Native.spares_transfer (hc : c.Aloof l ids named) (d : TransferData) :
    Spares l ids (Native.transfer c s d) fun _ => True := by
  refine spares_bind spares_ofExcept fun t ht => ?_
  refine spares_bind spares_ofExcept fun n _ => ?_
  refine spares_bind (spares_acquire (hc.token ht)) fun coin hcoin => ?_
  have hs : ∀ y ∈ [coin], y.Spares ids := spares_cons (Handle.spares_of_objectId? hcoin) spares_nil
  refine spares_bind (Assembly.spares_transfer hs) fun _ _ => ?_
  split
  · exact spares_throw
  · exact spares_pure trivial

theorem Native.spares_stakeInput (hc : c.Aloof l ids named) (d : StakeData) :
    Spares l ids (Native.stakeInput c s d) fun h => h.objectId? = none := by
  refine spares_bind spares_ofExcept fun t ht => ?_
  refine spares_bind spares_ofExcept fun n _ => ?_
  exact spares_acquire (hc.token ht)

theorem Native.spares_stake (hc : c.Aloof l ids named) (d : StakeData) :
    Spares l ids (Native.stake c s d) fun _ => True := by
  unfold Native.stake
  split
  · exact spares_throw
  · refine spares_bind (spares_stakeInput hc d) fun coin hcoin => ?_
    refine spares_bind (spares_call ?_) fun _ _ => spares_pure trivial
    exact spares_shared hc (f := [systemState]) (by simp [sharedHandles])
      (spares_cons (Handle.spares_of_objectId? hcoin) (spares_cons spares_pureHandle spares_nil))

theorem Aftermath.spares_stake (hc : c.Aloof l ids named) (d : StakeData) :
    Spares l ids (Aftermath.stake c s d) fun _ => True := by
  have hv : Spares l ids (Aftermath.validator s d) fun _ => True := by
    unfold Aftermath.validator
    split
    · exact spares_pure trivial
    · refine spares_bind spares_ofEngine fun vs _ => ?_
      split
      · exact spares_throw
      · exact spares_pure trivial
  refine spares_bind hv fun v _ => ?_
  refine spares_bind (Native.spares_stakeInput hc d) fun coin hcoin => ?_
  refine spares_bind (spares_call ?_) fun receipt hr => ?_
  · exact spares_shared hc (f := [vault, safe, systemState, referralVault]) (by simp [sharedHandles])
      (spares_cons (Handle.spares_of_objectId? hcoin) (spares_cons spares_pureHandle spares_nil))
  · exact Assembly.spares_transfer (spares_cons (Handle.spares_of_objectId? hr) spares_nil)

theorem Volo.spares_stake (hc : c.Aloof l ids named) (d : StakeData) :
    Spares l ids (Volo.stake c s d) fun _ => True := by
  refine spares_bind (Native.spares_stakeInput hc d) fun coin hcoin => ?_
  refine spares_bind (spares_call ?_) fun receipt hr => ?_
  · exact spares_shared hc (f := [stakePool, metadata, systemState]) (by simp [sharedHandles])
      (spares_cons (Handle.spares_of_objectId? hcoin) spares_nil)
  · exact Assembly.spares_transfer (spares_cons (Handle.spares_of_objectId? hr) spares_nil)

theorem Exchange.spares_exchange {q : SwapQuote} {input : Handle} (hi : input.objectId? = none) :
    Spares l ids (Exchange.exchange c q input) fun h => h.Spares ids := by
  intro w es coin w' hw hy he
  obtain ⟨out, rfl, rfl, rfl⟩ := yields_exchange hy
  have ho : Exchange.Spares ids ⟨.swapBuild q input c.slippage w.tx, .ok out⟩ := (he _ List.mem_cons_self).2
  have spared : ∀ {h : Handle}, h = input ∨ h.Spares ids → h.Spares ids := by
    rintro h (rfl | h')
    · exact Handle.spares_of_objectId? hi
    · exact h'
  exact ⟨spared ho.2, ⟨hw.pool, hw.holdings⟩, out.commands, rfl, fun x hx h hh => spared (ho.1 x hx h hh)⟩

theorem Exchange.spares_quote {source target : Token} {n : Int} :
    Spares l ids (Exchange.quote s source target n) fun _ => True := by
  refine spares_bind spares_ofEngine fun offer _ => ?_
  split
  · exact spares_pure trivial
  · exact spares_throw

theorem Exchange.spares_swap (hc : c.Aloof l ids named) (d : SwapData) :
    Spares l ids (Exchange.swap c s d) fun _ => True := by
  unfold Exchange.swap
  split
  · exact spares_throw_bind
  · refine spares_bind spares_ofExcept fun source hs => ?_
    refine spares_bind spares_ofExcept fun target _ => ?_
    refine spares_bind spares_ofExcept fun n _ => ?_
    refine spares_bind spares_quote fun q _ => ?_
    refine spares_bind (spares_acquire (hc.tokenOf hs)) fun input hi => ?_
    refine spares_bind (spares_exchange hi) fun output ho => ?_
    exact Assembly.spares_transfer (spares_cons ho spares_nil)

theorem Navi.spares_lend (hc : c.Aloof l ids named) (d : LendData) :
    Spares l ids (Navi.lend c s d) fun _ => True := by
  refine spares_bind spares_ofExcept fun t ht => ?_
  split
  · exact spares_throw
  · next pool hp =>
    have hpool := Handle.spares_object (notMem_of_lookup hc.apart hp)
    refine spares_bind spares_ofExcept fun n _ => ?_
    have hobtain : ∀ action, Spares l ids (obtain t pool n action) fun _ => True := by
      intro action
      refine spares_bind (spares_call ?_) fun balance hb => ?_
      · exact spares_shared hc (f := [clock, priceOracle, storage]) (by simp [sharedHandles])
          (spares_cons hpool (spares_cons spares_pureHandle (spares_cons spares_pureHandle
            (spares_shared hc (f := [incentiveV2, incentiveV3, systemState]) (by simp [sharedHandles]) spares_nil))))
      · refine spares_bind (spares_call (spares_cons (Handle.spares_of_objectId? hb) spares_nil)) fun coin hcoin => ?_
        exact spares_deposit hcoin
    split
    · refine spares_bind (spares_acquire (hc.token ht)) fun coin hcoin => ?_
      refine spares_bind (spares_call ?_) fun _ _ => spares_pure trivial
      exact spares_shared hc (f := [clock, storage]) (by simp [sharedHandles])
        (spares_cons hpool (spares_cons spares_pureHandle (spares_cons (Handle.spares_of_objectId? hcoin)
          (spares_cons spares_pureHandle
            (spares_shared hc (f := [incentiveV2, incentiveV3]) (by simp [sharedHandles]) spares_nil)))))
    · exact hobtain d.action
    · exact hobtain d.action
    · exact spares_throw
    · exact spares_throw

theorem Scallop.spares_deposit (hc : c.Aloof l ids named) {d : LendData} {t : Token} (ht : c.token s d.asset = .ok t) :
    Spares l ids (Scallop.deposit s d t) fun _ => True := by
  refine spares_bind spares_ofExcept fun n _ => ?_
  refine spares_bind (spares_acquire (hc.token ht)) fun coin hcoin => ?_
  refine spares_bind (spares_call ?_) fun _ _ => spares_pure trivial
  exact spares_shared hc (f := [version, market]) (by simp [sharedHandles])
    (spares_cons (Handle.spares_of_objectId? hcoin)
      (spares_shared hc (f := [clock]) (by simp [sharedHandles]) spares_nil))

theorem Scallop.spares_obligation {d : LendData} {action : String} (hc : c.Aloof l ids named)
    (hn : ∀ id ∈ d.obligationId.toList ++ d.obligationKeyId.toList, id ∈ named) :
    Spares l ids (Scallop.obligation c s d action) fun o => o.id ∉ ids ∧ o.key ∉ ids := by
  intro w es o w' hw hy he
  obtain ⟨rfl, ho⟩ := yields_obligation hc.apart hn hy fun e hm => (he e hm).1
  exact ⟨ho, hw, [], by simp, by simp⟩

theorem Scallop.spares_borrow (hc : c.Aloof l ids named) {d : LendData} {t : Token}
    (hn : ∀ id ∈ d.obligationId.toList ++ d.obligationKeyId.toList, id ∈ named) :
    Spares l ids (Scallop.borrow c s d t) fun _ => True := by
  refine spares_bind (spares_obligation hc hn) fun o ho => ?_
  refine spares_bind spares_ofExcept fun n _ => ?_
  refine spares_bind (spares_call ?_) fun _ _ => spares_pure trivial
  exact spares_shared hc (f := [version]) (by simp [sharedHandles])
    (spares_cons (Handle.spares_object ho.1) (spares_cons (Handle.spares_object ho.2)
      (spares_shared hc (f := [market]) (by simp [sharedHandles])
        (spares_cons spares_pureHandle (spares_shared hc (f := [clock]) (by simp [sharedHandles]) spares_nil)))))

theorem Scallop.spares_repay (hc : c.Aloof l ids named) {d : LendData} {t : Token} (ht : c.token s d.asset = .ok t)
    (hn : ∀ id ∈ d.obligationId.toList ++ d.obligationKeyId.toList, id ∈ named) :
    Spares l ids (Scallop.repay c s d t) fun _ => True := by
  refine spares_bind (spares_obligation hc hn) fun o ho => ?_
  refine spares_bind spares_ofExcept fun n _ => ?_
  refine spares_bind (spares_acquire (hc.token ht)) fun coin hcoin => ?_
  refine spares_bind (spares_call ?_) fun _ _ => spares_pure trivial
  exact spares_shared hc (f := [version]) (by simp [sharedHandles])
    (spares_cons (Handle.spares_object ho.1) (spares_cons (Handle.spares_object ho.2)
      (spares_shared hc (f := [market]) (by simp [sharedHandles])
        (spares_cons (Handle.spares_of_objectId? hcoin)
          (spares_shared hc (f := [clock]) (by simp [sharedHandles]) spares_nil)))))

theorem Scallop.spares_lend (hc : c.Aloof l ids named) {d : LendData}
    (hn : ∀ id ∈ d.obligationId.toList ++ d.obligationKeyId.toList, id ∈ named) (hw : d.action ≠ "withdraw") :
    Spares l ids (Scallop.lend c s d) fun _ => True := by
  refine spares_bind spares_ofExcept fun t ht => ?_
  split
  · exact spares_deposit hc ht
  · next hd => exact absurd hd hw
  · exact spares_borrow hc hn
  · exact spares_repay hc ht hn
  · exact spares_throw

theorem MoveCall.spares_handle (hc : c.Aloof l ids named) {a : MoveCall.Argument}
    (ha : ∀ id, a = .object id → id ∉ ids) : Spares l ids (MoveCall.handle c s a) fun h => h.Spares ids := by
  cases a with
  | object id => exact spares_pure (Handle.spares_object (ha id rfl))
  | coin n =>
    show Spares l ids (nativeCoin c s n) _
    unfold nativeCoin
    split
    · exact spares_throw_bind
    · refine spares_bind spares_ofExcept fun t ht => ?_
      exact (spares_acquire (hc.token ht)).imp fun _ => Handle.spares_of_objectId?
  | _ => exact spares_pure spares_pureHandle

theorem MoveCall.spares_handles (hc : c.Aloof l ids named) {values : List Json}
    (hv : ∀ id ∈ values.filterMap MoveCall.objectOf?, id ∉ ids) :
    Spares l ids (MoveCall.handles c s values) fun hs => ∀ h ∈ hs, h.Spares ids := by
  induction values with
  | nil => exact spares_pure spares_nil
  | cons v rest ih =>
    have hrest : ∀ id ∈ rest.filterMap MoveCall.objectOf?, id ∉ ids := by
      intro id hid
      obtain ⟨y, hy, hyo⟩ := List.mem_filterMap.1 hid
      exact hv id (List.mem_filterMap.2 ⟨y, .tail _ hy, hyo⟩)
    refine spares_bind spares_ofExcept fun a ha => ?_
    have hid : ∀ id, a = .object id → id ∉ ids := by
      rintro id rfl
      exact hv id (by simp [objectOf?, ha])
    refine spares_bind (spares_handle hc hid) fun x hx => ?_
    refine spares_bind (ih hrest) fun others ho => ?_
    exact spares_pure (spares_cons hx ho)

theorem MoveCall.spares_call (hc : c.Aloof l ids named) {d : CustomData}
    (hn : ∀ values, MoveCall.listOf s d.arguments "arguments" = .ok values →
      ∀ id ∈ values.filterMap MoveCall.objectOf?, id ∉ ids) :
    Spares l ids (MoveCall.call c s d) fun _ => True := by
  refine spares_bind spares_ofExcept fun values hv => ?_
  refine spares_bind spares_ofExcept fun types _ => ?_
  refine spares_bind (spares_handles hc (hn values hv)) fun hs hh => ?_
  exact spares_bind (Assembly.spares_call hh) fun _ _ => spares_pure trivial

end Protocol

theorem Builder.spares_build {l : Ledger} {ids : List String} {c : Protocol.Setting} {s : Step}
    (hc : c.Aloof l ids s.namedObjects) (b : Builder)
    (hb : ∀ d, b = .scallopLending → s.node.data = .lend d → d.action ≠ "withdraw") :
    Spares l ids (b.build c s) fun _ => True := by
  unfold Builder.build
  split
  · exact Protocol.Native.spares_transfer hc _
  · exact Protocol.Exchange.spares_swap hc _
  · next d hd =>
    have hn := hc.apart.named
    simp only [Step.namedObjects, hd] at hn
    apply Protocol.MoveCall.spares_call hc
    intro values hv
    rwa [hv] at hn
  · exact Protocol.Native.spares_stake hc _
  · exact Protocol.Aftermath.spares_stake hc _
  · exact Protocol.Volo.spares_stake hc _
  · exact Protocol.Navi.spares_lend hc _
  · next d hd =>
    apply Protocol.Scallop.spares_lend hc _ (hb d rfl hd)
    simp only [Step.namedObjects, hd]
    exact fun _ hid => hid
  · exact spares_throw

end LedgerFlow
