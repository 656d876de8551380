import LedgerFlow.Proofs.Decimal.Range
import LedgerFlow.Proofs.Wallet.Draws
import LedgerFlow.Proofs.Wallet.Tokens

/-!
The wallet as counters, one for each source of units. A counter starts at what the ledger says when it is first needed,
and is only ever lowered, by the draws that it can cover.
-/

namespace LedgerFlow

namespace TokenRegistry

theorem source_eq_iff {ts : List Token} {t u : Token} (hd : ((ofList ts).tokens.map (·.coinType)).Nodup)
    (ht : t ∈ (ofList ts).tokens) (hu : u ∈ (ofList ts).tokens) : t.source = u.source ↔ t.coinType = u.coinType := by
  constructor
  · intro h
    cases hn : t.isNative with
    | true =>
      have hun : u.isNative = true := Wallet.source_eq_native.1 (h ▸ Wallet.source_of_native hn)
      exact Option.some.inj ((nativeType?_of_mem ht hn).symm.trans (nativeType?_of_mem hu hun))
    | false => exact (Wallet.source_eq_coins.1 (h ▸ Wallet.source_of_coins hn)).2.symm
  · intro h
    rw [List.inj_on_of_nodup_map hd ht hu h]

end TokenRegistry

structure Draw where
  step : Int
  token : Token
  amount : Int

namespace Assembly

def caught {α : Type} (p : Assembly α) : Assembly (Except Fault α) :=
  ExceptT.mk fun w => (p.run w).bind fun r => .done (.ok r.1, r.2)

def drawEach : List Draw → Assembly (List (Except Fault Handle))
  | [] => pure []
  | d :: rest => do
    let r ← caught (draw d.step d.token d.amount)
    return r :: (← drawEach rest)

section

variable {α : Type} {w w' : Workspace} {d : Draw} {draws : List Draw} {es : List Exchange} {units : Int}
  {opened : Wallet} {r : Except Fault Handle} {results : List (Except Fault Handle)}

structure Counts (w : Workspace) (d : Draw) (es : List Exchange) (units : Int) (opened : Wallet)
    (r : Except Fault Handle) (w' : Workspace) : Prop where
  opens : w.wallet.Opens d.token es units opened
  succeeds : r.isOk = true ↔ d.amount ≤ units
  granted : d.amount ≤ units → ∃ source merged, opened.Pays d.token d.amount source merged w'.wallet ∧
    r = .ok (.nestedResult (w.tx.merge source merged).size 0) ∧
    w'.tx = (w.tx.merge source merged).append (.splitCoins source [d.amount])
  refused : units < d.amount → w' = { w with wallet := opened } ∧
    ∃ lacking reason, d.token.fromBaseUnits (d.amount - units) = .ok lacking ∧
      r = .error (.engine (.onStep (.resource d.token.symbol (some lacking)) d.step reason))
  left : w'.wallet.left d.token.source = some (if d.amount ≤ units then units - d.amount else units)
  kept : ∀ s, s ≠ d.token.source → w'.wallet.left s = w.wallet.left s
  pool : w'.pool = w.pool
  same : w'.wallet.owner = w.wallet.owner ∧ w'.wallet.reserve = w.wallet.reserve

inductive Counted : Workspace → List Draw → List Exchange → List (Except Fault Handle) → Workspace → Prop
  | nil {w : Workspace} : Counted w [] [] [] w
  | cons {w w₁ w' : Workspace} {d : Draw} {draws : List Draw} {es₁ es₂ : List Exchange} {units : Int}
      {opened : Wallet} {r : Except Fault Handle} {results : List (Except Fault Handle)}
      (turn : Counts w d es₁ units opened r w₁) (rest : Counted w₁ draws es₂ results w') :
      Counted w (d :: draws) (es₁ ++ es₂) (r :: results) w'

theorem yields_caught {p : Assembly α} {x : Except Fault α} :
    Yields (caught p) w es x w' ↔ (p.run w).Yields es (x, w') := by
  have h : Yields (caught p) w es x w' ↔
      ((p.run w).bind fun r => .done ((.ok r.1 : Except Fault (Except Fault α)), r.2)).Yields es (.ok x, w') := Iff.rfl
  rw [h, Program.yields_bind]
  constructor
  · rintro ⟨es₁, es₂, ⟨y, w₁⟩, rfl, hp, hy⟩
    obtain ⟨rfl, heq⟩ := Program.yields_done.1 hy
    cases heq
    simpa using hp
  · intro hp
    exact ⟨es, [], (x, w'), by simp, hp, .done _⟩

theorem run_caught_bind {β : Type} (p : Assembly α) (f : Except Fault α → Assembly β) :
    (caught p >>= f).run w = (p.run w).bind fun r => (f r.1).run r.2 := by
  have h : (caught p >>= f).run w =
      ((p.run w).bind fun r => .done ((.ok r.1 : Except Fault (Except Fault α)), r.2)).bind
        fun r => ExceptT.bindCont f r.1 r.2 := rfl
  rw [h, Program.bind_assoc]
  rfl

theorem exists_of_drawEach {x : Except Fault (List (Except Fault Handle))}
    (hy : ((drawEach draws).run w).Yields es (x, w')) : ∃ results, x = .ok results := by
  induction draws generalizing w w' es x with
  | nil =>
    obtain ⟨-, heq⟩ := Program.yields_done.1 hy
    cases heq
    exact ⟨[], rfl⟩
  | cons d rest ih =>
    rw [drawEach, run_caught_bind, Program.yields_bind] at hy
    obtain ⟨es₁, es₂, ⟨r, w₁⟩, rfl, -, hy⟩ := hy
    obtain ⟨es₃, es₄, ⟨y, w₂⟩, rfl, hrest, hy⟩ := Program.yields_bind.1 hy
    obtain ⟨results, rfl⟩ := ih hrest
    obtain ⟨-, heq⟩ := Program.yields_done.1 hy
    cases heq
    exact ⟨r :: results, rfl⟩

theorem resource_of_refusal {t : Token} {step amount : Int} {refused : Except Fault Fault} (hpos : 0 < amount)
    (hlt : units < amount) (hspan : t.Spans (amount.natAbs + (-units).toNat))
    (hr : refused = Wallet.shortfall step t amount units ∨ units = 0 ∧ refused = Wallet.noCoins step t amount) :
    ∃ lacking reason, t.fromBaseUnits (amount - units) = .ok lacking ∧
      refusal refused = .engine (.onStep (.resource t.symbol (some lacking)) step reason) := by
  obtain rfl | ⟨rfl, rfl⟩ := hr
  · obtain ⟨lacking, hlacking⟩ := hspan (amount - units) (by omega)
    obtain ⟨needed, hneeded⟩ := hspan amount (by omega)
    obtain ⟨available, havailable⟩ := hspan units (by omega)
    have h : Wallet.shortfall step t amount units = .ok (.engine (.onStep (.resource t.symbol (some lacking)) step
        (.insufficientBalance t.symbol needed available))) := by
      rw [Wallet.shortfall, hlacking, hneeded, havailable]
      rfl
    exact ⟨lacking, _, hlacking, by rw [h]; rfl⟩
  · obtain ⟨lacking, hlacking⟩ := hspan amount (by omega)
    have h : Wallet.noCoins step t amount =
        .ok (.engine (.onStep (.resource t.symbol (some lacking)) step (.noCoins t.symbol))) := by
      rw [Wallet.noCoins, hlacking]
      rfl
    exact ⟨lacking, _, by rw [Int.sub_zero, hlacking], by rw [h]; rfl⟩

def Shown (w : Workspace) (d : Draw) (es : List Exchange) : Prop :=
  (∀ units, w.wallet.left d.token.source = some units → d.token.Spans (d.amount.natAbs + (-units).toNat)) ∧
    ∀ e ∈ es, ∀ units, e.request.source? = some d.token.source → e.opening? w.wallet.reserve = some units →
      d.token.Spans (d.amount.natAbs + (-units).toNat)

theorem counts_of_yields (hi : w.wallet.Idle) (hpos : 0 < d.amount) (hread : ∀ e ∈ es, e.isAnswered = true)
    (hshown : Shown w d es) (hy : ((draw d.step d.token d.amount).run w).Yields es (r, w')) :
    ∃ units opened, Counts w d es units opened r w' ∧ w'.wallet.Idle := by
  cases drawn_of_yields hi hpos hy with
  | unanswered ha =>
    have := hread _ List.mem_cons_self
    rw [ha] at this
    cases this
  | @granted es units opened next source merged ho hle hp =>
    refine ⟨units, opened, ⟨ho, ?_, ?_, ?_, ?_, ?_, rfl, ?_⟩, hp.idle (ho.idle hi)⟩
    · simpa [Except.isOk, Except.toBool] using hle
    · exact fun _ => ⟨source, merged, hp, rfl, rfl⟩
    · intro hlt
      omega
    · rw [if_pos hle]
      exact hp.left ho.left
    · exact fun s hs => (hp.kept hs).trans (ho.kept hs)
    · exact ⟨hp.same.1.trans ho.same.1, hp.same.2.trans ho.same.2⟩
  | @refused es units opened refused ho hlt hr =>
    have hspan : d.token.Spans (d.amount.natAbs + (-units).toNat) := by
      cases ho with
      | known hl => exact hshown.1 units hl
      | read _ hr => exact hshown.2 _ List.mem_cons_self units hr.source? hr.opening?
    obtain ⟨lacking, reason, hlacking, hrefusal⟩ := resource_of_refusal hpos hlt hspan hr
    refine ⟨units, opened, ⟨ho, ?_, ?_, ?_, ?_, ?_, rfl, ho.same⟩, ho.idle hi⟩
    · simpa [Except.isOk, Except.toBool] using hlt
    · intro hle
      omega
    · exact fun _ => ⟨rfl, lacking, reason, hlacking, congrArg Except.error hrefusal⟩
    · rw [if_neg (Int.not_le.2 hlt)]
      exact ho.left
    · exact fun s hs => ho.kept hs

theorem Shown.after {w₁ : Workspace} {later : Draw} {es₁ es₂ : List Exchange} (h : Shown w later (es₁ ++ es₂))
    (hpos : 0 < d.amount) (hc : Counts w d es₁ units opened r w₁) : Shown w₁ later es₂ := by
  constructor
  · intro rest hrest
    -- A draw of the same source has lowered the counter at most to zero.
    by_cases hs : later.token.source = d.token.source
    · have hunits : later.token.Spans (later.amount.natAbs + (-units).toNat) := by
        cases hc.opens with
        | known hl => exact h.1 units (hs ▸ hl)
        | read _ hr => exact h.2 _ List.mem_cons_self units (hs ▸ hr.source?) hr.opening?
      rw [hs, hc.left, Option.some.injEq] at hrest
      intro n hn
      apply hunits
      split at hrest <;> omega
    · exact h.1 rest ((hc.kept _ hs).symm.trans hrest)
  · intro e he units hs ho
    exact h.2 e (List.mem_append_right _ he) units hs (hc.same.2 ▸ ho)

theorem yields_drawEach_cons : Yields (drawEach (d :: draws)) w es results w' ↔
    ∃ es₁ r w₁ es₂ rest, es = es₁ ++ es₂ ∧ results = r :: rest ∧
      ((draw d.step d.token d.amount).run w).Yields es₁ (r, w₁) ∧ Yields (drawEach draws) w₁ es₂ rest w' := by
  simp only [drawEach, yields_bind, yields_caught, yields_pure]
  constructor
  · rintro ⟨es₁, r, w₁, hd, es₂, rfl, es₃, rest, w₂, hrest, es₄, rfl, rfl, rfl, rfl⟩
    exact ⟨es₁, r, w₁, es₃, rest, by rw [List.append_nil], rfl, hd, hrest⟩
  · rintro ⟨es₁, r, w₁, es₂, rest, rfl, rfl, hd, hrest⟩
    exact ⟨es₁, r, w₁, hd, es₂, rfl, es₂, rest, w', hrest, [], by rw [List.append_nil], rfl, rfl, rfl⟩

theorem exists_of_drawEach_append {before after : List Draw}
    (hy : Yields (drawEach (before ++ after)) w es results w') :
    ∃ es₁ es₂ results₁ results₂ w₁, es = es₁ ++ es₂ ∧ results = results₁ ++ results₂ ∧
      Yields (drawEach before) w es₁ results₁ w₁ ∧ Yields (drawEach after) w₁ es₂ results₂ w' := by
  induction before generalizing w es results with
  | nil => exact ⟨[], es, [], results, w, rfl, rfl, yields_pure.2 ⟨rfl, rfl, rfl⟩, hy⟩
  | cons d rest ih =>
    obtain ⟨es₁, r, w₁, es₂, results₁, rfl, rfl, hd, hrest⟩ := yields_drawEach_cons.1 hy
    obtain ⟨es₃, es₄, results₃, results₄, w₃, rfl, rfl, hbefore, hafter⟩ := ih hrest
    exact ⟨es₁ ++ es₃, es₄, r :: results₃, results₄, w₃, by rw [List.append_assoc], rfl,
      yields_drawEach_cons.2 ⟨es₁, r, w₁, es₃, results₃, rfl, rfl, hd, hbefore⟩, hafter⟩

theorem counted_of_yields (hi : w.wallet.Idle) (hpos : ∀ d ∈ draws, 0 < d.amount)
    (hread : ∀ e ∈ es, e.isAnswered = true) (hshown : ∀ d ∈ draws, Shown w d es)
    (hy : Yields (drawEach draws) w es results w') : Counted w draws es results w' := by
  induction draws generalizing w es results with
  | nil =>
    obtain ⟨rfl, rfl, rfl⟩ := yields_pure.1 hy
    exact .nil
  | cons d rest ih =>
    obtain ⟨es₁, r, w₁, es₂, results, rfl, rfl, hd, hrest⟩ := yields_drawEach_cons.1 hy
    have hd_pos := hpos d List.mem_cons_self
    have hd_shown : Shown w d es₁ := by
      obtain ⟨hl, hr⟩ := hshown d List.mem_cons_self
      exact ⟨hl, fun e he => hr e (List.mem_append_left _ he)⟩
    obtain ⟨units, opened, hc, hi₁⟩ := counts_of_yields hi hd_pos
      (fun e he => hread e (List.mem_append_left _ he)) hd_shown hd
    refine .cons hc (ih hi₁ (fun d hd => hpos d (.tail _ hd)) ?_ ?_ hrest)
    · exact fun e he => hread e (List.mem_append_right _ he)
    · exact fun later hl => (hshown later (.tail _ hl)).after hd_pos hc

theorem Counted.sources (h : Counted w draws es results w') :
    es.map (·.request.source?) =
      (((draws.map (·.token.source)).filter fun s => (w.wallet.left s).isNone).eraseDups).map some := by
  induction h with
  | nil => rfl
  | @cons w w₁ w' d draws es₁ es₂ units opened r results turn _ ih =>
    -- The first draw makes its own source known, and no other.
    have hleft : ∀ s, (w₁.wallet.left s).isNone = ((w.wallet.left s).isNone && s != d.token.source) := by
      intro s
      by_cases hs : s = d.token.source
      · simp [hs, turn.left]
      · simp [turn.kept s hs, hs]
    rw [List.map_append, ih, List.map_cons, List.filter_cons]
    simp only [hleft]
    cases turn.opens with
    | known hl =>
      simp only [hl, Option.isNone_some, Bool.false_eq_true, if_false, List.map_nil, List.nil_append]
      congr 2
      apply List.filter_congr
      intro s _
      by_cases hs : s = d.token.source
      · simp [hs, hl]
      · simp [hs]
    | read hl hr =>
      simp only [hl, Option.isNone_none, if_true, List.map_cons, List.map_nil, hr.source?, List.eraseDups_cons,
        List.filter_filter, List.singleton_append]
      congr 3
      apply List.filter_congr
      intro s _
      rw [Bool.and_comm]
      rfl

end

/-- Against any ledger that answers, every draw is granted just if its counter covers it. There is one counter for each
type, and it is read once. -/
theorem drawEach_counted {σ : Type} (answer : (r : Request) → σ → r.Answer × σ) (state : σ) (tx : Transaction)
    (pool : CoinPool) (owner : String) (reserve : Int) {ts : List Token} {draws : List Draw} {es : List Exchange}
    (hes : es = ((drawEach draws).run ⟨tx, pool, .empty owner reserve⟩).exchanges answer state)
    (hdistinct : ((TokenRegistry.ofList ts).tokens.map (·.coinType)).Nodup)
    (htoken : ∀ d ∈ draws, d.token ∈ (TokenRegistry.ofList ts).tokens) (hpos : ∀ d ∈ draws, 0 < d.amount)
    (hread : ∀ e ∈ es, e.isAnswered = true)
    (hspan : ∀ d ∈ draws, ∀ e ∈ es, ∀ units, e.request.source? = some d.token.source →
      e.opening? reserve = some units → d.token.Spans (d.amount.natAbs + (-units).toNat)) :
    ∃ results w', (((drawEach draws).run ⟨tx, pool, .empty owner reserve⟩).run answer state).1 = (.ok results, w') ∧
      Counted ⟨tx, pool, .empty owner reserve⟩ draws es results w' ∧
      es.map (·.request.source?) = ((draws.map (·.token.source)).eraseDups).map some ∧
      ∀ c ∈ draws, ∀ d ∈ draws, c.token.source = d.token.source ↔ c.token.coinType = d.token.coinType := by
  have hy := Program.yields_run answer ((drawEach draws).run ⟨tx, pool, .empty owner reserve⟩) state
  cases hrun : (((drawEach draws).run ⟨tx, pool, .empty owner reserve⟩).run answer state).1 with
  | mk x w' =>
    rw [hrun, ← hes] at hy
    obtain ⟨results, rfl⟩ := exists_of_drawEach hy
    have hshown : ∀ d ∈ draws, Shown ⟨tx, pool, .empty owner reserve⟩ d es := by
      intro d hd
      refine ⟨fun units hl => ?_, hspan d hd⟩
      rw [Wallet.left_empty] at hl
      cases hl
    have hcounted := counted_of_yields Wallet.idle_empty hpos hread hshown hy
    refine ⟨results, w', rfl, hcounted, ?_, ?_⟩
    · rw [hcounted.sources]
      simp [Wallet.left_empty]
    · exact fun c hc d hd => TokenRegistry.source_eq_iff hdistinct (htoken c hc) (htoken d hd)

def mixedLedger : Script :=
  { Rehearsal.blank with
    ledger := ⟨[("0x2::sui::SUI", 10)], [("0x5::wal::WAL", [⟨"0xa", 5⟩])], [], [], none, none, none, none⟩ }

def mixedTokens : List Token := [⟨"SUI", 9, "0x2::sui::SUI"⟩, ⟨"WAL", 9, "0x5::wal::WAL"⟩]

def mixedDraws : List Draw := [
  ⟨0, ⟨"SUI", 9, "0x2::sui::SUI"⟩, 5⟩, ⟨1, ⟨"WAL", 9, "0x5::wal::WAL"⟩, 4⟩,
  ⟨2, ⟨"WAL", 9, "0x5::wal::WAL"⟩, 2⟩, ⟨3, ⟨"WAL", 9, "0x5::wal::WAL"⟩, 1⟩]

def mixedExchanges : List Exchange :=
  ((drawEach mixedDraws).run ⟨.empty "0x51", .empty, .empty "0x51" 2⟩).exchanges Rehearsal.answer (.create mixedLedger)

theorem mixedDraws_spans : ∀ d ∈ mixedDraws, ∀ e ∈ mixedExchanges, ∀ units,
    e.request.source? = some d.token.source → e.opening? 2 = some units →
      d.token.Spans (d.amount.natAbs + (-units).toNat) := by
  have hsmall : ∀ e ∈ mixedExchanges, ((e.opening? 2).all fun units => decide (units.natAbs ≤ 10)) = true := by
    decide +kernel
  have hdraws : ∀ d ∈ mixedDraws, d.token.decimals = 9 ∧ d.amount.natAbs ≤ 5 := by decide
  rintro d hd e he units - ho
  obtain ⟨hdecimals, hamount⟩ := hdraws d hd
  have hunits : units.natAbs ≤ 10 := by simpa [ho] using hsmall e he
  have hlimit : d.amount.natAbs + (-units).toNat < pow10 2 := by
    have : pow10 2 = 100 := rfl
    omega
  apply Token.spans_of_lt (by omega)
  · rw [hdecimals]
    decide
  · exact Nat.lt_of_lt_of_le hlimit (pow10_le_pow10 (by decide))

theorem drawEach_counted_mixed :
    ((TokenRegistry.ofList mixedTokens).tokens.map (·.coinType)).Nodup ∧
      (∀ d ∈ mixedDraws, d.token ∈ (TokenRegistry.ofList mixedTokens).tokens) ∧ (∀ d ∈ mixedDraws, 0 < d.amount) ∧
      (∀ e ∈ mixedExchanges, e.isAnswered = true) ∧
      ∃ results w', results.map (·.isOk) = [true, true, false, true] ∧
        Counted ⟨.empty "0x51", .empty, .empty "0x51" 2⟩ mixedDraws mixedExchanges results w' := by
  have hdistinct : ((TokenRegistry.ofList mixedTokens).tokens.map (·.coinType)).Nodup := by decide +kernel
  have htoken : ∀ d ∈ mixedDraws, d.token ∈ (TokenRegistry.ofList mixedTokens).tokens := by decide +kernel
  have hpos : ∀ d ∈ mixedDraws, 0 < d.amount := by decide
  have hread : ∀ e ∈ mixedExchanges, e.isAnswered = true := by decide +kernel
  have hresults : (((drawEach mixedDraws).run ⟨.empty "0x51", .empty, .empty "0x51" 2⟩).run Rehearsal.answer
      (.create mixedLedger)).1.1.toOption.map (List.map Except.isOk) = some [true, true, false, true] := by
    decide +kernel
  obtain ⟨results, w', hrun, hcounted, -⟩ := drawEach_counted Rehearsal.answer (.create mixedLedger) (.empty "0x51")
    .empty "0x51" 2 rfl hdistinct htoken hpos hread mixedDraws_spans
  rw [hrun] at hresults
  exact ⟨hdistinct, htoken, hpos, hread, results, w', Option.some.inj hresults, hcounted⟩

end Assembly

end LedgerFlow
