import Mathlib
import LedgerFlow.Proofs.Redemption.Shares
import LedgerFlow.Proofs.Replay.Rehearsal
import LedgerFlow.Proofs.Wallet.Counters

/-!
Draws on the coins of one type. Coins are taken into use from the largest down, and another one only when those before
it are worth less than what was drawn by then; so no smaller choice of coins is worth as much.
-/

namespace LedgerFlow

def Command.merges : Command → List (Handle × Handle)
  | .mergeCoins destination sources => sources.map (destination, ·)
  | _ => []

/-- The books of a type. Before the first draw on it they are those that its coins are entered in. -/
def Wallet.books (x : Wallet) (coinType : String) (coins : List CoinRecord) : Holding :=
  (x.holdings.lookup coinType).getD (.ofCoins coins)

namespace Holding

open CoinStore (handles merging)
open Relation (ReflTransGen)

/-- Commands that draw on the coins of a type, and the books of it after them. The coins that the commands name are the
fewest that are worth what was drawn; they were merged into the first one, each of the others once; and what the first
one still holds makes up, with what was drawn, what they were worth, also while a draw takes further coins into use. -/
structure Frugal (coins : List CoinRecord) (drawn : Int) (commands : List Command) (h : Holding) : Prop where
  among : h.used ⊆ coins
  distinct : (h.used.map (·.objectId)).Nodup
  named : (commands.flatMap Command.objects).toFinset = (h.used.map (·.objectId)).toFinset
  enough : drawn ≤ total h.used
  fewest : ∀ others ⊆ coins.toFinset, drawn ≤ ∑ c ∈ others, c.balance →
    (commands.flatMap Command.objects).toFinset.card ≤ others.card
  merged : commands.flatMap Command.merges = h.used.tail.map fun c => (h.primary, .object c.objectId)
  spent : h.spent = drawn
  balanced : ∀ amount x, ReflTransGen (Turn amount) h x → x.balance + x.spent = total x.used

/-! The largest coins -/

section

variable {cs sub : List CoinRecord} {c : CoinRecord} {k : Nat}

theorem total_eq_sum (hd : cs.Nodup) : total cs = ∑ c ∈ cs.toFinset, c.balance := by
  induction cs with
  | nil => rfl
  | cons c rest ih =>
    obtain ⟨hc, hrest⟩ := List.nodup_cons.1 hd
    rw [total, ih hrest, List.toFinset_cons, Finset.sum_insert (by rwa [List.mem_toFinset])]

theorem pairwise_ofCoins (cs : List CoinRecord) : (ofCoins cs).unused.Pairwise fun a b => b.balance ≤ a.balance := by
  have htrans (a b c : CoinRecord) (hab : decide (b.balance ≤ a.balance) = true)
      (hbc : decide (c.balance ≤ b.balance) = true) : decide (c.balance ≤ a.balance) = true := by
    rw [decide_eq_true_eq] at *
    omega
  have htotal (a b : CoinRecord) : (decide (b.balance ≤ a.balance) || decide (a.balance ≤ b.balance)) = true := by
    rw [Bool.or_eq_true, decide_eq_true_eq, decide_eq_true_eq]
    omega
  have h := List.pairwise_mergeSort htrans htotal cs
  exact h.imp of_decide_eq_true

theorem total_take_le_cons (h : (c :: cs).Pairwise fun a b => b.balance ≤ a.balance) (hk : k ≤ cs.length) :
    total (cs.take k) ≤ total ((c :: cs).take k) := by
  induction cs generalizing c k with
  | nil =>
    obtain rfl := Nat.le_zero.1 hk
    rfl
  | cons d rest ih =>
    cases k with
    | zero => rfl
    | succ k =>
      have hd := List.rel_of_pairwise_cons h List.mem_cons_self
      have hrest := ih h.of_cons (Nat.le_of_succ_le_succ hk)
      simp only [List.take_succ_cons, total]
      omega

theorem total_le_total_take (h : sub.Sublist cs) (hcs : cs.Pairwise fun a b => b.balance ≤ a.balance) :
    total sub ≤ total (cs.take sub.length) := by
  induction h with
  | slnil => rfl
  | cons c h ih => exact (ih hcs.of_cons).trans (total_take_le_cons hcs h.length_le)
  | cons_cons c h ih =>
    simp only [List.length_cons, List.take_succ_cons, total]
    have := ih hcs.of_cons
    omega

theorem sum_le_total_take {others : Finset CoinRecord} (hcs : cs.Pairwise fun a b => b.balance ≤ a.balance)
    (hd : cs.Nodup) (ho : others ⊆ cs.toFinset) : ∑ c ∈ others, c.balance ≤ total (cs.take others.card) := by
  have hsub : (cs.filter (· ∈ others)).toFinset = others := by
    ext c
    simpa using fun hc => List.mem_toFinset.1 (ho hc)
  have hnodup : (cs.filter (· ∈ others)).Nodup := hd.filter _
  have hcard : (cs.filter (· ∈ others)).length = others.card := by
    rw [← List.toFinset_card_of_nodup hnodup, hsub]
  have hsum : ∑ c ∈ others, c.balance = total (cs.filter (· ∈ others)) := by
    rw [total_eq_sum hnodup, hsub]
  rw [hsum, ← hcard]
  exact total_le_total_take List.filter_sublist hcs

end

/-! The books after each draw -/

/-- What the books keep from one draw to the next. -/
structure Booked (coins : List CoinRecord) (drawn : Int) (commands : List Command) (h : Holding) : Prop where
  listed : h.used ++ h.unused = (ofCoins coins).unused
  idle : h.Idle
  solvent : 0 ≤ h.balance
  spent : h.spent = drawn
  balanced : h.balance + h.spent = total h.used
  scant : ∀ k < h.used.length, total (h.used.take k) < drawn
  named : ∀ id, id ∈ commands.flatMap Command.objects ↔ id ∈ h.used.map (·.objectId)
  merged : commands.flatMap Command.merges = h.used.tail.map fun c => (h.primary, .object c.objectId)

section

variable {coins rest : List CoinRecord} {c : CoinRecord} {drawn balance amount : Int} {commands : List Command}
  {h : Holding} {k : Nat}

theorem booked_ofCoins (coins : List CoinRecord) : Booked coins 0 [] (ofCoins coins) where
  listed := rfl
  idle _ := rfl
  solvent := Int.le_refl 0
  spent := rfl
  balanced := rfl
  scant _ hk := absurd hk (Nat.not_lt_zero _)
  named _ := Iff.rfl
  merged := rfl

theorem Turn.balanced {x y : Holding} (ht : Turn amount x y) (hx : x.balance + x.spent = total x.used) :
    y.balance + y.spent = total y.used := by
  cases ht
  simp only [total_append, total] at *
  omega

theorem balanced_of_turns {x y : Holding} (ht : ReflTransGen (Turn amount) x y)
    (hx : x.balance + x.spent = total x.used) :
    y.balance + y.spent = total y.used := by
  induction ht with
  | refl => exact hx
  | tail _ hy ih => exact hy.balanced ih

theorem total_take_lt (hk : k < needed balance amount coins) : balance + total (coins.take k) < amount := by
  induction coins generalizing balance k with
  | nil => exact absurd hk (Nat.not_lt_zero k)
  | cons c rest ih =>
    unfold needed at hk
    split at hk
    · next hshort =>
      cases k with
      | zero => simpa [total] using hshort
      | succ k =>
        have := ih (Nat.lt_of_succ_lt_succ hk)
        rw [List.take_succ_cons, total]
        omega
    · exact absurd hk (Nat.not_lt_zero k)

theorem exists_taken (hu : (h.gather amount).used = c :: rest) :
    ∃ taken, rest = h.used.tail ++ taken ∧ h.merged (h.gather amount) = handles taken ∧
      (h.used = [] ∨ h.used = c :: h.used.tail) := by
  have hall : h.used ++ h.unused.take (needed h.balance amount h.unused) = c :: rest := hu
  cases hused : h.used with
  | nil => exact ⟨rest, rfl, by simp [merged, hu, hused, handles], .inl rfl⟩
  | cons d us =>
    rw [hused, List.cons_append, List.cons.injEq] at hall
    obtain ⟨rfl, rfl⟩ := hall
    exact ⟨_, rfl, by simp [merged, hu, hused, handles], .inr rfl⟩

def drawing (first : CoinRecord) (taken : List CoinRecord) (amount : Int) : List Command :=
  merging (.object first.objectId) (handles taken) ++ [.splitCoins (.object first.objectId) [amount]]

theorem merges_drawing (c : CoinRecord) (taken : List CoinRecord) (amount : Int) :
    (drawing c taken amount).flatMap Command.merges =
      taken.map fun d => (.object c.objectId, .object d.objectId) := by
  cases taken <;> simp [drawing, merging, handles, Command.merges]

theorem mem_objects_drawing {id : String} {taken : List CoinRecord} :
    id ∈ (drawing c taken amount).flatMap Command.objects ↔ id ∈ (c :: taken).map (·.objectId) :=
  List.mem_flatMap.trans (Redemption.mem_objects (r := ⟨"", c :: taken, amount⟩) (List.cons_ne_nil _ _))

theorem Booked.scant_gather (hb : Booked coins drawn commands h) (hpos : 0 < amount)
    (hk : k < (h.gather amount).used.length) : total ((h.gather amount).used.take k) < drawn + amount := by
  simp only [gather, List.length_append, List.length_take] at hk
  have hspent := hb.spent
  have hbalanced := hb.balanced
  rw [gather, List.take_append, total_append]
  by_cases hlt : k < h.used.length
  · have hscant := hb.scant k hlt
    rw [Nat.sub_eq_zero_of_le hlt.le, List.take_zero, total]
    omega
  · have hshort : h.balance + total (h.unused.take (k - h.used.length)) < amount := total_take_lt (by omega)
    rw [List.take_of_length_le (Nat.le_of_not_lt hlt), List.take_take, Nat.min_eq_left (by omega)]
    omega

theorem Booked.draw {taken : List CoinRecord} (hb : Booked coins drawn commands h) (hpos : 0 < amount)
    (hle : amount ≤ h.remaining) (hu : (h.gather amount).used = c :: (h.used.tail ++ taken))
    (hfirst : h.used = [] ∨ h.used = c :: h.used.tail) :
    Booked coins (drawn + amount) (commands ++ drawing c taken amount) ((h.gather amount).spend amount) := by
  have henough : amount ≤ (h.gather amount).balance := le_total_take hle
  have hbalanced := balanced_of_turns (turns_gather amount h) hb.balanced
  have hused : ((h.gather amount).spend amount).used = c :: (h.used.tail ++ taken) := hu
  constructor
  case listed => exact (gather_coins h amount).trans hb.listed
  case idle => exact fun hnil => absurd (hused.symm.trans hnil) (List.cons_ne_nil _ _)
  case solvent =>
    simp only [spend]
    omega
  case spent => simp only [spend, gather, hb.spent]
  case balanced =>
    simp only [spend] at *
    omega
  case scant => exact fun k hk => hb.scant_gather hpos hk
  case named =>
    intro id
    rw [List.flatMap_append, List.mem_append, hb.named, mem_objects_drawing, hused]
    obtain hnil | hcons := hfirst
    · simp [hnil]
    · rw [hcons]
      simp only [List.tail_cons, List.map_cons, List.map_append, List.mem_cons, List.mem_append]
      tauto
  case merged =>
    have hprimary : ((h.gather amount).spend amount).primary = .object c.objectId := by rw [primary, hused]
    rw [List.flatMap_append, hb.merged, merges_drawing, hprimary, hused, List.tail_cons, List.map_append]
    congr 1
    obtain hnil | hcons := hfirst
    · simp [hnil]
    · have hsame : h.primary = .object c.objectId := by rw [primary, hcons]
      rw [hsame]

theorem Booked.frugal (hb : Booked coins drawn commands h) (hd : (coins.map (·.objectId)).Nodup) :
    Frugal coins drawn commands h := by
  have hperm : (h.used ++ h.unused).Perm coins := hb.listed ▸ List.mergeSort_perm _ _
  have hids : ((h.used ++ h.unused).map (·.objectId)).Nodup := (hperm.map _).nodup_iff.2 hd
  have hused : (h.used.map (·.objectId)).Nodup := by
    rw [List.map_append] at hids
    exact (List.nodup_append.1 hids).1
  have hnamed : (commands.flatMap Command.objects).toFinset = (h.used.map (·.objectId)).toFinset := by
    ext id
    rw [List.mem_toFinset, List.mem_toFinset, hb.named]
  have hbalanced := hb.balanced
  have hsolvent := hb.solvent
  refine ⟨?_, hused, hnamed, ?_, ?_, hb.merged, hb.spent, fun _ _ ht => balanced_of_turns ht hbalanced⟩
  · exact fun c hc => hperm.mem_iff.1 (List.mem_append_left _ hc)
  · rw [← hb.spent]
    omega
  · intro others ho hworth
    rw [hnamed, List.toFinset_card_of_nodup hused, List.length_map]
    by_contra hlt
    have hlt : others.card < h.used.length := Nat.lt_of_not_le hlt
    have hbest : ∑ c ∈ others, c.balance ≤ total ((h.used ++ h.unused).take others.card) := by
      refine sum_le_total_take (hb.listed ▸ pairwise_ofCoins coins) (List.Nodup.of_map _ hids) ?_
      rwa [List.toFinset_eq_of_perm _ _ hperm]
    have hscant := hb.scant _ hlt
    rw [List.take_append_of_le_length hlt.le] at hbest
    omega

end

end Holding

namespace Assembly

section

variable {w w' : Workspace} {coinType : String} {coins : List CoinRecord} {d : Draw} {draws : List Draw}
  {es : List Exchange} {r : Except Fault Handle} {results : List (Except Fault Handle)} {drawn : Int}
  {commands : List Command}

def Listed (owner coinType : String) (coins : List CoinRecord) (es : List Exchange) : Prop :=
  ∀ found, (⟨.coins owner coinType, .ok found⟩ : Exchange) ∈ es → found = coins

theorem books_of_opens {x y : Wallet} {t : Token} {units : Int} (ho : x.Opens t es units y) (hn : t.isNative = false)
    (hlisted : Listed x.owner t.coinType coins es) : y.books t.coinType coins = x.books t.coinType coins := by
  cases ho with
  | known => rfl
  | read hl hr =>
    cases hr with
    | native hnative => exact nomatch hn.symm.trans hnative
    | @coins found =>
      obtain rfl := hlisted found List.mem_cons_self
      rw [Wallet.source_of_coins hn] at hl
      have hnone : x.holdings.lookup t.coinType = none := Option.map_eq_none_iff.1 hl
      simp [Wallet.books, Wallet.setHolding, Json.lookup_put, hnone]

theorem booked_of_draw (hi : w.wallet.Idle) (hsource : d.token.source = .coins coinType) (hpos : 0 < d.amount)
    (hlisted : Listed w.wallet.owner coinType coins es)
    (hb : Holding.Booked coins drawn commands (w.wallet.books coinType coins))
    (hy : ((draw d.step d.token d.amount).run w).Yields es (r, w')) (hok : r.isOk = true) :
    w'.wallet.Idle ∧ w'.wallet.owner = w.wallet.owner ∧ ∃ more, w'.tx.commands = w.tx.commands ++ more ∧
      Holding.Booked coins (drawn + d.amount) (commands ++ more) (w'.wallet.books coinType coins) := by
  obtain ⟨hn, rfl⟩ := Wallet.source_eq_coins.1 hsource
  cases drawn_of_yields hi hpos hy with
  | unanswered => cases hok
  | refused => cases hok
  | @granted es units opened next source merged ho hle hp =>
    have hopened := books_of_opens ho hn hlisted
    have hleft := ho.left
    refine ⟨hp.idle (ho.idle hi), hp.same.1.trans ho.same.1, ?_⟩
    cases hp with
    | native hnative => exact nomatch hn.symm.trans hnative
    | @coins h c rest _ hl _ hu =>
      have hbooks : opened.books d.token.coinType coins = h := by rw [Wallet.books, hl, Option.getD_some]
      have hunits : h.remaining = units := by simpa [hsource, Wallet.left, hl] using hleft
      rw [← hopened, hbooks] at hb
      obtain ⟨taken, rfl, hmerged, hfirst⟩ := Holding.exists_taken hu
      refine ⟨Holding.drawing c taken d.amount, ?_, ?_⟩
      · rw [Transaction.append, CoinStore.commands_merge, List.append_assoc, hmerged, Holding.drawing]
      · have hafter : (opened.setHolding d.token.coinType ((h.gather d.amount).spend d.amount)).books
            d.token.coinType coins = (h.gather d.amount).spend d.amount := by
          simp [Wallet.books, Wallet.setHolding, Json.lookup_put]
        rw [hafter]
        exact hb.draw hpos (hunits ▸ hle) hu hfirst

theorem booked_of_drawEach (hi : w.wallet.Idle) (hsource : ∀ d ∈ draws, d.token.source = .coins coinType)
    (hpos : ∀ d ∈ draws, 0 < d.amount) (hlisted : Listed w.wallet.owner coinType coins es)
    (hb : Holding.Booked coins drawn commands (w.wallet.books coinType coins))
    (hy : Yields (drawEach draws) w es results w') (hok : ∀ r ∈ results, r.isOk = true) :
    ∃ more, w'.tx.commands = w.tx.commands ++ more ∧
      Holding.Booked coins (drawn + totalUnits (draws.map (·.amount))) (commands ++ more)
        (w'.wallet.books coinType coins) := by
  induction draws generalizing w es results drawn commands with
  | nil =>
    obtain ⟨-, -, rfl⟩ := yields_pure.1 hy
    exact ⟨[], by simp, by simpa [totalUnits] using hb⟩
  | cons d rest ih =>
    obtain ⟨es₁, r, w₁, es₂, results, rfl, rfl, hd, hrest⟩ := yields_drawEach_cons.1 hy
    obtain ⟨hi₁, howner, cs₁, hcs₁, hb₁⟩ := booked_of_draw hi (hsource d List.mem_cons_self) (hpos d List.mem_cons_self)
      (fun found hf => hlisted found (List.mem_append_left _ hf)) hb hd (hok r List.mem_cons_self)
    obtain ⟨cs₂, hcs₂, hb₂⟩ := ih hi₁ (fun d hd => hsource d (.tail _ hd)) (fun d hd => hpos d (.tail _ hd))
      (fun found hf => hlisted found (List.mem_append_right _ (howner ▸ hf))) hb₁ hrest
      (fun r hr => hok r (.tail _ hr))
    refine ⟨cs₁ ++ cs₂, by rw [hcs₂, hcs₁, List.append_assoc], ?_⟩
    rw [List.map_cons, totalUnits, ← Int.add_assoc, ← List.append_assoc]
    exact hb₂

/-- Whatever part of some draws on one type has been carried out, the coins in use by then are the fewest that are worth
as much. -/
theorem drawEach_frugal (hi : w.wallet.Idle) (hnew : w.wallet.holdings.lookup coinType = none)
    (hsource : ∀ d ∈ draws, d.token.source = .coins coinType) (hpos : ∀ d ∈ draws, 0 < d.amount)
    (hlisted : Listed w.wallet.owner coinType coins es) (hdistinct : (coins.map (·.objectId)).Nodup)
    (hy : Yields (drawEach draws) w es results w') (hok : ∀ r ∈ results, r.isOk = true) :
    ∀ before after, draws = before ++ after → ∃ es₁ es₂ results₁ results₂ w₁ commands,
      es = es₁ ++ es₂ ∧ results = results₁ ++ results₂ ∧ Yields (drawEach before) w es₁ results₁ w₁ ∧
      Yields (drawEach after) w₁ es₂ results₂ w' ∧ w₁.tx.commands = w.tx.commands ++ commands ∧
      Holding.Frugal coins (totalUnits (before.map (·.amount))) commands (w₁.wallet.books coinType coins) := by
  rintro before after rfl
  obtain ⟨es₁, es₂, results₁, results₂, w₁, rfl, rfl, hbefore, hafter⟩ := exists_of_drawEach_append hy
  have hopening : w.wallet.books coinType coins = .ofCoins coins := by rw [Wallet.books, hnew, Option.getD_none]
  obtain ⟨commands, hcommands, hb⟩ := booked_of_drawEach hi (fun d hd => hsource d (List.mem_append_left _ hd))
    (fun d hd => hpos d (List.mem_append_left _ hd)) (fun found hf => hlisted found (List.mem_append_left _ hf))
    (hopening ▸ Holding.booked_ofCoins coins) hbefore (fun r hr => hok r (List.mem_append_left _ hr))
  rw [Int.zero_add, List.nil_append] at hb
  exact ⟨es₁, es₂, results₁, results₂, w₁, commands, rfl, rfl, hbefore, hafter, hcommands, hb.frugal hdistinct⟩

end

def walType : String := "0x5::wal::WAL"

def walHolder : Ledger where
  native := 10
  coins := [(walType, [⟨"0xa", 2⟩, ⟨"0xb", 5⟩, ⟨"0xc", 3⟩])]
  owned := []
  distinct := by decide

def walScript : Script :=
  { Rehearsal.blank with ledger := ⟨[(nativeCoinType, 10)], walHolder.coins, [], [], none, none, none, none⟩ }

def walDraws : List Draw := [
  ⟨0, ⟨"WAL", 9, walType⟩, 4⟩, ⟨1, ⟨"WAL", 9, walType⟩, 1⟩, ⟨2, ⟨"WAL", 9, walType⟩, 3⟩]

def walRun : Program (Except Fault (List (Except Fault Handle)) × Workspace) :=
  (drawEach walDraws).run ⟨.empty "0x51", .empty, .empty "0x51" 0⟩

theorem drawEach_frugal_wal : ∃ es results w',
    Yields (drawEach walDraws) ⟨.empty "0x51", .empty, .empty "0x51" 0⟩ es results w' ∧
    (∀ r ∈ results, r.isOk = true) ∧
    Holding.Frugal (walHolder.coinsOf walType) 8 w'.tx.commands (w'.wallet.books walType (walHolder.coinsOf walType)) ∧
    w'.tx.commands.flatMap Command.objects = ["0xb", "0xb", "0xb", "0xc", "0xb"] := by
  have hsource : ∀ d ∈ walDraws, d.token.source = .coins walType := by decide +kernel
  have hpos : ∀ d ∈ walDraws, 0 < d.amount := by decide
  have hlisted : Listed "0x51" walType (walHolder.coinsOf walType)
      (walRun.exchanges Rehearsal.answer (.create walScript)) := by
    intro found hf
    exact (Rehearsal.answers_exchanges walRun (s := .create walScript) ⟨rfl, rfl, rfl⟩ _ hf).1
  have hgranted : (Rehearsal.perform walRun (.create walScript)).1.1.toOption.map (·.all (·.isOk)) = some true := by
    cbv
  have hnamed : (Rehearsal.perform walRun (.create walScript)).1.2.tx.commands.flatMap Command.objects =
      ["0xb", "0xb", "0xb", "0xc", "0xb"] := by
    cbv
  have hy := Rehearsal.yields_perform walRun (.create walScript)
  cases hrun : (Rehearsal.perform walRun (.create walScript)).1 with
  | mk x w' =>
    rw [hrun] at hy hgranted hnamed
    cases x with
    | error f => cases hgranted
    | ok results =>
      have hok : ∀ r ∈ results, r.isOk = true := List.all_eq_true.1 (Option.some.inj hgranted)
      obtain ⟨es₁, es₂, results₁, results₂, w₁, commands, -, -, -, hrest, hcommands, hfrugal⟩ :=
        drawEach_frugal Wallet.idle_empty rfl hsource hpos hlisted (by decide) hy hok walDraws []
          (List.append_nil _).symm
      obtain ⟨-, -, rfl⟩ := yields_pure.1 hrest
      obtain rfl : w'.tx.commands = commands := hcommands
      exact ⟨_, results, w', hy, hok, hfrugal, hnamed⟩

end Assembly

end LedgerFlow
