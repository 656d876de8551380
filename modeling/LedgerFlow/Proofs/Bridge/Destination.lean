import LedgerFlow.Proofs.Bridge.Scope
import LedgerFlow.Proofs.Names.Addresses
import LedgerFlow.Proofs.Run.Preparation
import LedgerFlow.Proofs.Text.Points
import Mathlib.Data.List.TakeWhile

namespace LedgerFlow

namespace Text

theorem marked?_of_isBlank {c : Char} (h : isBlank c = true) : marked? c = none := by
  have hn : c.toNat < 0xE000 := by
    simp only [isBlank, isSpace, Bool.or_eq_true, Bool.and_eq_true, decide_eq_true_eq, beq_iff_eq] at h
    omega
  have hne : c ≠ mark := by
    rintro rfl
    exact absurd hn (by decide)
  rw [marked?, if_neg hne, dif_neg (by omega)]

theorem length_points_append {blanks : List Char} (h : ∀ c ∈ blanks, isBlank c = true) (front : List Char) :
    (points (front ++ blanks)).length = (points front).length + blanks.length := by
  induction blanks generalizing front with
  | nil => simp
  | cons c rest ih =>
    have hc := marked?_of_isBlank (h c List.mem_cons_self)
    have hrest := ih (fun d hd => h d (.tail _ hd)) []
    rw [List.nil_append, points] at hrest
    rw [points_append_cons hc, List.length_append, List.length_cons, hrest, List.length_cons, List.length_nil]
    omega

theorem trimBy_append (skip : Char → Bool) (cs : List Char) :
    ∃ blanks, (∀ c ∈ blanks, skip c = true) ∧ cs.dropWhile skip = trimBy skip cs ++ blanks := by
  refine ⟨((cs.dropWhile skip).reverse.takeWhile skip).reverse, fun c hc => ?_, ?_⟩
  · exact List.mem_takeWhile_imp (List.mem_reverse.1 hc)
  · rw [trimBy, ← List.reverse_append, List.takeWhile_append_dropWhile, List.reverse_reverse]

theorem size_trim {s : String} {c : Char} {cs : List Char} (hs : s.toList = c :: cs) (hc : isBlank c = false) :
    size (trim s) = size s ↔ trim s = s := by
  constructor
  · intro h
    obtain ⟨blanks, hblanks, happend⟩ := trimBy_append isBlank s.toList
    have hkept : s.toList.dropWhile isBlank = s.toList := by rw [hs, List.dropWhile_cons_of_neg (by simp [hc])]
    rw [hkept] at happend
    have hlength := length_points_append hblanks (trimBy isBlank s.toList)
    rw [← happend] at hlength
    have hzero : blanks.length = 0 := by
      simp only [size, pointsOf, trim, String.toList_ofList] at h
      omega
    rw [List.eq_nil_of_length_eq_zero hzero, List.append_nil] at happend
    rw [trim, ← happend, String.ofList_toList]
  · intro h
    rw [h]

end Text

namespace Bridge

variable {c : Setting} {s : Step} {d : BridgeData} {request : RouteRequest}

theorem literal_of_checkBridge {rules : Validation.Rules} (h : Validation.checkBridge rules d = .ok ())
    {destination : String} (hd : d.ethereumAddress = some destination)
    (hform : NameForm.isForeignName destination = false) :
    "0x".isPrefixOf destination = true ∧ Text.size destination = 42 := by
  obtain ⟨stated, ⟨hstated, -⟩, hreach⟩ := (Validation.checkBridge_eq_ok.1 h).destination
  cases hd.symm.trans hstated
  rwa [Validation.Rules.Reach, if_neg (by simp [hform])] at hreach

theorem size_trim_of_literal {destination : String} (h : "0x".isPrefixOf destination = true) :
    Text.size (Text.trim destination) = Text.size destination ↔ Text.trim destination = destination := by
  obtain ⟨rest, hrest⟩ := String.startsWith_string_iff.1 h
  exact Text.size_trim hrest.symm (by decide)

/-- The address of a checked bridge's request is the one for its destination. Where the destination is an address of 42
characters and no name, it is sent as it was written only if no blanks are among the 42. -/
theorem toAddress_of_validateSteps {tokens : TokenRegistry} {resolver strict : Bool} {steps : List Step}
    {es : List Exchange} (hn : (resolveNames resolver steps).Yields es (.ok c.names))
    (hv : validateSteps ⟨tokens, c.names, strict⟩ steps = .ok ()) (hs : s ∈ steps) (hd : s.node.data = .bridge d)
    (hr : routeRequest c s d = .ok request) :
    ∃ destination, d.ethereumAddress = some destination ∧
      Addressed true steps es destination request.toAddress ∧
      (NameForm.isForeignName destination = false →
        "0x".isPrefixOf destination = true ∧ Text.size destination = 42 ∧
        (request.toAddress = Text.trim destination →
          (Text.size request.toAddress = 42 ↔ request.toAddress = destination))) := by
  obtain ⟨asset, destination, n, -, haddress, -, -, hto⟩ := routeRequest_eq_ok hr
  refine ⟨destination, haddress, ?_, fun hform => ?_⟩
  · have hneeds : NameForm.isName true destination = true → s.node.nameToResolve? = some destination := by
      intro hform
      have hform : NameForm.isForeignName destination = true := hform
      simp [Node.nameToResolve?, hd, haddress, hform]
    exact hto ▸ addressed_lookup hn hs hneeds
  · have hchecked := Validation.checkBridge_of_checkNode (checkNode_of_validateSteps hv s hs) hd
    obtain ⟨hstart, hsize⟩ := literal_of_checkBridge hchecked haddress hform
    refine ⟨hstart, hsize, fun htrim => ?_⟩
    rw [htrim, ← hsize]
    exact size_trim_of_literal hstart

def padded : BridgeData :=
  ⟨some "USDC", some "USDC", some "arbitrum", some 10, some "0x71C7656EC7ab88b098defB751B7401B5f6d8976 ", "none"⟩

def paddedSteps : List Step := [.of 0 (.bridge padded)]

def plainSetting : Setting := ⟨"0x51", .empty, defaultAttempts, defaultTrackingBase, .heading⟩

def paddedRequest : RouteRequest where
  fromChainId := Chain.sourceChainId
  toChainId := 42161
  fromTokenAddress := "0x5d4b302506645c37ff133b98c4b50a5ae14841659738d6d733d59d0d217a93bf::coin::COIN"
  toTokenAddress := "0xaf88d065e77c8cC2239327C5EDb3A432268e5831"
  fromAmount := "10000000"
  fromAddress := "0x51"
  toAddress := "0x71C7656EC7ab88b098defB751B7401B5f6d8976"
  denyBridges := []
  order := RouteRequest.recommended

theorem padded_accepted :
    validateSteps ⟨.standard, plainSetting.names, false⟩ paddedSteps = .ok () ∧
      routeRequest plainSetting (.of 0 (.bridge padded)) padded = .ok paddedRequest ∧ collectNames paddedSteps = [] := by
  rw [except_eq_ok, except_eq_ok]
  decide +kernel

theorem unnamed_paddedSteps : (resolveNames false paddedSteps).Yields [] (.ok plainSetting.names) := by
  rw [resolveNames, padded_accepted.2.2, NameTable.extend]
  exact Engine.yields_pure.2 ⟨rfl, rfl⟩

theorem toAddress_of_validateSteps_padded :
    ∃ destination, padded.ethereumAddress = some destination ∧
      Addressed true paddedSteps [] destination paddedRequest.toAddress ∧
      (NameForm.isForeignName destination = false →
        "0x".isPrefixOf destination = true ∧ Text.size destination = 42 ∧
        (paddedRequest.toAddress = Text.trim destination →
          (Text.size paddedRequest.toAddress = 42 ↔ paddedRequest.toAddress = destination))) :=
  toAddress_of_validateSteps unnamed_paddedSteps padded_accepted.1 List.mem_cons_self rfl padded_accepted.2.1

/-- It passes its check, and the request for its routes asks for an address of 41 characters. -/
theorem padded_shortened :
    (resolveNames false paddedSteps).Yields [] (.ok plainSetting.names) ∧
      validateSteps ⟨.standard, plainSetting.names, false⟩ paddedSteps = .ok () ∧
      NameForm.isForeignName "0x71C7656EC7ab88b098defB751B7401B5f6d8976 " = false ∧
      routeRequest plainSetting (.of 0 (.bridge padded)) padded = .ok paddedRequest ∧
      Text.size paddedRequest.toAddress = 41 ∧ some paddedRequest.toAddress ≠ padded.ethereumAddress :=
  ⟨unnamed_paddedSteps, padded_accepted.1, by decide, padded_accepted.2.1, by decide, by decide⟩

end Bridge

end LedgerFlow
