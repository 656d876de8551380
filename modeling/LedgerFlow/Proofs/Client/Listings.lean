import Mathlib
import LedgerFlow.Client.Ledger
import LedgerFlow.Proofs.Client.Bodies
import LedgerFlow.Proofs.Exchange

namespace LedgerFlow.Client

structure Reaches (url : String) (u : Web.Url) : Prop where
  target : Web.Url.target url = .ok u
  host : HttpRequest.checkHost u = .ok ()
  absolute : u.isAbsolute = true

/-- The node answered the call, and this is the result. -/
def HttpAnswer.Carries (a : HttpAnswer) (result : Json) : Prop :=
  ∃ (r : HttpResponse) (body : Json), a = .response r.status r.text ∧ r.isSuccess = true ∧ r.json = .ok body ∧
    body.get? "result" = some result ∧ (body.field "error").isTruthy = false

namespace Listing

def entries (page : Json) : List Json := ((page.get? "data").getD (.array [])).toList

def hasMore (page : Json) : Bool := (page.field "hasNextPage").isTruthy

def nextCursor (page : Json) : Json := page.field "nextCursor"

/-- A page is an object. Its data, if it has any, are a list, and if another page follows, its cursor can be sent. -/
structure IsPage (page : Json) : Prop where
  object : ∃ ms, page = .object ms
  list : ∃ vs, (page.get? "data").getD (.array []) = .array vs
  cursor : hasMore page = true → CanBeSent (nextCursor page)

/-- Pages of which the last one, and no other, says that there is none after it. -/
structure IsListing (earlier : List Json) (last : Json) : Prop where
  pages : ∀ p ∈ earlier ++ [last], IsPage p
  more : ∀ p ∈ earlier, hasMore p = true
  done : hasMore last = false

theorem IsListing.tail {page last : Json} {earlier : List Json} (h : IsListing (page :: earlier) last) :
    IsListing earlier last :=
  ⟨fun p hp => h.pages p (.tail _ hp), fun p hp => h.more p (.tail _ hp), h.done⟩

def coin? (entry : Json) : Option ListedCoin := do
  let id ← entry.get? "coinObjectId"
  let balance ← entry.get? "balance"
  let units ← (Observation.integer balance).toOption
  return ⟨id, units⟩

def object? (entry : Json) : Option Json := ((entry.field "data").get? "objectId").filter Json.isTruthy

/-- An entry of a list of objects. The data of a deleted one are missing. -/
def IsObjectEntry (entry : Json) : Prop :=
  (∃ ms, entry = .object ms) ∧ ((entry.field "data").isTruthy = true → ∃ ms, entry.field "data" = .object ms)

def pageRequest (u : Web.Url) (method : String) (id : Nat) (params : List Json) : HttpRequest where
  method := "POST"
  url := u.text
  headers := []
  body := .object [("jsonrpc", .string "2.0"), ("id", .int id), ("method", .string method),
    ("params", .array params)]

/-- One request for each cursor, with numbers that follow each other. -/
def pageRequests (u : Web.Url) (method : String) (firstId : Nat) (params : Json → List Json) (cursors : List Json) :
    List HttpRequest :=
  cursors.mapIdx fun i cursor => pageRequest u method (firstId + i) (params cursor)

/-- The first page has no cursor, and each other one that which the page before it gave. -/
def cursors (earlier : List Json) : List Json := .null :: earlier.map nextCursor

end Listing

namespace LedgerNode

open Listing

def asked (n : LedgerNode) (requests : List HttpRequest) (rest : List HttpAnswer) : LedgerNode :=
  { n with nextId := n.nextId + requests.length, link := ⟨rest, n.link.sent ++ requests⟩ }

section

variable {n : LedgerNode} {u : Web.Url} {method : String} {params : List Json} {a : HttpAnswer}
  {rest : List HttpAnswer} {v : Json}

theorem readResponse_of_carries {r : HttpResponse} {body : Json} (hok : r.isSuccess = true) (hjson : r.json = .ok body)
    (hresult : body.get? "result" = some v) (herror : (body.field "error").isTruthy = false) :
    readResponse method r = .ok v := by
  cases body with
  | object ms =>
    have hr : ms.lookup "result" = some v := hresult
    have he : ((ms.lookup "error").getD .null).isTruthy = false := herror
    simp [readResponse, hok, hjson, resultOf, memberOr, bind, Except.bind, he, hr]
  | _ => cases hresult

theorem canBeSent_requestOf (hmethod : CanBeSent (.string method))
    (hparams : CanBeSent (.array params)) : CanBeSent (n.requestOf method (.array params)).body := by
  apply canBeSent_object
  · have hkeys : ∀ key ∈ ["jsonrpc", "id", "method", "params"], CanBeSent (.string key) := by
      intro key hkey
      exact canBeSent_string (by revert key; decide)
    intro m hm
    exact hkeys m.1 (List.mem_map_of_mem hm)
  · have hversion : CanBeSent (.string "2.0") := canBeSent_string rfl
    simp [hversion, canBeSent_int, hmethod, hparams]

theorem target_requestOf (hreach : Reaches n.url u) (hmethod : CanBeSent (.string method))
    (hparams : CanBeSent (.array params)) : (n.requestOf method (.array params)).target = .ok u := by
  obtain ⟨text, htext⟩ := canBeSent_requestOf (n := n) hmethod hparams
  have htarget : Web.Url.target (n.requestOf method (.array params)).url = .ok u := hreach.target
  have hheaders : (n.requestOf method (.array params)).headers = [] := rfl
  simp [HttpRequest.target, htarget, hheaders, htext, hreach.host, bind, Except.bind, pure, Except.pure, discard,
    Functor.discard, Functor.mapConst, Except.map]

theorem call_of_carries (hreach : Reaches n.url u) (hmethod : CanBeSent (.string method))
    (hparams : CanBeSent (.array params)) (hleft : n.link.answers = a :: rest) (hcarries : a.Carries v) :
    n.call method (.array params) = (.ok v, n.asked [pageRequest u method n.nextId params] rest) := by
  obtain ⟨r, body, rfl, hok, hjson, hresult, herror⟩ := hcarries
  have hexchange : n.link.exchange (n.requestOf method (.array params)) =
      (.ok r, ⟨rest, n.link.sent ++ [pageRequest u method n.nextId params]⟩) := by
    rw [Connection.exchange, target_requestOf hreach hmethod hparams, hleft]
    simp [Connection.received, hreach.absolute, requestOf, pageRequest]
  rw [call, hexchange]
  simp [readResponse_of_carries hok hjson hresult herror, asked]

end

section

variable {α : Type} {read : Json → Except Fault (List α)} {usable : Json → Option α}

theorem mapM_of_read {es : List Json} (h : ∀ e ∈ es, read e = .ok (usable e).toList) :
    es.mapM read = .ok (es.map fun e => (usable e).toList) := by
  induction es with
  | nil => rfl
  | cons e rest ih =>
    obtain ⟨he, hrest⟩ := List.forall_mem_cons.1 h
    rw [List.mapM_cons, he, ih hrest]
    rfl

theorem readPage_of_isPage {page : Json} (hpage : IsPage page)
    (h : ∀ e ∈ entries page, read e = .ok (usable e).toList) :
    readPage read page =
      .ok ⟨(entries page).filterMap usable, if hasMore page then some (nextCursor page) else none⟩ := by
  obtain ⟨ms, rfl⟩ := hpage.object
  obtain ⟨vs, hvs⟩ := hpage.list
  have hdata : (ms.lookup "data").getD (.array []) = .array vs := hvs
  have hentries : entries (.object ms) = vs := by rw [entries, hvs, Json.toList]
  rw [hentries] at h ⊢
  have hflat : (vs.map fun e => (usable e).toList).flatten = vs.filterMap usable := by
    rw [List.filterMap_eq_flatMap_toList, List.flatMap_def]
  simp only [readPage, memberOr, hdata, items, bind, Except.bind, mapM_of_read h, hflat]
  rfl

variable {n m : LedgerNode} {method : String} {params : Json → List Json} {cursor page : Json} {found : List α}

theorem pages_of_last (hcall : n.call method (.array (params cursor)) = (.ok page, m))
    (hpage : readPage read page = .ok ⟨found, none⟩) :
    n.pages method params read cursor = (.ok found, m) := by
  rw [pages]
  split <;> simp_all

theorem pages_of_more {next : Json} (hcall : n.call method (.array (params cursor)) = (.ok page, m))
    (hpage : readPage read page = .ok ⟨found, some next⟩) :
    n.pages method params read cursor =
      ((m.pages method params read next).1.map (found ++ ·), (m.pages method params read next).2) := by
  rw [pages]
  split <;> simp_all

end

/-- The next answers carry these results, and after them the rest is still to come. -/
def Gives (n : LedgerNode) (results : List Json) (rest : List HttpAnswer) : Prop :=
  ∃ answers, n.link.answers = answers ++ rest ∧ List.Forall₂ HttpAnswer.Carries answers results

section

variable {n : LedgerNode} {u : Web.Url} {method : String} {rest : List HttpAnswer}

@[simp] theorem asked_asked (first later : List HttpRequest) (left : List HttpAnswer) :
    (n.asked first left).asked later rest = n.asked (first ++ later) rest := by
  simp [asked, Nat.add_assoc]

theorem pageRequests_cons (id : Nat) (params : Json → List Json) (cursor : Json) (later : List Json) :
    pageRequests u method id params (cursor :: later) =
      pageRequest u method id (params cursor) :: pageRequests u method (id + 1) params later := by
  simp [pageRequests, List.mapIdx_cons, Nat.add_assoc, Nat.add_comm 1]

variable {α : Type} {read : Json → Except Fault (List α)} {usable : Json → Option α} {params : Json → List Json}

theorem pages_of_isListing {earlier : List Json} {last cursor : Json} (hreach : Reaches n.url u)
    (hmethod : CanBeSent (.string method)) (hparams : ∀ c, CanBeSent c → CanBeSent (.array (params c)))
    (hlisting : IsListing earlier last)
    (hread : ∀ p ∈ earlier ++ [last], ∀ e ∈ entries p, read e = .ok (usable e).toList)
    (hcursor : CanBeSent cursor) (hgives : n.Gives (earlier ++ [last]) rest) :
    n.pages method params read cursor =
      (.ok ((earlier ++ [last]).flatMap fun p => (entries p).filterMap usable),
        n.asked (pageRequests u method n.nextId params (cursor :: earlier.map nextCursor)) rest) := by
  obtain ⟨answers, hanswers, hcarry⟩ := hgives
  -- One page at a time: after the first one, the node is one that gives the others, with the cursor of the first.
  induction earlier generalizing n cursor answers with
  | nil =>
    obtain ⟨a, later, ha, hlater, rfl⟩ := List.forall₂_cons_right_iff.1 hcarry
    obtain rfl := List.forall₂_nil_right_iff.1 hlater
    have hcall := call_of_carries hreach hmethod (hparams cursor hcursor) hanswers ha
    have hpage := readPage_of_isPage (hlisting.pages last (by simp)) (hread last (by simp))
    rw [hlisting.done] at hpage
    rw [pages_of_last hcall hpage]
    simp [pageRequests]
  | cons page earlier ih =>
    obtain ⟨a, later, ha, hlater, rfl⟩ := List.forall₂_cons_right_iff.1 hcarry
    rw [List.cons_append] at hanswers
    have hcall := call_of_carries hreach hmethod (hparams cursor hcursor) hanswers ha
    have hisPage := hlisting.pages page (.head _)
    have hmore := hlisting.more page (.head _)
    have hpage := readPage_of_isPage hisPage (hread page (.head _))
    rw [hmore] at hpage
    have hrest := ih (n := n.asked [pageRequest u method n.nextId (params cursor)] (later ++ rest)) hreach hlisting.tail
      (fun p hp => hread p (.tail _ hp)) (hisPage.cursor hmore) later rfl hlater
    rw [pages_of_more hcall hpage, hrest, asked_asked]
    simp [pageRequests_cons, asked, Except.map]

end

theorem get?_of_not_isTruthy {v : Json} {key : String} (h : v.isTruthy = false) : v.get? key = none := by
  cases v with
  | object ms =>
    obtain rfl : ms = [] := by simpa [Json.isTruthy] using h
    rfl
  | _ => rfl

theorem readCoin_of_coin? {e : Json} (h : (coin? e).isSome = true) : readCoin e = .ok (coin? e).toList := by
  obtain ⟨c, hc⟩ := Option.isSome_iff_exists.1 h
  obtain ⟨id, hid, balance, hbalance, units, hunits, rfl⟩ :
      ∃ id, e.get? "coinObjectId" = some id ∧ ∃ balance, e.get? "balance" = some balance ∧
        ∃ units, (Observation.integer balance).toOption = some units ∧ ⟨id, units⟩ = c := by
    simpa [coin?, Option.bind_eq_some_iff] using hc
  cases e with
  | object ms =>
    have hid' : ms.lookup "coinObjectId" = some id := hid
    have hbalance' : ms.lookup "balance" = some balance := hbalance
    rw [hc, readCoin, member, member, hid', hbalance']
    simp [bind, Except.bind, except_eq_ok.2 hunits, pure, Except.pure]
  | _ => cases hid

theorem readObject_of_isObjectEntry {e : Json} (h : IsObjectEntry e) : readObject e = .ok (object? e).toList := by
  obtain ⟨⟨ms, rfl⟩, hdata⟩ := h
  have hfield : (ms.lookup "data").getD .null = (Json.object ms).field "data" := rfl
  simp only [readObject, memberOr, hfield, orElse, object?, bind, Except.bind, pure, Except.pure]
  cases htruthy : ((Json.object ms).field "data").isTruthy with
  | true =>
    obtain ⟨data, hobject⟩ := hdata htruthy
    rw [hobject]
    cases hid : data.lookup "objectId" with
    | none => simp [Json.get?, hid, Json.isTruthy]
    | some id => cases hid' : id.isTruthy <;> simp [Json.get?, hid, Option.filter, hid']
  | false => simp [get?_of_not_isTruthy htruthy, Json.isTruthy]

theorem canBeSent_objectQuery {kind : String} (h : CanBeSent (.string kind)) : CanBeSent (objectQuery kind) := by
  have hfilter : CanBeSent (.object [("StructType", .string kind)]) :=
    canBeSent_object (by simp [canBeSent_string (s := "StructType") rfl]) (by simp [h])
  have hoptions : CanBeSent (.object [("showType", .bool true)]) :=
    canBeSent_object (by simp [canBeSent_string (s := "showType") rfl]) (by simp [canBeSent_bool])
  exact canBeSent_object (by simp [canBeSent_string (s := "filter") rfl, canBeSent_string (s := "options") rfl])
    (by simp [hfilter, hoptions])

variable {n : LedgerNode} {u : Web.Url} {earlier : List Json} {last : Json} {rest : List HttpAnswer}
  {owner kind : String}

theorem coins_of_isListing (hreach : Reaches n.url u) (howner : CanBeSent (.string owner))
    (hkind : CanBeSent (.string kind)) (hlisting : IsListing earlier last) (hgives : n.Gives (earlier ++ [last]) rest)
    (husable : ∀ p ∈ earlier ++ [last], ∀ e ∈ entries p, (coin? e).isSome = true) :
    n.coins owner kind =
      (.ok ((earlier ++ [last]).flatMap fun p => (entries p).filterMap coin?),
        n.asked (pageRequests u "suix_getCoins" n.nextId (fun c => [.string owner, .string kind, c, .int 50])
          (cursors earlier)) rest) := by
  have hparams : ∀ c, CanBeSent c → CanBeSent (.array [.string owner, .string kind, c, .int pageSize]) := by
    intro c hc
    apply canBeSent_array
    simp [howner, hkind, hc, canBeSent_int]
  exact pages_of_isListing hreach (canBeSent_string rfl) hparams hlisting
    (fun p hp e he => readCoin_of_coin? (husable p hp e he)) canBeSent_null hgives

theorem ownedObjects_of_isListing (hreach : Reaches n.url u) (howner : CanBeSent (.string owner))
    (hkind : CanBeSent (.string kind)) (hlisting : IsListing earlier last) (hgives : n.Gives (earlier ++ [last]) rest)
    (hentries : ∀ p ∈ earlier ++ [last], ∀ e ∈ entries p, IsObjectEntry e) :
    n.ownedObjects owner kind =
      (.ok ((earlier ++ [last]).flatMap fun p => (entries p).filterMap object?),
        n.asked (pageRequests u "suix_getOwnedObjects" n.nextId
          (fun c => [.string owner, objectQuery kind, c, .int 50]) (cursors earlier)) rest) := by
  have hparams : ∀ c, CanBeSent c → CanBeSent (.array [.string owner, objectQuery kind, c, .int pageSize]) := by
    intro c hc
    apply canBeSent_array
    simp [howner, canBeSent_objectQuery hkind, hc, canBeSent_int]
  exact pages_of_isListing hreach (canBeSent_string rfl) hparams hlisting
    (fun p hp e he => readObject_of_isObjectEntry (hentries p hp e he)) canBeSent_null hgives

/-- If all pages of a list are answered, what is on them is found, in order, with one request for each page. No coin is
left out, and of the objects only those that are gone. -/
theorem listed_of_isListing (hreach : Reaches n.url u) (howner : CanBeSent (.string owner))
    (hkind : CanBeSent (.string kind)) (hlisting : IsListing earlier last) (hgives : n.Gives (earlier ++ [last]) rest) :
    (cursors earlier).length = (earlier ++ [last]).length ∧
    ((∀ p ∈ earlier ++ [last], ∀ e ∈ entries p, (coin? e).isSome = true) →
      n.coins owner kind =
        (.ok ((earlier ++ [last]).flatMap fun p => (entries p).filterMap coin?),
          n.asked (pageRequests u "suix_getCoins" n.nextId (fun c => [.string owner, .string kind, c, .int 50])
            (cursors earlier)) rest)) ∧
    ((∀ p ∈ earlier ++ [last], ∀ e ∈ entries p, IsObjectEntry e) →
      n.ownedObjects owner kind =
        (.ok ((earlier ++ [last]).flatMap fun p => (entries p).filterMap object?),
          n.asked (pageRequests u "suix_getOwnedObjects" n.nextId
            (fun c => [.string owner, objectQuery kind, c, .int 50]) (cursors earlier)) rest)) :=
  ⟨by simp [cursors], coins_of_isListing hreach howner hkind hlisting hgives,
    ownedObjects_of_isListing hreach howner hkind hlisting hgives⟩

def page (data : List Json) (next : Option String) : Json :=
  .object (("data", .array data) ::
    (next.elim [] fun c => [("hasNextPage", .bool true), ("nextCursor", .string c)]))

theorem isListing_page {earlier : List (List Json × String)} {last : List Json}
    (h : ∀ e ∈ earlier, CanBeSent (.string e.2)) :
    IsListing (earlier.map fun e => page e.1 (some e.2)) (page last none) where
  pages := by
    simp only [List.forall_mem_append, List.forall_mem_map, List.forall_mem_singleton]
    exact ⟨fun e he => ⟨⟨_, rfl⟩, ⟨_, rfl⟩, fun _ => h e he⟩, ⟨_, rfl⟩, ⟨_, rfl⟩, fun h => by cases h⟩
  more := List.forall_mem_map.2 fun e _ => rfl
  done := rfl

def coinEntry (id balance : String) : Json := .object [("coinObjectId", .string id), ("balance", .string balance)]

def coinPages : List Json := [([coinEntry "0x1" "5"], "c1"), ([], "c2")].map fun e => page e.1 (some e.2)

def lastCoins : Json := page [coinEntry "0x2" "7"] none

def objectEntry (id : String) : Json := .object [("data", .object [("objectId", .string id)])]

def deletedEntry : Json := .object [("error", .string "deleted")]

def objectPages : List Json := [([deletedEntry], "c1")].map fun e => page e.1 (some e.2)

def lastObjects : Json := page [objectEntry "0x3"] none

theorem canBeSent_text : ∀ s ∈ ["0xa", "0x2::a::A", "c1", "c2"], CanBeSent (.string s) := by
  intro s hs
  exact canBeSent_string (by revert s; decide)

theorem usable_coinPages : ∀ p ∈ coinPages ++ [lastCoins], ∀ e ∈ entries p, (coin? e).isSome = true := by
  decide

theorem found_coinPages : ((coinPages ++ [lastCoins]).flatMap fun p => (entries p).filterMap coin?) =
    [⟨.string "0x1", 5⟩, ⟨.string "0x2", 7⟩] :=
  rfl

theorem isObjectEntry_objectPages : ∀ p ∈ objectPages ++ [lastObjects], ∀ e ∈ entries p, IsObjectEntry e := by
  have hobject : ∀ id, IsObjectEntry (objectEntry id) := fun id => ⟨⟨_, rfl⟩, fun _ => ⟨_, rfl⟩⟩
  have hdeleted : IsObjectEntry deletedEntry := ⟨⟨_, rfl⟩, fun h => by cases h⟩
  simp [objectPages, lastObjects, page, entries, Json.get?, Json.toList, hobject, hdeleted]

def nodeAddress : Web.Url := ⟨"https", "", "rpc.test", none, "/", none, none⟩

theorem reaches_nodeAddress : Reaches "https://rpc.test/" nodeAddress :=
  ⟨except_eq_ok.2 (by decide +kernel), rfl, rfl⟩

def resultBody (result : Json) : Json := .object [("result", result)]

def nodeWith (results : List Json) : LedgerNode :=
  .create "https://rpc.test/" (results.map fun v => .response 200 (resultBody v).render)

theorem gives_nodeWith {results : List Json}
    (h : ∀ v ∈ results, HttpResponse.json ⟨200, (resultBody v).render⟩ = .ok (resultBody v)) :
    (nodeWith results).Gives results [] := by
  refine ⟨_, (List.append_nil _).symm, List.forall₂_map_left_iff.2 (List.forall₂_same.2 fun v hv => ?_)⟩
  exact ⟨⟨200, (resultBody v).render⟩, resultBody v, rfl, rfl, h v hv, rfl, rfl⟩

theorem json_pages : ∀ v ∈ (coinPages ++ [lastCoins]) ++ (objectPages ++ [lastObjects]),
    HttpResponse.json ⟨200, (resultBody v).render⟩ = .ok (resultBody v) := by
  simp only [coinPages, lastCoins, objectPages, lastObjects, List.map_cons, List.map_nil, List.cons_append,
    List.nil_append, List.forall_mem_cons]
  exact ⟨by cbv, by cbv, by cbv, by cbv, by cbv, by simp⟩

theorem listed_of_isListing_nodeWith :
    (nodeWith (coinPages ++ [lastCoins])).coins "0xa" "0x2::a::A" =
      (.ok [⟨.string "0x1", 5⟩, ⟨.string "0x2", 7⟩],
        (nodeWith (coinPages ++ [lastCoins])).asked
          [pageRequest nodeAddress "suix_getCoins" 1 [.string "0xa", .string "0x2::a::A", .null, .int 50],
            pageRequest nodeAddress "suix_getCoins" 2 [.string "0xa", .string "0x2::a::A", .string "c1", .int 50],
            pageRequest nodeAddress "suix_getCoins" 3 [.string "0xa", .string "0x2::a::A", .string "c2", .int 50]]
          []) ∧
    (nodeWith (objectPages ++ [lastObjects])).ownedObjects "0xa" "0x2::a::A" =
      (.ok [.string "0x3"],
        (nodeWith (objectPages ++ [lastObjects])).asked
          [pageRequest nodeAddress "suix_getOwnedObjects" 1
              [.string "0xa", objectQuery "0x2::a::A", .null, .int 50],
            pageRequest nodeAddress "suix_getOwnedObjects" 2
              [.string "0xa", objectQuery "0x2::a::A", .string "c1", .int 50]]
          []) := by
  obtain ⟨howner, hkind, hfirst, hsecond⟩ := by simpa using canBeSent_text
  have hcoins : IsListing coinPages lastCoins := isListing_page (by simp [hfirst, hsecond])
  have hobjects : IsListing objectPages lastObjects := isListing_page (by simp [hfirst])
  have hgivesCoins : (nodeWith (coinPages ++ [lastCoins])).Gives (coinPages ++ [lastCoins]) [] :=
    gives_nodeWith fun v hv => json_pages v (List.mem_append_left _ hv)
  have hgivesObjects : (nodeWith (objectPages ++ [lastObjects])).Gives (objectPages ++ [lastObjects]) [] :=
    gives_nodeWith fun v hv => json_pages v (List.mem_append_right _ hv)
  constructor
  · rw [(listed_of_isListing reaches_nodeAddress howner hkind hcoins hgivesCoins).2.1 usable_coinPages,
      found_coinPages]
    rfl
  · rw [(listed_of_isListing reaches_nodeAddress howner hkind hobjects hgivesObjects).2.2
      isObjectEntry_objectPages]
    rfl

end LedgerNode

end LedgerFlow.Client
