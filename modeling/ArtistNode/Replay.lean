import ArtistNode.Ledger

/-!
# On-chain sends

The daemon keeps no record of the authorizations it has executed: whether a header is
accepted depends on the header, the request and the clock alone. A request sends at
most once, and an authorization can be executed again only for a body with the same
hash and within two minutes.
-/

namespace ArtistNode

open Base

def Op.isSend : Op → Bool
  | .sendToAddress .. => true
  | _ => false

/-- The requests that made the on-chain sends of a trace, one entry for each send. -/
def sends (τ : List DaemonLabel) : List Nat := callers Op.isSend τ

/-- A request of the trace presents this event, signed by the operator, for a send. -/
def PresentsEvent (d : Daemon) (τ : List DaemonLabel) (id : Nat) (event : Event) : Prop :=
  ∃ auth body, .start id (.postSendOnchain (some auth) body) ∈ τ ∧
    Nip98.authEvent d.lib.toNostrCrates auth = .ok event ∧ d.lib.eventVerify event = true ∧
    d.adminPubkey = some event.pubkey

/-- One signature, one spend: no run makes more sends than there are distinct signed
    events among its requests. -/
def OneSpendPerSignature (d : Daemon) (s : Shared) : Prop :=
  ∀ τ w, DaemonRun d s τ w →
    ((sends τ).length : ℕ∞) ≤ {event | ∃ id, PresentsEvent d τ id event}.encard

/-- The request was authorized by this event: it carried the event in its header, and the
    event authorizes a send with this body at the time the request read from the clock. -/
def SendAuthorized (d : Daemon) (τ : List DaemonLabel) (id : Nat) (event : Event)
    (body : ByteArray) (now : UInt64) : Prop :=
  ∃ auth key, .start id (.postSendOnchain (some auth) body) ∈ τ ∧
    .call id (.postSendOnchain (some auth) body) ⟨.nowSecs, now⟩ ∈ τ ∧
    d.adminPubkey = some key ∧
    Nip98.Authorizes d.lib.toNostrCrates auth "POST"
      (Gate.trimSlashes d.publicUrl ++ "/admin/send-onchain") (some (bodyHash d.lib body)) key now
      event

/-! ### One send for each request -/

theorem authorize_sends_nothing {d : Daemon} {auth : Option String} {method path : String}
    {body : Option ByteArray} :
    Guarded (fun h op => op.isSend = true → ∀ c ∈ h, c.1.isSend = false)
      (fun h _ => ∀ c ∈ h, c.1.isSend = false) []
      (Admin.authorize d.lib d.adminState auth method path body) := by
  have hnone : ∀ c ∈ ([] : List DaemonCall), c.1.isSend = false := by
    intro c hc
    cases hc
  unfold Admin.authorize
  rcases d.adminState.adminPubkey with _ | key
  · exact hnone
  rcases auth with _ | auth
  · exact hnone
  simp only [perform_bind, guarded_call]
  refine ⟨fun _ => hnone, fun now => ?_⟩
  have hclock : ∀ c ∈ ([⟨.nowSecs, now⟩] : List DaemonCall), c.1.isSend = false := by
    intro c hc
    obtain rfl := List.mem_singleton.mp hc
    rfl
  split
  · exact hclock
  · exact hclock

theorem postSendOnchain_sends_once {d : Daemon} (auth : Option String) (body : ByteArray) :
    Guarded (fun h op => op.isSend = true → ∀ c ∈ h, c.1.isSend = false) (fun _ _ => True) []
      (Admin.postSendOnchain d.lib d.adminState auth body) := by
  unfold Admin.postSendOnchain
  apply authorize_sends_nothing.bind
  intro h r hnone
  rcases r with resp | ⟨⟩
  · trivial
  simp only
  rcases d.lib.sendOnchainRequestFromSlice body with e | req
  · trivial
  simp only
  rcases Admin.checkedAddress d.lib d.adminState.network req.address with e | address
  · trivial
  simp only [perform_bind, guarded_call]
  refine ⟨fun _ => hnone, ?_⟩
  rintro (e | txid)
  all_goals trivial

theorem handle_sends_once {d : Daemon} {job : Job} {h : List DaemonCall} {op : Op}
    {k : Answer op → Handler Response} (hr : Reaches (handle d job) h (.call op k))
    (hop : op.isSend = true) : ∀ c ∈ h, c.1.isSend = false := by
  have hjust := (handle_guarded d job).pending hr
  cases op with
  | sendToAddress address amountSats =>
    obtain ⟨-, auth, body, req, rfl, -⟩ := hjust
    exact (postSendOnchain_sends_once auth body).pending hr rfl
  | _ => cases hop

/-! ### What authorized a send -/

section Runs

variable {d : Daemon} {s : Shared} {τ : List DaemonLabel} {w : DaemonWorld}

theorem DaemonRun.send_authorized (hrun : DaemonRun d s τ w) {id : Nat} {job : Job}
    {address : Address} {amountSats : UInt64} {ans : Answer (.sendToAddress address amountSats)}
    (hsend : .call id job ⟨.sendToAddress address amountSats, ans⟩ ∈ τ) :
    ∃ event body now req, SendAuthorized d τ id event body now ∧
      d.lib.sendOnchainRequestFromSlice body = .ok req ∧
      Admin.checkedAddress d.lib d.network req.address = .ok address ∧
      amountSats = req.amountSats := by
  obtain ⟨h, ⟨hchecked, auth, body, req, rfl, hreq, haddress, hamount⟩, hcalled⟩ :=
    hrun.justified hsend
  obtain ⟨method, path, auth', body', key, now, event, hroute, hsigned, hnow, hauthorizes⟩ :=
    hchecked.authorizes
  simp only [Job.route, Option.some.injEq, Prod.mk.injEq] at hroute
  simp only [Job.signed, Option.some.injEq, Prod.mk.injEq] at hsigned
  obtain ⟨rfl, rfl⟩ := hroute
  obtain ⟨rfl, rfl, hkey⟩ := hsigned
  exact ⟨event, body, now, req,
    ⟨auth', key, Run.called_started hrun hsend, hcalled _ hnow, hkey, hauthorizes⟩, hreq,
    haddress, hamount⟩

theorem SendAuthorized.presents {id : Nat} {event : Event} {body : ByteArray} {now : UInt64}
    (h : SendAuthorized d τ id event body now) : PresentsEvent d τ id event := by
  obtain ⟨auth, key, hstart, -, hkey, hauthorizes⟩ := h
  refine ⟨auth, body, hstart, hauthorizes.decodes, hauthorizes.verifies, ?_⟩
  rw [hkey, hauthorizes.signer]

/-- An event authorizes bodies with one hash, within two minutes. -/
theorem SendAuthorized.same_body {id id' : Nat} {event : Event} {body body' : ByteArray}
    {now now' : UInt64} (hinj : Function.Injective d.lib.hexEncode)
    (hlower : ∀ bytes, ∀ c ∈ (d.lib.hexEncode bytes).toList, c.toLower = c)
    (h : SendAuthorized d τ id event body now) (h' : SendAuthorized d τ id' event body' now') :
    d.lib.sha256 body = d.lib.sha256 body' ∧ now.toNat ≤ now'.toNat + 120 ∧
      now'.toNat ≤ now.toNat + 120 := by
  obtain ⟨auth, key, -, -, -, ha⟩ := h
  obtain ⟨auth', key', -, -, -, ha'⟩ := h'
  constructor
  · obtain ⟨p, hp, hpayload⟩ := ha.payload _ rfl
    obtain ⟨p', hp', hpayload'⟩ := ha'.payload _ rfl
    rw [hp] at hp'
    obtain rfl := Option.some.inj hp'
    exact hinj (eq_of_eqIgnoreAsciiCase (hlower _) (hlower _)
      (eqIgnoreAsciiCase_right_unique hpayload hpayload'))
  · have hw := Nip98.within_window ha.fresh
    have hw' := Nip98.within_window ha'.fresh
    omega

/-- No run makes more sends than there are requests with a signed event among its
    requests. -/
theorem DaemonRun.sends_le (hrun : DaemonRun d s τ w) :
    ((sends τ).length : ℕ∞) ≤ {id | ∃ event, PresentsEvent d τ id event}.encard := by
  have hnodup : (sends τ).Nodup := Run.callers_nodup handle_sends_once hrun
  rw [← List.toFinset_card_of_nodup hnodup, ← Set.encard_coe_eq_coe_finsetCard]
  apply Set.encard_le_encard
  intro id hid
  obtain ⟨job, c, hc, hsend⟩ := mem_callers.mp (List.mem_toFinset.mp hid)
  obtain ⟨op, ans⟩ := c
  cases op with
  | sendToAddress address amountSats =>
    obtain ⟨event, body, now, req, hauthorized, -⟩ := hrun.send_authorized hc
    exact ⟨event, hauthorized.presents⟩
  | _ => cases hsend

/-- Each send was asked for by a request whose header carries an event that the operator
    signed for that body, within a minute of the clock, and each such request sends at
    most once. An event that was executed before is executed again only for a body with
    the same hash and at most two minutes from the first time. -/
theorem sends_authorized (hrun : DaemonRun d s τ w) (hinj : Function.Injective d.lib.hexEncode)
    (hlower : ∀ bytes, ∀ c ∈ (d.lib.hexEncode bytes).toList, c.toLower = c) :
    ((sends τ).length : ℕ∞) ≤ {id | ∃ event, PresentsEvent d τ id event}.encard ∧
      (∀ {id job address amountSats ans},
        .call id job ⟨.sendToAddress address amountSats, ans⟩ ∈ τ →
          ∃ event body now req, SendAuthorized d τ id event body now ∧
            d.lib.sendOnchainRequestFromSlice body = .ok req ∧
            Admin.checkedAddress d.lib d.network req.address = .ok address ∧
            amountSats = req.amountSats) ∧
      ∀ {id id' event body body' now now'}, SendAuthorized d τ id event body now →
        SendAuthorized d τ id' event body' now' →
          d.lib.sha256 body = d.lib.sha256 body' ∧ now.toNat ≤ now'.toNat + 120 ∧
            now'.toNat ≤ now.toNat + 120 :=
  ⟨hrun.sends_le, hrun.send_authorized, fun h h' => h.same_body hinj hlower h'⟩

end Runs

/-! ### A replay -/

/-- An authorized request for a send, carried out by the node. -/
theorem send_reaches {d : Daemon} {auth txid : String} {body : ByteArray} {key : PublicKey}
    {now : UInt64} {event : Event} {req : SendOnchainRequest} {address : Address}
    (hkey : d.adminPubkey = some key)
    (ha : Nip98.Authorizes d.lib.toNostrCrates auth "POST"
      (Admin.authUrl d.adminState "/admin/send-onchain") (some (bodyHash d.lib body)) key now event)
    (hreq : d.lib.sendOnchainRequestFromSlice body = .ok req)
    (haddress : Admin.checkedAddress d.lib d.network req.address = .ok address) :
    Reaches (handle d (.postSendOnchain (some auth) body))
      [⟨.nowSecs, now⟩, ⟨.sendToAddress address req.amountSats, .ok txid⟩]
      (.done (.txid txid)) := by
  have hverify := Nip98.verify_eq_ok.mpr ⟨rfl, event, ha⟩
  simp only [bodyHash] at hverify
  have hkey' : d.adminState.adminPubkey = some key := hkey
  have haddress' : Admin.checkedAddress d.lib d.adminState.network req.address = .ok address :=
    haddress
  have hstart : ∃ k, handle d (.postSendOnchain (some auth) body) = .call .nowSecs k ∧
      k now = .call (.sendToAddress address req.amountSats) fun r => match r with
        | .ok txid => .done (.txid txid)
        | .error e => .done (.err .internalServerError s!"Send failed: {e}") := by
    simp only [handle, Admin.postSendOnchain, Admin.authorize, hkey', perform_bind,
      Process.call_bind]
    refine ⟨_, rfl, ?_⟩
    simp only [Option.map_some, hverify, Process.pure_eq_done, Process.done_bind, hreq, haddress']
    congr 1
    funext r
    rcases r with e | txid
    all_goals rfl
  obtain ⟨k, hk, hnow⟩ := hstart
  have hrefl : Reaches (handle d (.postSendOnchain (some auth) body)) [] (.call .nowSecs k) := by
    rw [hk]
    exact .refl
  have hclock := hrefl.step now
  rw [hnow] at hclock
  exact hclock.step (Except.ok txid : Except String String)

namespace Sample

def sendEvent : Event where
  id := ⟨#[239, 145, 185, 251, 35, 25, 98, 6, 234, 26, 119, 210, 136, 230, 161, 156, 188, 163,
    194, 29, 152, 22, 13, 237, 207, 117, 20, 29, 254, 186, 43, 137]⟩
  pubkey := operatorKey
  createdAt := 1700000000
  kind := 27235
  tags := [["u", "https://node.example.com/admin/send-onchain"], ["method", "POST"],
    ["payload", "17a7d8636220617d675e942f53e3b4e51d378fe935225133e8dddbb676d70c0a"]]
  content := ""
  sig := ⟨#[70, 17, 61, 53, 64, 68, 32, 176, 197, 170, 130, 127, 230, 184, 181, 158, 224, 9, 248,
    70, 199, 41, 54, 164, 123, 213, 207, 106, 241, 1, 5, 118, 235, 47, 138, 174, 183, 87, 51, 122,
    29, 84, 40, 80, 248, 74, 54, 157, 221, 51, 243, 156, 105, 180, 108, 211, 102, 6, 213, 88, 186,
    174, 172, 171]⟩

def sendJson : String :=
  "\x7b\"id\":\"ef91b9fb23196206ea1a77d288e6a19cbca3c21d98160dedcf75141dfeba2b89\",\"pu" ++
  "bkey\":\"2f8bde4d1a07209355b4a7250a5c5128e88b84bddc619ab7cba8d569b240efe4\",\"create" ++
  "d_at\":1700000000,\"kind\":27235,\"tags\":[[\"u\",\"https://node.example.com/admin/s" ++
  "end-onchain\"],[\"method\",\"POST\"],[\"payload\",\"17a7d8636220617d675e942f53e3b4e5" ++
  "1d378fe935225133e8dddbb676d70c0a\"]],\"content\":\"\",\"sig\":\"46113d35404420b0c5aa" ++
  "827fe6b8b59ee009f846c72936a47bd5cf6af1010576eb2f8aaeb757337a1d542850f84a369ddd33f39c" ++
  "69b46cd36606d558baaeacab\"\x7d"

def sendBase64 : String :=
  "eyJp" ++ ("ZCI6ImVmOTFiOWZiMjMxOTYyMDZlYTFhNzdkMjg4ZTZhMTljYmNhM2MyMWQ5ODE2MGRlZGNmNzUxNDFkZmVi" ++
  "YTJiODkiLCJwdWJrZXkiOiIyZjhiZGU0ZDFhMDcyMDkzNTViNGE3MjUwYTVjNTEyOGU4OGI4NGJkZGM2MTlh" ++
  "YjdjYmE4ZDU2OWIyNDBlZmU0IiwiY3JlYXRlZF9hdCI6MTcwMDAwMDAwMCwia2luZCI6MjcyMzUsInRhZ3Mi" ++
  "OltbInUiLCJodHRwczovL25vZGUuZXhhbXBsZS5jb20vYWRtaW4vc2VuZC1vbmNoYWluIl0sWyJtZXRob2Qi" ++
  "LCJQT1NUIl0sWyJwYXlsb2FkIiwiMTdhN2Q4NjM2MjIwNjE3ZDY3NWU5NDJmNTNlM2I0ZTUxZDM3OGZlOTM1" ++
  "MjI1MTMzZThkZGRiYjY3NmQ3MGMwYSJdXSwiY29udGVudCI6IiIsInNpZyI6IjQ2MTEzZDM1NDA0NDIwYjBj" ++
  "NWFhODI3ZmU2YjhiNTllZTAwOWY4NDZjNzI5MzZhNDdiZDVjZjZhZjEwMTA1NzZlYjJmOGFhZWI3NTczMzdh" ++
  "MWQ1NDI4NTBmODRhMzY5ZGRkMzNmMzljNjliNDZjZDM2NjA2ZDU1OGJhYWVhY2Fi" ++
  "In0=")

def send : SignedHeader := ⟨sendBase64, sendJson, sendEvent⟩

/-- A request for 50000 satoshis, in JSON. -/
def sendBody : ByteArray :=
  ("\x7b\"address\":\"bcrt1qw508d6qejxtdg4y5r3zarvary0c5xw7kygt080\"," ++
    "\"amount_sats\":50000\x7d").toUTF8

def recipient : String := "bcrt1qw508d6qejxtdg4y5r3zarvary0c5xw7kygt080"

/-- SHA-256 of the request. -/
def sendHash : ByteArray :=
  ⟨#[23, 167, 216, 99, 98, 32, 97, 125, 103, 94, 148, 47, 83, 227, 180, 229, 29, 55, 143, 233,
    53, 34, 81, 51, 232, 221, 219, 182, 118, 215, 12, 10]⟩

/-- The other crates, as they behave on the operator's request. -/
def sendCrates : Crates :=
  { crates send with
    sha256 := fun bytes => if bytes = sendBody then sendHash else sha256 bytes
    sendOnchainRequestFromSlice := fun bytes =>
      if bytes = sendBody then .ok ⟨recipient, 50000⟩ else .error "not in the table"
    addressFromStr := fun text =>
      if text = recipient then .ok ⟨recipient⟩ else .error "not in the table"
    requireNetwork := fun address network =>
      if address = ⟨recipient⟩ ∧ network = .regtest then some ⟨recipient⟩ else none }

def sendDaemon : Daemon := { daemon send with lib := sendCrates }

def sendRequest : Job := .postSendOnchain (some ("Nostr " ++ sendBase64)) sendBody

/-- The node accepts the payment. -/
def sendDone : List DaemonCall :=
  [⟨.nowSecs, 1700000030⟩, ⟨.sendToAddress ⟨recipient⟩ 50000, .ok "txid"⟩]

def sendTrace : List DaemonLabel := served 0 sendRequest sendDone (.txid "txid")

/-- The same request, sent again. -/
def replayTrace : List DaemonLabel :=
  sendTrace ++ served 1 sendRequest sendDone (.txid "txid")

theorem trim_send : trim send.base64 = send.base64 := by
  have hhead : send.base64.toList.head? = some 'e' := by
    simp only [send, sendBase64, String.toList_append]
    rfl
  have hlast : send.base64.toList.getLast? = some '=' := by
    simp only [send, sendBase64, String.toList_append, List.getLast?_append]
    rfl
  exact trim_eq_self hhead hlast (by decide) (by decide)

theorem bodyHash_send : bodyHash sendCrates sendBody =
    "17a7d8636220617d675e942f53e3b4e51d378fe935225133e8dddbb676d70c0a" := by
  have hsha : sendCrates.sha256 sendBody = sendHash := by simp only [sendCrates, if_true]
  unfold bodyHash
  rw [hsha]
  decide

theorem send_authorizes : Nip98.Authorizes sendCrates.toNostrCrates ("Nostr " ++ sendBase64) "POST"
    (Admin.authUrl sendDaemon.adminState "/admin/send-onchain") (some (bodyHash sendCrates sendBody))
    operatorKey 1700000030 sendEvent where
  decodes := @authEvent_crates send trim_send
  verifies := @eventVerify_crates send
  kind := rfl
  url := by decide
  method := ⟨"POST", by decide, by decide⟩
  fresh := by decide
  payload := by
    rintro hash hhash
    obtain rfl := Option.some.inj hhash
    rw [bodyHash_send]
    exact ⟨"17a7d8636220617d675e942f53e3b4e51d378fe935225133e8dddbb676d70c0a", by decide,
      by decide⟩
  signer := rfl

theorem sendRequest_reaches :
    Reaches ((system sendDaemon).program sendRequest) sendDone (.done (.txid "txid")) := by
  have hreq : sendCrates.sendOnchainRequestFromSlice sendBody = .ok ⟨recipient, 50000⟩ := by
    simp only [sendCrates, if_true]
  have hparsed : sendCrates.addressFromStr recipient = .ok ⟨recipient⟩ := by
    simp only [sendCrates, if_true]
  have hnetwork : sendCrates.requireNetwork ⟨recipient⟩ .regtest = some ⟨recipient⟩ := by
    simp only [sendCrates, and_self, if_true]
  have haddress : Admin.checkedAddress sendCrates .regtest recipient = .ok ⟨recipient⟩ := by
    simp only [Admin.checkedAddress, hparsed, hnetwork]
  exact @send_reaches sendDaemon _ "txid" _ operatorKey _ sendEvent ⟨recipient, 50000⟩ _ rfl
    send_authorizes hreq haddress

theorem opened_send : Opened sendDaemon onSale := opened_onSale send

theorem sendRequest_performs : Performs (system sendDaemon) onSale sendDone onSale :=
  ⟨onSale, rfl, onSale, rfl, rfl⟩

/-- The operator signed one request; it is carried out each time it is sent. -/
theorem replay_run : ∃ w, DaemonRun sendDaemon onSale replayTrace w := by
  have hinitial : DaemonRun sendDaemon onSale [] (World.initial onSale) := .refl
  obtain ⟨w, hrun, hshared, hnext⟩ := hinitial.serve sendRequest_reaches sendRequest_performs
  have hcalls : Performs (system sendDaemon) w.shared sendDone onSale := by
    rw [hshared]
    exact sendRequest_performs
  obtain ⟨w', hrun', -, -⟩ := hrun.serve sendRequest_reaches hcalls
  rw [hnext] at hrun'
  exact ⟨w', hrun'⟩

theorem replay_presents {id : Nat} {event : Event}
    (h : PresentsEvent sendDaemon replayTrace id event) : event = sendEvent := by
  obtain ⟨auth, body, hstart, hevent, -⟩ := h
  have hauth : auth = "Nostr " ++ sendBase64 := by
    simp only [replayTrace, sendTrace, served, sendDone, sendRequest, List.map_cons, List.map_nil,
      List.mem_append, List.mem_cons, Label.start.injEq, Job.postSendOnchain.injEq,
      Option.some.injEq, reduceCtorEq, List.not_mem_nil, or_false] at hstart
    rcases hstart with ⟨-, hauth, -⟩ | ⟨-, hauth, -⟩
    all_goals exact hauth
  rw [hauth, show Nip98.authEvent sendDaemon.lib.toNostrCrates ("Nostr " ++ sendBase64) =
    .ok sendEvent from @authEvent_crates send trim_send] at hevent
  exact (Except.ok.inj hevent).symm

end Sample

/-- Two sends under one signature: the operator's header is accepted again while it is
    fresh. -/
theorem spend_replayed :
    Opened Sample.sendDaemon Sample.onSale ∧ (sends Sample.replayTrace).length = 2 ∧
      (∃ w, DaemonRun Sample.sendDaemon Sample.onSale Sample.replayTrace w) ∧
      ¬ OneSpendPerSignature Sample.sendDaemon Sample.onSale := by
  refine ⟨Sample.opened_send, rfl, Sample.replay_run, ?_⟩
  intro hone
  obtain ⟨w, hrun⟩ := Sample.replay_run
  have hle := hone _ w hrun
  have hset : {event | ∃ id, PresentsEvent Sample.sendDaemon Sample.replayTrace id event} ⊆
      {Sample.sendEvent} := by
    rintro event ⟨id, hpresents⟩
    exact Sample.replay_presents hpresents
  have hsends : ((sends Sample.replayTrace).length : ℕ∞) = 2 := rfl
  have hone' := hle.trans (Set.encard_le_encard hset)
  rw [Set.encard_singleton, hsends] at hone'
  exact absurd hone' (by decide)

/-- The two sends of the replay come from two requests, for one body. -/
theorem sends_authorized_replay :
    (2 : ℕ∞) ≤ {id | ∃ event, PresentsEvent Sample.sendDaemon Sample.replayTrace id event}.encard ∧
      ∃ event body now req,
        SendAuthorized Sample.sendDaemon Sample.replayTrace 1 event body now ∧
        Sample.sendCrates.sendOnchainRequestFromSlice body = .ok req ∧
        Admin.checkedAddress Sample.sendCrates .regtest req.address = .ok ⟨Sample.recipient⟩ ∧
        50000 = req.amountSats := by
  obtain ⟨w, hrun⟩ := Sample.replay_run
  obtain ⟨hle, hsend, -⟩ := sends_authorized hrun Hex.encode_injective Hex.encode_lowercase
  have hcall : .call 1 Sample.sendRequest ⟨.sendToAddress ⟨Sample.recipient⟩ 50000, .ok "txid"⟩ ∈
      Sample.replayTrace := by
    simp [Sample.replayTrace, served, Sample.sendDone]
  exact ⟨hle, hsend hcall⟩

end ArtistNode
