import ArtistNode.Daemon

/-!
# What justifies the daemon's operations

`Justified d job h op` says what the history `h` of a thread working on `job`
must contain before it may perform `op`: a purchase is recorded only under a hash
the node has just issued, the paid flag is set only for a payment the node
reported, a file is written and the node's funds are touched only after a signed
header has been checked. Every handler keeps to it, whatever answers it gets.
-/

namespace ArtistNode

open Base

/-! ### NIP-98 checks -/

/-- The check a request has to pass: its header and what it is checked against. -/
structure Nip98Check where
  authorization : Option String
  method : String
  url : String
  body : Option ByteArray
  key : Option PublicKey

def bodyHash (lib : Crates) (body : ByteArray) : String := lib.hexEncode (lib.sha256 body)

/-- The header is there, a key is configured, and the event authorizes the request
    at this clock value. -/
def Nip98Check.Passes (lib : Crates) (c : Nip98Check) (now : UInt64) : Prop :=
  ∃ auth key event, c.authorization = some auth ∧ c.key = some key ∧
    Nip98.Authorizes lib.toNostrCrates auth c.method c.url (c.body.map (bodyHash lib)) key now
      event

/-- The header, the body and the key of a request that must be signed. -/
def Job.signed (d : Daemon) : Job → Option (Option String × Option ByteArray × Option PublicKey)
  | .putProduct _ _ auth body => some (auth, some body, d.artistPubkey)
  | .getAddress auth => some (auth, none, d.adminPubkey)
  | .getBalance auth => some (auth, none, d.adminPubkey)
  | .postConnect auth body => some (auth, some body, d.adminPubkey)
  | .postSendOnchain auth body => some (auth, some body, d.adminPubkey)
  | .postLsps1Order auth body => some (auth, some body, d.adminPubkey)
  | .getLsps1Order _ auth => some (auth, none, d.adminPubkey)
  | _ => none

/-- The check of a signed request: its method and path are those of the router. -/
def Job.check (d : Daemon) (job : Job) : Option Nip98Check :=
  match job.route, job.signed d with
  | some (method, path), some (auth, body, key) =>
    some ⟨auth, method, Gate.trimSlashes d.publicUrl ++ path, body, key⟩
  | _, _ => none

/-- The thread has read the clock and its request passes the check at that time. -/
def Checked (d : Daemon) (job : Job) (h : List DaemonCall) : Prop :=
  ∃ check now, job.check d = some check ∧ ⟨.nowSecs, now⟩ ∈ h ∧ check.Passes d.lib now

/-! ### Justifications -/

/-- The invoice of the thread carries this payment hash. -/
def ObtainedHash (lib : Crates) (h : List DaemonCall) (paymentHash : String) : Prop :=
  ∃ inv amountMsat desc expiry, paymentHash = lib.hexEncode inv.paymentHash ∧
    (⟨.receive amountMsat desc expiry, .ok inv⟩ ∈ h ∨
      ⟨.receiveViaJitChannel amountMsat desc expiry, .ok inv⟩ ∈ h)

/-- The thread has drawn this claim token. -/
def ObtainedToken (lib : Crates) (h : List DaemonCall) (token : String) : Prop :=
  ∃ bytes, token = lib.hexEncode bytes ∧ ⟨.fillRandom 32, .ok bytes⟩ ∈ h

def Op.isCreatePurchase : Op → Bool
  | .createPurchase .. => true
  | _ => false

/-- The operator's request that asks for exactly this operation: what the operation
    acts on is what the request's body was parsed to, or its path. -/
def RequestedBy (d : Daemon) (job : Job) : Op → Prop
  | .newAddress => ∃ auth, job = .getAddress auth
  | .listBalances => ∃ auth, job = .getBalance auth
  | .connect nodeId address persist => persist = true ∧ ∃ auth body req,
      job = .postConnect auth body ∧ d.lib.connectRequestFromSlice body = .ok req ∧
      Admin.parseNodeUri d.lib req.uri = .ok (nodeId, address)
  | .sendToAddress address amountSats => ∃ auth body req,
      job = .postSendOnchain auth body ∧ d.lib.sendOnchainRequestFromSlice body = .ok req ∧
      Admin.checkedAddress d.lib d.network req.address = .ok address ∧
      amountSats = req.amountSats
  | .lsps1Post url order => ∃ auth body req api nodeId,
      job = .postLsps1Order auth body ∧ d.lib.lsps1OrderRequestFromSlice body = .ok req ∧
      d.lsps1ApiUrl = some api ∧ url = Admin.createOrderUrl api ∧
      order = Admin.buildCreateOrderBody nodeId req.lspBalanceSat
        (req.channelExpiryBlocks.getD 13000)
  | .lsps1Get url => ∃ orderId auth api,
      job = .getLsps1Order orderId auth ∧ d.lsps1ApiUrl = some api ∧
      url = Admin.getOrderUrl api orderId
  | _ => False

def Justified (d : Daemon) (job : Job) (h : List DaemonCall) : Op → Prop
  | .writeFile path contents => Checked d job h ∧ ∃ slug params auth l,
      job = .putProduct slug params auth contents ∧ validSlug slug = true ∧
      validFormat params.format = true ∧ ⟨.lock, some l⟩ ∈ h ∧
      path = joinPath l.store.dir (Gate.fileNameOf slug params.format)
  | .upsertProduct record => Checked d job h ∧ ∃ slug params auth body,
      job = .putProduct slug params auth body ∧ record = Gate.uploadRecord slug params body
  | .createPurchase paymentHash slug _ _ claimToken =>
      (∃ body, job = .postInvoice slug body) ∧
      (∃ l p, ⟨.lock, some l⟩ ∈ h ∧ l.store.getProduct slug = some p) ∧
      ObtainedHash d.lib h paymentHash ∧ ObtainedToken d.lib h claimToken ∧
      ∀ c ∈ h, c.1.isCreatePurchase = false
  | .markPaid paymentHash =>
      (∃ bytes, job = .paymentReceived bytes ∧ paymentHash = d.lib.hexEncode bytes) ∨
      ∃ payments, ⟨.listPayments, payments⟩ ∈ h ∧
        Gate.settledOnNode d.lib payments paymentHash = true
  | .newAddress => Checked d job h ∧ RequestedBy d job .newAddress
  | .listBalances => Checked d job h ∧ RequestedBy d job .listBalances
  | .connect nodeId address persist => Checked d job h ∧
      RequestedBy d job (.connect nodeId address persist)
  | .sendToAddress address amountSats => Checked d job h ∧
      RequestedBy d job (.sendToAddress address amountSats)
  | .lsps1Post url body => Checked d job h ∧ RequestedBy d job (.lsps1Post url body)
  | .lsps1Get url => Checked d job h ∧ RequestedBy d job (.lsps1Get url)
  | _ => True

/-- Responses that carry something only the operator may see. -/
def Response.isAdmin : Response → Bool
  | .address _ => true
  | .balance _ => true
  | .connected => true
  | .txid _ => true
  | .lsps1 _ => true
  | _ => false

def Job.isAdmin : Job → Bool
  | .getAddress _ => true
  | .getBalance _ => true
  | .postConnect .. => true
  | .postSendOnchain .. => true
  | .postLsps1Order .. => true
  | .getLsps1Order .. => true
  | _ => false

def Answerable (d : Daemon) (job : Job) (h : List DaemonCall) (resp : Response) : Prop :=
  resp.isAdmin = true → job.isAdmin = true ∧ Checked d job h

theorem Answerable.of_public {d : Daemon} {job : Job} {h : List DaemonCall} {resp : Response}
    (hpublic : resp.isAdmin = false) : Answerable d job h resp := by
  intro hadmin
  rw [hpublic] at hadmin
  cases hadmin

/-! ### Every handler keeps to it -/

section Handlers

variable {d : Daemon}

theorem passes_of_verify {lib : Crates} {auth method url : String} {body : Option ByteArray}
    {key pk : PublicKey} {now : UInt64}
    (h : Nip98.verify lib.toNostrCrates auth method url (body.map (bodyHash lib)) key now =
      .ok pk) :
    (⟨some auth, method, url, body, some key⟩ : Nip98Check).Passes lib now := by
  obtain ⟨-, event, ha⟩ := Nip98.verify_eq_ok.mp h
  exact ⟨auth, key, event, rfl, rfl, ha⟩

theorem Checked.extend {job : Job} {h : List DaemonCall} (hchecked : Checked d job h)
    (h' : List DaemonCall) : Checked d job (h ++ h') := by
  obtain ⟨check, now, hcheck, hnow, hpasses⟩ := hchecked
  exact ⟨check, now, hcheck, List.mem_append_left _ hnow, hpasses⟩

theorem storeUpload_guarded {slug : String} {params : Gate.UploadParams}
    {auth : Option String} {body : ByteArray} {h : List DaemonCall}
    (hslug : validSlug slug = true) (hformat : validFormat params.format = true)
    (hchecked : Checked d (.putProduct slug params auth body) h) :
    Guarded (Justified d (.putProduct slug params auth body))
      (Answerable d (.putProduct slug params auth body)) h
      (Gate.storeUpload slug params body) := by
  unfold Gate.storeUpload
  simp only [perform_bind, guarded_call]
  refine ⟨trivial, ?_⟩
  rintro (_ | l)
  · exact Answerable.of_public rfl
  · simp only [guarded_call]
    refine ⟨⟨hchecked.extend _, slug, params, auth, l, rfl, hslug, hformat, by simp, rfl⟩, ?_⟩
    rintro (e | ⟨⟩)
    · exact Answerable.of_public rfl
    · simp only [guarded_call]
      refine ⟨⟨(hchecked.extend _).extend _, slug, params, auth, body, rfl, rfl⟩, ?_⟩
      rintro (_ | (e | ⟨⟩))
      all_goals exact Answerable.of_public rfl

theorem putProduct_guarded (slug : String) (params : Gate.UploadParams) (auth : Option String)
    (body : ByteArray) :
    Guarded (Justified d (.putProduct slug params auth body))
      (Answerable d (.putProduct slug params auth body)) []
      (Gate.putProduct d.lib d.gateState slug params auth body) := by
  unfold Gate.putProduct
  rcases hkey : d.gateState.artistPubkey with _ | key
  · exact Answerable.of_public rfl
  rcases hslug : validSlug slug with _ | _
  · exact Answerable.of_public rfl
  rcases hformat : validFormat params.format with _ | _
  · exact Answerable.of_public rfl
  simp only [Bool.not_true, Bool.false_eq_true, if_false]
  split
  · exact Answerable.of_public rfl
  split
  · exact Answerable.of_public rfl
  rcases auth with _ | auth
  · exact Answerable.of_public rfl
  simp only [perform_bind, guarded_call]
  refine ⟨trivial, fun now => ?_⟩
  split
  · exact Answerable.of_public rfl
  · rename_i pk hverify
    refine storeUpload_guarded hslug hformat ⟨_, now, rfl, by simp, ?_⟩
    have hkey' : d.artistPubkey = some key := hkey
    have hurl : Gate.uploadUrl d.gateState slug =
        Gate.trimSlashes d.publicUrl ++ ("/products/" ++ slug) := String.append_assoc
    rw [hurl] at hverify
    rw [hkey']
    exact passes_of_verify hverify

/-! The operator's handlers start with `authorize`. -/

theorem authorize_guarded {job : Job} {auth : Option String} {method path : String}
    {body : Option ByteArray}
    (hcheck : job.check d = some ⟨auth, method, Admin.authUrl d.adminState path, body,
      d.adminPubkey⟩) :
    Guarded (Justified d job)
      (fun h r => r = .ok () ∧ Checked d job h ∨ ∃ resp, r = .error resp ∧ resp.isAdmin = false)
      [] (Admin.authorize d.lib d.adminState auth method path body) := by
  unfold Admin.authorize
  rcases hkey : d.adminState.adminPubkey with _ | key
  · exact Or.inr ⟨_, rfl, rfl⟩
  rcases auth with _ | auth
  · exact Or.inr ⟨_, rfl, rfl⟩
  simp only [perform_bind, guarded_call]
  refine ⟨trivial, fun now => ?_⟩
  split
  · exact Or.inr ⟨_, rfl, rfl⟩
  · rename_i pk hverify
    have hkey' : d.adminPubkey = some key := hkey
    rw [hkey'] at hcheck
    exact Or.inl ⟨rfl, _, now, hcheck, by simp, passes_of_verify hverify⟩

/-- What follows the check of an operator's request has to be justified only when
    the check passed. -/
theorem authorized_guarded {job : Job} {auth : Option String} {method path : String}
    {body : Option ByteArray} {f : Except Response Unit → Handler Response}
    (hcheck : job.check d = some ⟨auth, method, Admin.authUrl d.adminState path, body,
      d.adminPubkey⟩)
    (hrefused : ∀ resp, f (.error resp) = .done resp)
    (hpassed : ∀ h, Checked d job h → Guarded (Justified d job) (Answerable d job) h (f (.ok ()))) :
    Guarded (Justified d job) (Answerable d job) []
      (Admin.authorize d.lib d.adminState auth method path body >>= f) := by
  apply (authorize_guarded hcheck).bind
  intro h r hr
  rcases hr with ⟨rfl, hchecked⟩ | ⟨resp, rfl, hresp⟩
  · exact hpassed h hchecked
  · rw [hrefused]
    exact Answerable.of_public hresp

theorem getAddress_guarded (auth : Option String) :
    Guarded (Justified d (.getAddress auth)) (Answerable d (.getAddress auth)) []
      (Admin.getAddress d.lib d.adminState auth) := by
  apply authorized_guarded rfl (fun _ => rfl)
  intro h hchecked
  simp only [perform_bind, guarded_call]
  refine ⟨⟨hchecked, auth, rfl⟩, ?_⟩
  rintro (e | addr) _
  all_goals exact ⟨rfl, hchecked.extend _⟩

theorem getBalance_guarded (auth : Option String) :
    Guarded (Justified d (.getBalance auth)) (Answerable d (.getBalance auth)) []
      (Admin.getBalance d.lib d.adminState auth) := by
  apply authorized_guarded rfl (fun _ => rfl)
  intro h hchecked
  simp only [perform_bind, guarded_call]
  refine ⟨⟨hchecked, auth, rfl⟩, fun b => ⟨trivial, fun channels => ⟨trivial, fun now _ => ?_⟩⟩⟩
  exact ⟨rfl, ((hchecked.extend _).extend _).extend _⟩

theorem postConnect_guarded (auth : Option String) (body : ByteArray) :
    Guarded (Justified d (.postConnect auth body)) (Answerable d (.postConnect auth body)) []
      (Admin.postConnect d.lib d.adminState auth body) := by
  apply authorized_guarded rfl (fun _ => rfl)
  intro h hchecked
  rcases hreq : d.lib.connectRequestFromSlice body with e | req
  · exact fun _ => ⟨rfl, hchecked⟩
  simp only
  rcases huri : Admin.parseNodeUri d.lib req.uri with e | ⟨nodeId, address⟩
  · exact fun _ => ⟨rfl, hchecked⟩
  simp only [perform_bind, guarded_call]
  refine ⟨⟨hchecked, rfl, auth, body, req, rfl, hreq, huri⟩, ?_⟩
  rintro (e | (e | ⟨⟩)) _
  all_goals exact ⟨rfl, hchecked.extend _⟩

theorem postSendOnchain_guarded (auth : Option String) (body : ByteArray) :
    Guarded (Justified d (.postSendOnchain auth body))
      (Answerable d (.postSendOnchain auth body)) []
      (Admin.postSendOnchain d.lib d.adminState auth body) := by
  apply authorized_guarded rfl (fun _ => rfl)
  intro h hchecked
  rcases hreq : d.lib.sendOnchainRequestFromSlice body with e | req
  · exact fun _ => ⟨rfl, hchecked⟩
  simp only
  rcases haddress : Admin.checkedAddress d.lib d.adminState.network req.address with e | address
  · exact fun _ => ⟨rfl, hchecked⟩
  simp only [perform_bind, guarded_call]
  refine ⟨⟨hchecked, auth, body, req, rfl, hreq, haddress, rfl⟩, ?_⟩
  rintro (e | txid) _
  all_goals exact ⟨rfl, hchecked.extend _⟩

theorem postLsps1Order_guarded (auth : Option String) (body : ByteArray) :
    Guarded (Justified d (.postLsps1Order auth body)) (Answerable d (.postLsps1Order auth body))
      [] (Admin.postLsps1Order d.lib d.adminState auth body) := by
  apply authorized_guarded rfl (fun _ => rfl)
  intro h hchecked
  rcases hapi : d.adminState.lsps1ApiUrl with _ | api
  · exact fun _ => ⟨rfl, hchecked⟩
  rcases hreq : d.lib.lsps1OrderRequestFromSlice body with e | req
  · exact fun _ => ⟨rfl, hchecked⟩
  simp only [perform_bind, guarded_call]
  refine ⟨trivial, fun nodeId => ⟨⟨hchecked.extend _, auth, body, req, api, nodeId, rfl, hreq,
    hapi, rfl, rfl⟩, ?_⟩⟩
  have hchecked' := (hchecked.extend [⟨.nodeId, nodeId⟩]).extend
  rintro (e | resp)
  · exact fun _ => ⟨rfl, hchecked' _⟩
  simp only
  rcases resp.json with e | json
  · exact fun _ => ⟨rfl, hchecked' _⟩
  simp only
  rcases resp.isSuccess with _ | _
  all_goals exact fun _ => ⟨rfl, hchecked' _⟩

theorem getLsps1Order_guarded (orderId : String) (auth : Option String) :
    Guarded (Justified d (.getLsps1Order orderId auth))
      (Answerable d (.getLsps1Order orderId auth)) []
      (Admin.getLsps1Order d.lib d.adminState orderId auth) := by
  apply authorized_guarded rfl (fun _ => rfl)
  intro h hchecked
  rcases hapi : d.adminState.lsps1ApiUrl with _ | api
  · exact fun _ => ⟨rfl, hchecked⟩
  simp only [perform_bind, guarded_call]
  refine ⟨⟨hchecked, orderId, auth, api, rfl, hapi, rfl⟩, ?_⟩
  rintro (e | resp)
  · exact fun _ => ⟨rfl, hchecked.extend _⟩
  simp only
  rcases resp.json with e | json
  · exact fun _ => ⟨rfl, hchecked.extend _⟩
  simp only
  rcases resp.isSuccess with _ | _
  all_goals exact fun _ => ⟨rfl, hchecked.extend _⟩

/-! The buyer's handlers. -/

def NoPurchaseIn (h : List DaemonCall) : Prop := ∀ c ∈ h, c.1.isCreatePurchase = false

theorem NoPurchaseIn.snoc {h : List DaemonCall} (hnone : NoPurchaseIn h) {op : Op}
    (hop : op.isCreatePurchase = false) (ans : Answer op) : NoPurchaseIn (h ++ [⟨op, ans⟩]) := by
  intro c hc
  rcases List.mem_append.mp hc with hc | hc
  · exact hnone c hc
  · simp only [List.mem_singleton] at hc
    subst hc
    exact hop

theorem requestInvoice_guarded {job : Job} {amountMsat : UInt64} {desc : InvoiceDescription}
    {h : List DaemonCall} (hnone : NoPurchaseIn h) :
    Guarded (Justified d job)
      (fun h' r => NoPurchaseIn h' ∧
        ∀ inv, r = .ok inv → ObtainedHash d.lib h' (d.lib.hexEncode inv.paymentHash))
      h (Gate.requestInvoice amountMsat desc) := by
  unfold Gate.requestInvoice
  simp only [perform_bind, guarded_call]
  refine ⟨trivial, fun channels => ?_⟩
  have hnone' := hnone.snoc (show Op.listChannels.isCreatePurchase = false from rfl) channels
  split
  · refine ⟨trivial, fun r => ⟨hnone'.snoc rfl r, ?_⟩⟩
    rintro inv rfl
    exact ⟨inv, _, _, _, rfl, Or.inl List.mem_concat_self⟩
  · simp only [guarded_call]
    refine ⟨trivial, ?_⟩
    rintro (e | inv)
    · refine ⟨trivial, fun r => ⟨(hnone'.snoc rfl _).snoc rfl r, ?_⟩⟩
      rintro inv rfl
      exact ⟨inv, _, _, _, rfl, Or.inl List.mem_concat_self⟩
    · refine ⟨hnone'.snoc rfl _, ?_⟩
      rintro inv' hinv
      obtain rfl := Except.ok.inj hinv
      exact ⟨inv, _, _, _, rfl, Or.inr List.mem_concat_self⟩

theorem newClaimToken_guarded {job : Job} {h : List DaemonCall} (hnone : NoPurchaseIn h) :
    Guarded (Justified d job)
      (fun h' r => NoPurchaseIn h' ∧ ∀ token, r = .ok token → ObtainedToken d.lib h' token)
      h (Gate.newClaimToken d.lib) := by
  unfold Gate.newClaimToken
  simp only [perform_bind, guarded_call]
  refine ⟨trivial, ?_⟩
  rintro (e | bytes)
  · exact ⟨hnone.snoc rfl _, fun token htoken => by cases htoken⟩
  · refine ⟨hnone.snoc rfl _, fun token htoken => ?_⟩
    obtain rfl := Except.ok.inj htoken
    exact ⟨bytes, rfl, by simp⟩

theorem sell_guarded {slug : String} {body : Option Gate.InvoiceRequest}
    {amountSats amountMsat : UInt64} {desc : InvoiceDescription} {h : List DaemonCall}
    (hnone : NoPurchaseIn h)
    (hproduct : ∃ l p, ⟨.lock, some l⟩ ∈ h ∧ l.store.getProduct slug = some p) :
    Guarded (Justified d (.postInvoice slug body)) (Answerable d (.postInvoice slug body)) h
      (Gate.sell d.lib slug amountSats amountMsat desc) := by
  unfold Gate.sell
  have hsame : h <+: h := List.prefix_refl h
  apply ((requestInvoice_guarded hnone).extends hsame).bind
  intro h₁ r hr
  obtain ⟨hpre₁, hnone₁, hhash⟩ := hr
  rcases r with e | invoice
  · exact Answerable.of_public rfl
  have hsame₁ : h₁ <+: h₁ := List.prefix_refl h₁
  apply ((newClaimToken_guarded hnone₁).extends hsame₁).bind
  intro h₂ r hr
  obtain ⟨hpre₂, hnone₂, htoken⟩ := hr
  rcases r with e | claimToken
  · exact Answerable.of_public rfl
  simp only [perform_bind, guarded_call]
  refine ⟨trivial, fun now => ⟨⟨⟨body, rfl⟩, ?_, ?_, ?_, hnone₂.snoc rfl now⟩, ?_⟩⟩
  · obtain ⟨l, p, hl, hp⟩ := hproduct
    exact ⟨l, p, List.mem_append_left _ (hpre₂.subset (hpre₁.subset hl)), hp⟩
  · obtain ⟨inv, a, desc', expiry, heq, hmem⟩ := hhash invoice rfl
    refine ⟨inv, a, desc', expiry, heq, ?_⟩
    rcases hmem with hmem | hmem
    · exact Or.inl (List.mem_append_left _ (hpre₂.subset hmem))
    · exact Or.inr (List.mem_append_left _ (hpre₂.subset hmem))
  · obtain ⟨bytes, heq, hmem⟩ := htoken claimToken rfl
    exact ⟨bytes, heq, List.mem_append_left _ hmem⟩
  · rintro (_ | (e | ⟨⟩))
    all_goals exact Answerable.of_public rfl

theorem postInvoice_guarded (slug : String) (body : Option Gate.InvoiceRequest) :
    Guarded (Justified d (.postInvoice slug body)) (Answerable d (.postInvoice slug body)) []
      (Gate.postInvoice d.lib d.gateState slug body) := by
  unfold Gate.postInvoice
  simp only [perform_bind, guarded_call]
  refine ⟨trivial, ?_⟩
  rintro (_ | l)
  · exact Answerable.of_public rfl
  simp only
  rcases hp : l.store.getProduct slug with _ | p
  · exact Answerable.of_public rfl
  simp only
  split
  · exact Answerable.of_public rfl
  split
  · exact Answerable.of_public rfl
  split
  · exact Answerable.of_public rfl
  · refine sell_guarded ?_ ⟨l, p, List.mem_concat_self, hp⟩
    intro c hc
    simp only [List.nil_append, List.mem_singleton] at hc
    subst hc
    rfl

theorem paidOrSettled_guarded {job : Job} {paid : Bool} {paymentHash : String}
    {h : List DaemonCall} :
    Guarded (Justified d job) (fun _ _ => True) h
      (Gate.paidOrSettled d.lib paid paymentHash) := by
  unfold Gate.paidOrSettled
  split
  · trivial
  simp only [perform_bind, guarded_call]
  refine ⟨trivial, fun payments => ?_⟩
  split
  · rename_i hsettled
    exact ⟨Or.inr ⟨payments, List.mem_concat_self, hsettled⟩, fun _ => trivial⟩
  · trivial

theorem getStatus_guarded (slug claim : String) :
    Guarded (Justified d (.getStatus slug claim)) (Answerable d (.getStatus slug claim)) []
      (Gate.getStatus d.lib slug claim) := by
  unfold Gate.getStatus
  simp only [perform_bind, guarded_call]
  refine ⟨trivial, ?_⟩
  rintro (_ | l)
  · exact Answerable.of_public rfl
  simp only
  split
  · exact Answerable.of_public rfl
  split
  · exact paidOrSettled_guarded.bind fun h paid _ => Answerable.of_public rfl
  · exact Answerable.of_public rfl

theorem credentialHash_guarded {job : Job} {params : Gate.DownloadParams} :
    Guarded (Justified d job)
      (fun _ r => ∀ resp, r = .error resp → resp.isAdmin = false) []
      (Gate.credentialHash d.lib params) := by
  unfold Gate.credentialHash
  split
  · split
    · rintro resp hresp
      obtain rfl := Except.error.inj hresp
      rfl
    · rintro resp hresp
      cases hresp
  · simp only [perform_bind, guarded_call]
    refine ⟨trivial, ?_⟩
    rintro (_ | l)
    · rintro resp hresp
      obtain rfl := Except.error.inj hresp
      rfl
    · simp only
      split
      · rintro resp hresp
        cases hresp
      · rintro resp hresp
        obtain rfl := Except.error.inj hresp
        rfl
  · rintro resp hresp
    obtain rfl := Except.error.inj hresp
    rfl

theorem serveArtifact_guarded {job : Job} {slug : String} {product : ProductRecord}
    {h : List DaemonCall} :
    Guarded (Justified d job) (Answerable d job) h (Gate.serveArtifact d.lib slug product) := by
  unfold Gate.serveArtifact
  simp only [perform_bind, guarded_call]
  refine ⟨trivial, ?_⟩
  rintro (_ | l)
  · exact Answerable.of_public rfl
  simp only [guarded_call]
  refine ⟨trivial, ?_⟩
  rintro (e | contents)
  · exact Answerable.of_public rfl
  simp only
  split
  all_goals exact Answerable.of_public rfl

theorem getDownload_guarded (slug : String) (params : Gate.DownloadParams) :
    Guarded (Justified d (.getDownload slug params)) (Answerable d (.getDownload slug params)) []
      (Gate.getDownload d.lib slug params) := by
  unfold Gate.getDownload
  apply credentialHash_guarded.bind
  intro h r hr
  rcases r with resp | paymentHash
  · exact Answerable.of_public (hr resp rfl)
  simp only [perform_bind, guarded_call]
  refine ⟨trivial, ?_⟩
  rintro (_ | l)
  · exact Answerable.of_public rfl
  simp only
  split
  · exact Answerable.of_public rfl
  split
  · exact Answerable.of_public rfl
  split
  · exact Answerable.of_public rfl
  apply paidOrSettled_guarded.bind
  intro h' paid _
  split
  · exact Answerable.of_public rfl
  · exact serveArtifact_guarded

theorem onPaymentReceived_guarded (paymentHash : ByteArray) :
    Guarded (Justified d (.paymentReceived paymentHash))
      (Answerable d (.paymentReceived paymentHash)) []
      (onPaymentReceived d.lib paymentHash) := by
  unfold onPaymentReceived
  simp only [perform_bind, guarded_call]
  refine ⟨Or.inl ⟨paymentHash, rfl, rfl⟩, fun _ => ⟨trivial, ?_⟩⟩
  rintro (e | ⟨⟩)
  all_goals exact Answerable.of_public rfl

/-! The handlers that never touch the store. -/

theorem getProduct_guarded (slug : String) :
    Guarded (Justified d (.getProduct slug)) (Answerable d (.getProduct slug)) []
      (Gate.getProduct slug) := by
  unfold Gate.getProduct
  simp only [perform_bind, guarded_call]
  refine ⟨trivial, ?_⟩
  rintro (_ | l)
  · exact Answerable.of_public rfl
  simp only
  split
  all_goals exact Answerable.of_public rfl

theorem lnurlInvoice_guarded {job : Job} {amountMsat inbound : UInt64}
    {desc : InvoiceDescription} {h : List DaemonCall} :
    Guarded (Justified d job) (fun _ _ => True) h
      (Lnurl.requestInvoice inbound amountMsat desc) := by
  unfold Lnurl.requestInvoice
  split
  · exact ⟨trivial, fun _ => trivial⟩
  · simp only [perform_bind, guarded_call]
    refine ⟨trivial, ?_⟩
    rintro (e | inv)
    · exact ⟨trivial, fun _ => trivial⟩
    · trivial

theorem lnurlp_guarded (name : String) (params : Lnurl.CallbackParams) :
    Guarded (Justified d (.lnurlp name params)) (Answerable d (.lnurlp name params)) []
      (Lnurl.lnurlp d.lib d.lnurlState name params) := by
  unfold Lnurl.lnurlp
  split
  · exact Answerable.of_public rfl
  split
  · exact ⟨trivial, fun _ => Answerable.of_public rfl⟩
  unfold Lnurl.invoiceResponse
  simp only [perform_bind, guarded_call]
  refine ⟨trivial, fun channels => ?_⟩
  split
  · exact Answerable.of_public rfl
  split
  · exact Answerable.of_public rfl
  apply lnurlInvoice_guarded.bind
  intro h r _
  rcases r with e | inv
  all_goals exact Answerable.of_public rfl

theorem createInvoice_guarded (amountSats : Option UInt64) :
    Guarded (Justified d (.createInvoice amountSats)) (Answerable d (.createInvoice amountSats))
      [] (App.createInvoice d.lib d.appState amountSats) := by
  unfold App.createInvoice
  simp only
  split
  · exact Answerable.of_public rfl
  simp only [perform_bind, guarded_call]
  refine ⟨trivial, ?_⟩
  rintro (e | invoice)
  all_goals exact Answerable.of_public rfl

end Handlers

/-- Whatever answers they get, the daemon's handlers perform only justified
    operations and give what is the operator's only to signed requests. -/
theorem handle_guarded (d : Daemon) (job : Job) :
    Guarded (Justified d job) (Answerable d job) [] (handle d job) := by
  cases job with
  | putProduct slug params auth body => exact putProduct_guarded slug params auth body
  | getProduct slug => exact getProduct_guarded slug
  | postInvoice slug body => exact postInvoice_guarded slug body
  | getStatus slug claim => exact getStatus_guarded slug claim
  | getDownload slug params => exact getDownload_guarded slug params
  | getAddress auth => exact getAddress_guarded auth
  | getBalance auth => exact getBalance_guarded auth
  | postConnect auth body => exact postConnect_guarded auth body
  | postSendOnchain auth body => exact postSendOnchain_guarded auth body
  | postLsps1Order auth body => exact postLsps1Order_guarded auth body
  | getLsps1Order orderId auth => exact getLsps1Order_guarded orderId auth
  | lnurlp name params => exact lnurlp_guarded name params
  | health =>
    exact ⟨trivial, fun _ => ⟨trivial, fun _ => ⟨trivial, fun _ => Answerable.of_public rfl⟩⟩⟩
  | getNodeId => exact ⟨trivial, fun _ => Answerable.of_public rfl⟩
  | createInvoice amountSats => exact createInvoice_guarded amountSats
  | paymentReceived paymentHash => exact onPaymentReceived_guarded paymentHash

/-! ### In every run -/

section Runs

variable {d : Daemon} {s : Shared} {τ : List DaemonLabel} {w : DaemonWorld}

/-- Each call in the trace of a run was justified when it was made, and what its
    thread had done by then is in the trace. -/
theorem DaemonRun.justified (hrun : DaemonRun d s τ w) {id : Nat} {job : Job} {c : DaemonCall}
    (hc : .call id job c ∈ τ) :
    ∃ h, Justified d job h c.1 ∧ ∀ c' ∈ h, .call id job c' ∈ τ :=
  hrun.justified_call (handle_guarded d) hc

/-- What a job of a run answered with is justified by what its thread had done. -/
theorem DaemonRun.answerable (hrun : DaemonRun d s τ w) {id : Nat} {job : Job}
    {resp : Response} (hanswer : .answer id job resp ∈ τ) (hadmin : resp.isAdmin = true) :
    ∃ h, job.isAdmin = true ∧ Checked d job h ∧ ∀ c' ∈ h, .call id job c' ∈ τ := by
  obtain ⟨h, -, hreaches, hcalled⟩ := Run.answered hrun id job resp hanswer
  obtain ⟨hjob, hchecked⟩ := (handle_guarded d job).result hreaches hadmin
  exact ⟨h, hjob, hchecked, hcalled⟩

end Runs

end ArtistNode
