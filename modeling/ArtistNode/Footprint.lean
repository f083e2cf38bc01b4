import ArtistNode.Daemon

/-!
# What each request can do

The operations that each handler performs, whatever answers it gets. What a request does not
use at all needs no further justification.
-/

namespace ArtistNode

open Base

/-- The operations that a job's handler may perform. -/
def Job.uses (job : Job) (op : Op) : Bool :=
  match job with
  | .putProduct .. => match op with
    | .nowSecs | .lock | .writeFile .. | .upsertProduct _ => true
    | _ => false
  | .getProduct _ => match op with
    | .lock => true
    | _ => false
  | .postInvoice .. => match op with
    | .lock | .listChannels | .receive .. | .receiveViaJitChannel .. | .fillRandom _ | .nowSecs
    | .createPurchase .. => true
    | _ => false
  | .getStatus .. => match op with
    | .lock | .listPayments | .markPaid _ => true
    | _ => false
  | .getDownload .. => match op with
    | .lock | .listPayments | .markPaid _ | .openFile _ => true
    | _ => false
  | .getAddress _ => match op with
    | .nowSecs | .newAddress => true
    | _ => false
  | .getBalance _ => match op with
    | .nowSecs | .listBalances | .listChannels => true
    | _ => false
  | .postConnect .. => match op with
    | .nowSecs | .connect .. => true
    | _ => false
  | .postSendOnchain .. => match op with
    | .nowSecs | .sendToAddress .. => true
    | _ => false
  | .postLsps1Order .. => match op with
    | .nowSecs | .nodeId | .lsps1Post .. => true
    | _ => false
  | .getLsps1Order .. => match op with
    | .nowSecs | .lsps1Get _ => true
    | _ => false
  | .lnurlp .. => match op with
    | .listChannels | .receive .. | .receiveViaJitChannel .. => true
    | _ => false
  | .health => match op with
    | .nodeId | .listChannels | .listPeers => true
    | _ => false
  | .getNodeId => match op with
    | .nodeId => true
    | _ => false
  | .createInvoice _ => match op with
    | .receive .. => true
    | _ => false
  | .paymentReceived _ => match op with
    | .markPaid _ | .eventHandled => true
    | _ => false

/-- The responses, but for errors, that a job's handler may give. -/
def Job.answers (job : Job) (resp : Response) : Bool :=
  match resp, job with
  | .err .., _ => true
  | .productCreated _, .putProduct .. => true
  | .product _, .getProduct _ => true
  | .purchaseInvoice _, .postInvoice .. => true
  | .paid _, .getStatus .. => true
  | .artifact .., .getDownload .. => true
  | .address _, .getAddress _ => true
  | .balance _, .getBalance _ => true
  | .connected, .postConnect .. => true
  | .txid _, .postSendOnchain .. => true
  | .lsps1 _, .postLsps1Order .. => true
  | .lsps1 _, .getLsps1Order .. => true
  | .payRequest _, .lnurlp .. => true
  | .lnurlInvoice _, .lnurlp .. => true
  | .lnurlError _, .lnurlp .. => true
  | .health _, .health => true
  | .nodeInfo .., .getNodeId => true
  | .invoice .., .createInvoice _ => true
  | .invoiceError _, .createInvoice _ => true
  | .eventLoop _, .paymentReceived _ => true
  | _, _ => false

/-- The process performs only what the job uses. -/
abbrev Uses {α : Type} (job : Job) (Q : α → Prop) (h : List DaemonCall) (p : Handler α) : Prop :=
  Guarded (fun _ op => job.uses op = true) (fun _ a => Q a) h p

/-- And it ends with what the job answers. -/
abbrev Within (job : Job) (h : List DaemonCall) (p : Handler Response) : Prop :=
  Uses job (fun resp => job.answers resp = true) h p

/-- A refusal is an error. -/
def Refuses {α : Type} (r : Except Response α) : Prop :=
  ∀ resp, r = .error resp → ∃ status e, resp = .err status e

theorem Refuses.of_ok {α : Type} (a : α) : Refuses (.ok a) := by
  intro resp hresp
  cases hresp

theorem Refuses.of_err {α : Type} (status : StatusCode) (e : String) :
    Refuses (.error (.err status e) : Except Response α) := by
  intro resp hresp
  obtain rfl := Except.error.inj hresp
  exact ⟨status, e, rfl⟩

section Handlers

variable {lib : Crates} {h : List DaemonCall} {job : Job}

/-! ### Sales -/

theorem putProduct_within (st : Gate.GateState) (slug : String) (params : Gate.UploadParams)
    (authorization : Option String) (body : ByteArray) :
    Within (.putProduct slug params authorization body) h
      (Gate.putProduct lib st slug params authorization body) := by
  unfold Gate.putProduct Gate.storeUpload
  split
  · exact rfl
  iterate 4
    split
    · exact rfl
  split
  · exact rfl
  simp only [perform_bind, guarded_call]
  refine ⟨rfl, fun now => ?_⟩
  split
  · exact rfl
  simp only [guarded_call]
  refine ⟨rfl, fun l => ?_⟩
  rcases l with _ | l
  · exact rfl
  simp only [guarded_call]
  refine ⟨rfl, fun written => ?_⟩
  rcases written with e | ⟨⟩
  · exact rfl
  simp only [guarded_call]
  refine ⟨rfl, fun registered => ?_⟩
  rcases registered with _ | (e | ⟨⟩)
  all_goals exact rfl

theorem getProduct_within (slug : String) : Within (.getProduct slug) h (Gate.getProduct slug) := by
  unfold Gate.getProduct
  simp only [perform_bind, guarded_call]
  refine ⟨rfl, fun l => ?_⟩
  rcases l with _ | l
  · exact rfl
  simp only
  split
  all_goals exact rfl

theorem saleInvoice_uses (hlist : job.uses .listChannels = true)
    (hplain : ∀ amountMsat desc expirySecs, job.uses (.receive amountMsat desc expirySecs) = true)
    (hjit : ∀ amountMsat desc expirySecs,
      job.uses (.receiveViaJitChannel amountMsat desc expirySecs) = true)
    (amountMsat : UInt64) (desc : InvoiceDescription) :
    Uses job (fun _ => True) h (Gate.requestInvoice amountMsat desc) := by
  unfold Gate.requestInvoice
  simp only [perform_bind, guarded_call]
  refine ⟨hlist, fun channels => ?_⟩
  split
  · exact ⟨hplain _ _ _, fun _ => trivial⟩
  · simp only [guarded_call]
    refine ⟨hjit _ _ _, fun r => ?_⟩
    rcases r with e | inv
    · exact ⟨hplain _ _ _, fun _ => trivial⟩
    · trivial

theorem postInvoice_within (st : Gate.GateState) (slug : String)
    (body : Option Gate.InvoiceRequest) :
    Within (.postInvoice slug body) h (Gate.postInvoice lib st slug body) := by
  unfold Gate.postInvoice
  simp only [perform_bind, guarded_call]
  refine ⟨rfl, fun l => ?_⟩
  rcases l with _ | l
  · exact rfl
  simp only
  iterate 4
    split
    · exact rfl
  unfold Gate.sell
  apply (saleInvoice_uses rfl (fun _ _ _ => rfl) (fun _ _ _ => rfl) _ _).bind
  intro h r _
  rcases r with e | invoice
  · exact rfl
  simp only [Gate.newClaimToken, perform_bind, guarded_call, Process.call_bind]
  refine ⟨rfl, fun bytes => ?_⟩
  rcases bytes with e | bytes
  · exact rfl
  refine ⟨rfl, fun now => ⟨rfl, fun recorded => ?_⟩⟩
  rcases recorded with _ | (e | ⟨⟩)
  all_goals exact rfl

theorem paidOrSettled_uses (hlist : job.uses .listPayments = true)
    (hmark : ∀ hash, job.uses (.markPaid hash) = true) (paid : Bool) (paymentHash : String) :
    Uses job (fun _ => True) h (Gate.paidOrSettled lib paid paymentHash) := by
  unfold Gate.paidOrSettled
  split
  · trivial
  simp only [perform_bind, guarded_call]
  refine ⟨hlist, fun payments => ?_⟩
  split
  · exact ⟨hmark _, fun _ => trivial⟩
  · trivial

theorem getStatus_within (slug claim : String) :
    Within (.getStatus slug claim) h (Gate.getStatus lib slug claim) := by
  unfold Gate.getStatus
  simp only [perform_bind, guarded_call]
  refine ⟨rfl, fun l => ?_⟩
  rcases l with _ | l
  · exact rfl
  simp only
  split
  · exact rfl
  split
  · exact (paidOrSettled_uses rfl (fun _ => rfl) _ _).bind fun _ _ _ => rfl
  · exact rfl

theorem credentialHash_uses (hlock : job.uses .lock = true) (params : Gate.DownloadParams) :
    Uses job Refuses h (Gate.credentialHash lib params) := by
  unfold Gate.credentialHash
  split
  · split
    · exact Refuses.of_err _ _
    · exact Refuses.of_ok _
  · simp only [perform_bind, guarded_call]
    refine ⟨hlock, fun l => ?_⟩
    rcases l with _ | l
    · exact Refuses.of_err _ _
    simp only
    split
    · exact Refuses.of_ok _
    · exact Refuses.of_err _ _
  · exact Refuses.of_err _ _

theorem getDownload_within (slug : String) (params : Gate.DownloadParams) :
    Within (.getDownload slug params) h (Gate.getDownload lib slug params) := by
  unfold Gate.getDownload
  apply (credentialHash_uses rfl params).bind
  intro h' r hrefuses
  rcases r with resp | paymentHash
  · obtain ⟨status, e, rfl⟩ := hrefuses resp rfl
    exact rfl
  simp only [perform_bind, guarded_call]
  refine ⟨rfl, fun l => ?_⟩
  rcases l with _ | l
  · exact rfl
  simp only
  iterate 3
    split
    · exact rfl
  apply (paidOrSettled_uses rfl (fun _ => rfl) _ _).bind
  intro h'' paid _
  split
  · exact rfl
  unfold Gate.serveArtifact
  simp only [perform_bind, guarded_call]
  refine ⟨rfl, fun l => ?_⟩
  rcases l with _ | l
  · exact rfl
  simp only [guarded_call]
  refine ⟨rfl, fun contents => ?_⟩
  rcases contents with e | contents
  · exact rfl
  simp only
  split
  all_goals exact rfl

/-! ### Administration -/

theorem authorize_uses (hclock : job.uses .nowSecs = true) (st : Admin.AdminState)
    (authorization : Option String) (method path : String) (body : Option ByteArray) :
    Uses job Refuses h (Admin.authorize lib st authorization method path body) := by
  unfold Admin.authorize
  split
  · exact Refuses.of_err _ _
  split
  · exact Refuses.of_err _ _
  simp only [perform_bind, guarded_call]
  refine ⟨hclock, fun now => ?_⟩
  split
  · exact Refuses.of_err _ _
  · exact Refuses.of_ok _

/-- What follows the check of an operator's request. -/
theorem authorized_within {st : Admin.AdminState} {authorization : Option String}
    {method path : String} {body : Option ByteArray} {f : Except Response Unit → Handler Response}
    (hclock : job.uses .nowSecs = true) (hrefused : ∀ resp, f (.error resp) = .done resp)
    (hpassed : ∀ h, Within job h (f (.ok ()))) :
    Within job h (Admin.authorize lib st authorization method path body >>= f) := by
  apply (authorize_uses hclock st authorization method path body).bind
  intro h' r hrefuses
  rcases r with resp | ⟨⟩
  · obtain ⟨status, e, rfl⟩ := hrefuses resp rfl
    rw [hrefused]
    exact rfl
  · exact hpassed h'

theorem getAddress_within (st : Admin.AdminState) (authorization : Option String) :
    Within (.getAddress authorization) h (Admin.getAddress lib st authorization) := by
  apply authorized_within rfl (fun _ => rfl)
  intro h
  simp only [perform_bind, guarded_call]
  refine ⟨rfl, fun addr => ?_⟩
  rcases addr with e | addr
  all_goals exact rfl

theorem getBalance_within (st : Admin.AdminState) (authorization : Option String) :
    Within (.getBalance authorization) h (Admin.getBalance lib st authorization) := by
  apply authorized_within rfl (fun _ => rfl)
  intro h
  exact ⟨rfl, fun _ => ⟨rfl, fun _ => ⟨rfl, fun _ => rfl⟩⟩⟩

theorem postConnect_within (st : Admin.AdminState) (authorization : Option String)
    (body : ByteArray) :
    Within (.postConnect authorization body) h (Admin.postConnect lib st authorization body) := by
  apply authorized_within rfl (fun _ => rfl)
  intro h
  simp only
  split
  · exact rfl
  split
  · exact rfl
  simp only [perform_bind, guarded_call]
  refine ⟨rfl, fun connected => ?_⟩
  rcases connected with e | (e | ⟨⟩)
  all_goals exact rfl

theorem postSendOnchain_within (st : Admin.AdminState) (authorization : Option String)
    (body : ByteArray) : Within (.postSendOnchain authorization body) h
      (Admin.postSendOnchain lib st authorization body) := by
  apply authorized_within rfl (fun _ => rfl)
  intro h
  simp only
  split
  · exact rfl
  split
  · exact rfl
  simp only [perform_bind, guarded_call]
  refine ⟨rfl, fun sent => ?_⟩
  rcases sent with e | txid
  all_goals exact rfl

theorem postLsps1Order_within (st : Admin.AdminState) (authorization : Option String)
    (body : ByteArray) : Within (.postLsps1Order authorization body) h
      (Admin.postLsps1Order lib st authorization body) := by
  apply authorized_within rfl (fun _ => rfl)
  intro h
  simp only
  split
  · exact rfl
  split
  · exact rfl
  simp only [perform_bind, guarded_call]
  refine ⟨rfl, fun nodeId => ⟨rfl, fun answered => ?_⟩⟩
  rcases answered with e | resp
  · exact rfl
  simp only
  split
  · exact rfl
  split
  all_goals exact rfl

theorem getLsps1Order_within (st : Admin.AdminState) (orderId : String)
    (authorization : Option String) : Within (.getLsps1Order orderId authorization) h
      (Admin.getLsps1Order lib st orderId authorization) := by
  apply authorized_within rfl (fun _ => rfl)
  intro h
  simp only
  split
  · exact rfl
  simp only [perform_bind, guarded_call]
  refine ⟨rfl, fun answered => ?_⟩
  rcases answered with e | resp
  · exact rfl
  simp only
  split
  · split
    all_goals exact rfl
  · exact rfl

/-! ### The node -/

theorem zapInvoice_uses
    (hplain : ∀ amountMsat desc expirySecs, job.uses (.receive amountMsat desc expirySecs) = true)
    (hjit : ∀ amountMsat desc expirySecs,
      job.uses (.receiveViaJitChannel amountMsat desc expirySecs) = true)
    (inbound amountMsat : UInt64) (desc : InvoiceDescription) :
    Uses job (fun _ => True) h (Lnurl.requestInvoice inbound amountMsat desc) := by
  unfold Lnurl.requestInvoice
  split
  · exact ⟨hplain _ _ _, fun _ => trivial⟩
  · simp only [perform_bind, guarded_call]
    refine ⟨hjit _ _ _, fun r => ?_⟩
    rcases r with e | inv
    · exact ⟨hplain _ _ _, fun _ => trivial⟩
    · trivial

theorem lnurlp_within (st : Lnurl.LnurlState) (name : String) (params : Lnurl.CallbackParams) :
    Within (.lnurlp name params) h (Lnurl.lnurlp lib st name params) := by
  unfold Lnurl.lnurlp
  split
  · exact rfl
  split
  · exact ⟨rfl, fun _ => rfl⟩
  unfold Lnurl.invoiceResponse
  simp only [perform_bind, guarded_call]
  refine ⟨rfl, fun channels => ?_⟩
  split
  · exact rfl
  split
  · exact rfl
  apply (zapInvoice_uses (fun _ _ _ => rfl) (fun _ _ _ => rfl) _ _ _).bind
  intro h' r _
  rcases r with e | inv
  all_goals exact rfl

theorem createInvoice_within (st : App.AppState) (amountSats : Option UInt64) :
    Within (.createInvoice amountSats) h (App.createInvoice lib st amountSats) := by
  unfold App.createInvoice
  simp only
  split
  · exact rfl
  simp only [perform_bind, guarded_call]
  refine ⟨rfl, fun r => ?_⟩
  rcases r with e | inv
  all_goals exact rfl

theorem onPaymentReceived_within (paymentHash : ByteArray) :
    Within (.paymentReceived paymentHash) h (onPaymentReceived lib paymentHash) := by
  unfold onPaymentReceived
  simp only [perform_bind, guarded_call]
  refine ⟨rfl, fun _ => ⟨rfl, fun handled => ?_⟩⟩
  rcases handled with e | ⟨⟩
  all_goals exact rfl

end Handlers

/-- Whatever answers they get, the daemon's handlers keep to what their requests use. -/
theorem handle_within (d : Daemon) (job : Job) : Within job [] (handle d job) := by
  cases job with
  | putProduct slug params auth body => exact putProduct_within _ slug params auth body
  | getProduct slug => exact getProduct_within slug
  | postInvoice slug body => exact postInvoice_within _ slug body
  | getStatus slug claim => exact getStatus_within slug claim
  | getDownload slug params => exact getDownload_within slug params
  | getAddress auth => exact getAddress_within _ auth
  | getBalance auth => exact getBalance_within _ auth
  | postConnect auth body => exact postConnect_within _ auth body
  | postSendOnchain auth body => exact postSendOnchain_within _ auth body
  | postLsps1Order auth body => exact postLsps1Order_within _ auth body
  | getLsps1Order orderId auth => exact getLsps1Order_within _ orderId auth
  | lnurlp name params => exact lnurlp_within _ name params
  | health => exact ⟨rfl, fun _ => ⟨rfl, fun _ => ⟨rfl, fun _ => rfl⟩⟩⟩
  | getNodeId => exact ⟨rfl, fun _ => rfl⟩
  | createInvoice amountSats => exact createInvoice_within _ amountSats
  | paymentReceived paymentHash => exact onPaymentReceived_within paymentHash

end ArtistNode
