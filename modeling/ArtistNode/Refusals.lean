import ArtistNode.Base.Erasure
import ArtistNode.Delivery
import ArtistNode.Footprint

/-!
# Refused requests

The sales interface is open to everybody. A request that is turned away, or that is only told
something, has done nothing but look: the daemon would have gone through the same states
without it, and nobody else can tell whether it was made.
-/

namespace ArtistNode

open Base

/-! ### Looking and acting -/

/-- The operations that change neither the daemon's state nor the node's, and ask nobody else
    to change theirs. -/
def Op.looks : Op → Bool
  | .lock | .openFile _ | .nodeId | .listChannels | .listPeers | .listPayments | .listBalances
  | .lsps1Get _ | .nowSecs | .fillRandom _ => true
  | _ => false

/-- The statuses with which a request is turned away. -/
def StatusCode.turnsAway : StatusCode → Bool
  | .badRequest | .unauthorized | .paymentRequired | .notFound | .serviceUnavailable => true
  | _ => false

/-- The answers that turn a request away or only tell something. -/
def Response.harmless : Response → Bool
  | .err status _ => status.turnsAway
  | .product _ | .paid false | .balance _ | .payRequest _ | .health _ | .nodeInfo .. => true
  | _ => false

/-- A call that looks leaves the shared state as it is. -/
theorem Op.looks_observes {d : Daemon} {c : DaemonCall} (hc : c.1.looks = true) :
    Observes (system d) c := by
  obtain ⟨op, ans⟩ := c
  intro s s' hact
  cases op with
  | lock => exact hact.1
  | openFile path => exact hact.1
  | listPayments => exact hact.1
  | nodeId => exact hact
  | listChannels => exact hact
  | listPeers => exact hact
  | listBalances => exact hact
  | lsps1Get url => exact hact
  | nowSecs => exact hact
  | fillRandom length => exact hact
  | _ => cases hc

/-- So far the calls have only looked. -/
def Looking (h : List DaemonCall) : Prop := ∀ c ∈ h, c.1.looks = true

/-- The process ends with a harmless answer only if it has done nothing but look. -/
abbrev Spares (h : List DaemonCall) (p : Handler Response) : Prop :=
  Guarded AnyCall (fun h resp => resp.harmless = true → Looking h) h p

section Handlers

variable {α : Type} {lib : Crates} {h : List DaemonCall}

theorem Looking.snoc (hlooking : Looking h) {op : Op} (hop : op.looks = true) (ans : Answer op) :
    Looking (h ++ [⟨op, ans⟩]) := by
  intro c hc
  rcases List.mem_append.mp hc with hc | hc
  · exact hlooking c hc
  · obtain rfl := List.mem_singleton.mp hc
    exact hop

/-- One more look. -/
theorem spares_look {op : Op} {k : Answer op → Handler Response} (hop : op.looks = true)
    (hlooking : Looking h)
    (hk : ∀ ans, Looking (h ++ [⟨op, ans⟩]) → Spares (h ++ [⟨op, ans⟩]) (k ans)) :
    Spares h (.call op k) :=
  ⟨trivial, fun ans => hk ans (hlooking.snoc hop ans)⟩

/-- The other answers say nothing about what has been done. -/
theorem spares_other {resp : Response} (hother : resp.harmless = false) :
    Spares h (.done resp) := by
  intro hharmless
  cases hother.symm.trans hharmless

/-- A part of a handler that nothing is to be known of. -/
theorem guarded_any (p : Handler α) : Guarded AnyCall (fun _ _ => True) h p :=
  Guarded.of_forall (fun _ _ => trivial) (fun _ _ => trivial) p h

/-! ### Sales -/

/-- Once the artist is authorized, an upload is not turned away. -/
theorem storeUpload_spares (slug : String) (params : Gate.UploadParams) (body : ByteArray) :
    Spares h (Gate.storeUpload slug params body) := by
  unfold Gate.storeUpload
  simp only [perform_bind, guarded_call]
  refine ⟨trivial, fun l => ?_⟩
  rcases l with _ | l
  · exact spares_other rfl
  simp only [guarded_call]
  refine ⟨trivial, fun written => ?_⟩
  rcases written with e | ⟨⟩
  · exact spares_other rfl
  simp only [guarded_call]
  refine ⟨trivial, fun registered => ?_⟩
  rcases registered with _ | (e | ⟨⟩)
  all_goals exact spares_other rfl

theorem putProduct_spares (st : Gate.GateState) (slug : String) (params : Gate.UploadParams)
    (authorization : Option String) (body : ByteArray) (hlooking : Looking h) :
    Spares h (Gate.putProduct lib st slug params authorization body) := by
  unfold Gate.putProduct
  split
  · exact fun _ => hlooking
  iterate 4
    split
    · exact fun _ => hlooking
  split
  · exact fun _ => hlooking
  simp only [perform_bind]
  apply spares_look rfl hlooking
  intro now hlooking
  split
  · exact fun _ => hlooking
  · exact storeUpload_spares slug params body

/-- Once there is an invoice, or there should be one, the request is not turned away. -/
theorem sell_spares (slug : String) (amountSats amountMsat : UInt64)
    (desc : InvoiceDescription) : Spares h (Gate.sell lib slug amountSats amountMsat desc) := by
  unfold Gate.sell
  apply (guarded_any _).bind
  intro h r _
  rcases r with e | invoice
  · exact spares_other rfl
  simp only [Gate.newClaimToken, perform_bind, guarded_call, Process.call_bind]
  refine ⟨trivial, fun bytes => ?_⟩
  rcases bytes with e | bytes
  · exact spares_other rfl
  refine ⟨trivial, fun now => ⟨trivial, fun recorded => ?_⟩⟩
  rcases recorded with _ | (e | ⟨⟩)
  all_goals exact spares_other rfl

theorem postInvoice_spares (st : Gate.GateState) (slug : String)
    (body : Option Gate.InvoiceRequest) (hlooking : Looking h) :
    Spares h (Gate.postInvoice lib st slug body) := by
  unfold Gate.postInvoice
  simp only [perform_bind]
  apply spares_look rfl hlooking
  intro l hlooking
  rcases l with _ | l
  · exact fun _ => hlooking
  simp only
  iterate 4
    split
    · exact fun _ => hlooking
  exact sell_spares slug _ _ _

/-- A purchase that is not paid for has not been marked. -/
theorem paidOrSettled_spares (paid : Bool) (paymentHash : String) (hlooking : Looking h) :
    Guarded AnyCall (fun h paid => paid = false → Looking h) h
      (Gate.paidOrSettled lib paid paymentHash) := by
  unfold Gate.paidOrSettled
  split
  · exact fun _ => hlooking
  simp only [perform_bind, guarded_call]
  refine ⟨trivial, fun payments => ?_⟩
  split
  · refine ⟨trivial, fun _ hunpaid => ?_⟩
    cases hunpaid
  · exact fun _ => hlooking.snoc rfl payments

theorem getStatus_spares (slug claim : String) (hlooking : Looking h) :
    Spares h (Gate.getStatus lib slug claim) := by
  unfold Gate.getStatus
  simp only [perform_bind]
  apply spares_look rfl hlooking
  intro l hlooking
  rcases l with _ | l
  · exact fun _ => hlooking
  simp only
  split
  · exact fun _ => hlooking
  split
  · apply (paidOrSettled_spares _ _ hlooking).bind
    intro h paid hunpaid
    rcases paid with _ | _
    · exact fun _ => hunpaid rfl
    · exact spares_other rfl
  · exact fun _ => hlooking

theorem credentialHash_spares (params : Gate.DownloadParams) (hlooking : Looking h) :
    Guarded AnyCall (fun h _ => Looking h) h (Gate.credentialHash lib params) := by
  unfold Gate.credentialHash
  split
  · split
    all_goals exact hlooking
  · simp only [perform_bind, guarded_call]
    refine ⟨trivial, fun l => ?_⟩
    have hlooked : Looking (h ++ [⟨.lock, l⟩]) := hlooking.snoc rfl l
    rcases l with _ | l
    · exact hlooked
    simp only
    split
    all_goals exact hlooked
  · exact hlooking

/-- Once it is paid for, a download is not turned away. -/
theorem serveArtifact_spares (slug : String) (product : ProductRecord) :
    Spares h (Gate.serveArtifact lib slug product) := by
  unfold Gate.serveArtifact
  simp only [perform_bind, guarded_call]
  refine ⟨trivial, fun l => ?_⟩
  rcases l with _ | l
  · exact spares_other rfl
  simp only [guarded_call]
  refine ⟨trivial, fun contents => ?_⟩
  rcases contents with e | contents
  · exact spares_other rfl
  simp only
  split
  all_goals exact spares_other rfl

theorem getDownload_spares (slug : String) (params : Gate.DownloadParams)
    (hlooking : Looking h) : Spares h (Gate.getDownload lib slug params) := by
  unfold Gate.getDownload
  apply (credentialHash_spares params hlooking).bind
  intro h r hlooking
  rcases r with resp | paymentHash
  · exact fun _ => hlooking
  simp only [perform_bind]
  apply spares_look rfl hlooking
  intro l hlooking
  rcases l with _ | l
  · exact fun _ => hlooking
  simp only
  iterate 3
    split
    · exact fun _ => hlooking
  apply (paidOrSettled_spares _ _ hlooking).bind
  intro h paid hunpaid
  rcases paid with _ | _
  · exact fun _ => hunpaid rfl
  · exact serveArtifact_spares slug _

/-! ### Administration -/

theorem authorize_spares (st : Admin.AdminState) (authorization : Option String)
    (method path : String) (body : Option ByteArray) (hlooking : Looking h) :
    Guarded AnyCall (fun h _ => Looking h) h
      (Admin.authorize lib st authorization method path body) := by
  unfold Admin.authorize
  split
  · exact hlooking
  split
  · exact hlooking
  simp only [perform_bind, guarded_call]
  refine ⟨trivial, fun now => ?_⟩
  split
  all_goals exact hlooking.snoc rfl now

/-- What follows the check of an operator's request. -/
theorem authorized_spares {st : Admin.AdminState} {authorization : Option String}
    {method path : String} {body : Option ByteArray} {f : Except Response Unit → Handler Response}
    (hlooking : Looking h) (hrefused : ∀ resp, f (.error resp) = .done resp)
    (hpassed : ∀ h, Looking h → Spares h (f (.ok ()))) :
    Spares h (Admin.authorize lib st authorization method path body >>= f) := by
  apply (authorize_spares st authorization method path body hlooking).bind
  intro h r hlooking
  rcases r with resp | ⟨⟩
  · rw [hrefused]
    exact fun _ => hlooking
  · exact hpassed h hlooking

theorem getAddress_spares (st : Admin.AdminState) (authorization : Option String)
    (hlooking : Looking h) : Spares h (Admin.getAddress lib st authorization) := by
  apply authorized_spares hlooking (fun _ => rfl)
  intro h _
  simp only [perform_bind, guarded_call]
  refine ⟨trivial, fun addr => ?_⟩
  rcases addr with e | addr
  all_goals exact spares_other rfl

theorem postConnect_spares (st : Admin.AdminState) (authorization : Option String)
    (body : ByteArray) (hlooking : Looking h) :
    Spares h (Admin.postConnect lib st authorization body) := by
  apply authorized_spares hlooking (fun _ => rfl)
  intro h hlooking
  simp only
  split
  · exact fun _ => hlooking
  split
  · exact fun _ => hlooking
  simp only [perform_bind, guarded_call]
  refine ⟨trivial, fun connected => ?_⟩
  rcases connected with e | (e | ⟨⟩)
  all_goals exact spares_other rfl

theorem postSendOnchain_spares (st : Admin.AdminState) (authorization : Option String)
    (body : ByteArray) (hlooking : Looking h) :
    Spares h (Admin.postSendOnchain lib st authorization body) := by
  apply authorized_spares hlooking (fun _ => rfl)
  intro h hlooking
  simp only
  split
  · exact fun _ => hlooking
  split
  · exact fun _ => hlooking
  simp only [perform_bind, guarded_call]
  refine ⟨trivial, fun sent => ?_⟩
  rcases sent with e | txid
  all_goals exact spares_other rfl

theorem postLsps1Order_spares (st : Admin.AdminState) (authorization : Option String)
    (body : ByteArray) (hlooking : Looking h) :
    Spares h (Admin.postLsps1Order lib st authorization body) := by
  apply authorized_spares hlooking (fun _ => rfl)
  intro h hlooking
  simp only
  split
  · exact fun _ => hlooking
  split
  · exact fun _ => hlooking
  simp only [perform_bind, guarded_call]
  refine ⟨trivial, fun nodeId => ⟨trivial, fun answered => ?_⟩⟩
  rcases answered with e | resp
  · exact spares_other rfl
  simp only
  split
  · exact spares_other rfl
  split
  all_goals exact spares_other rfl

/-! ### The node -/

theorem lnurlp_spares (st : Lnurl.LnurlState) (name : String) (params : Lnurl.CallbackParams)
    (hlooking : Looking h) : Spares h (Lnurl.lnurlp lib st name params) := by
  unfold Lnurl.lnurlp
  split
  · exact fun _ => hlooking
  split
  · exact spares_look rfl hlooking fun _ hlooking _ => hlooking
  unfold Lnurl.invoiceResponse
  simp only [perform_bind]
  apply spares_look rfl hlooking
  intro channels hlooking
  split
  · exact fun _ => hlooking
  split
  · exact fun _ => hlooking
  apply (guarded_any _).bind
  intro h r _
  rcases r with e | inv
  all_goals exact spares_other rfl

theorem createInvoice_spares (st : App.AppState) (amountSats : Option UInt64) :
    Spares h (App.createInvoice lib st amountSats) := by
  unfold App.createInvoice
  simp only
  split
  · exact spares_other rfl
  simp only [perform_bind, guarded_call]
  refine ⟨trivial, fun r => ?_⟩
  rcases r with e | inv
  all_goals exact spares_other rfl

theorem onPaymentReceived_spares (paymentHash : ByteArray) :
    Spares h (onPaymentReceived lib paymentHash) := by
  unfold onPaymentReceived
  simp only [perform_bind, guarded_call]
  refine ⟨trivial, fun _ => ⟨trivial, fun handled => ?_⟩⟩
  rcases handled with e | ⟨⟩
  all_goals exact spares_other rfl

/-- Requests whose handlers only look anyway. -/
theorem Within.spares {job : Job} (hlooks : ∀ op, job.uses op = true → op.looks = true)
    {p : Handler Response} : ∀ {h}, Looking h → Within job h p → Spares h p := by
  induction p with
  | done resp => exact fun hlooking _ _ => hlooking
  | call op k ih =>
    intro h hlooking hwithin
    exact ⟨trivial, fun ans => ih ans (hlooking.snoc (hlooks op hwithin.1) ans) (hwithin.2 ans)⟩

end Handlers

/-- A request with a harmless answer has only looked. -/
theorem handle_spares (d : Daemon) (job : Job) : Spares [] (handle d job) := by
  have hstart : Looking [] := by
    intro c hc
    cases hc
  cases job with
  | putProduct slug params auth body => exact putProduct_spares _ slug params auth body hstart
  | postInvoice slug body => exact postInvoice_spares _ slug body hstart
  | getStatus slug claim => exact getStatus_spares slug claim hstart
  | getDownload slug params => exact getDownload_spares slug params hstart
  | getAddress auth => exact getAddress_spares _ auth hstart
  | postConnect auth body => exact postConnect_spares _ auth body hstart
  | postSendOnchain auth body => exact postSendOnchain_spares _ auth body hstart
  | postLsps1Order auth body => exact postLsps1Order_spares _ auth body hstart
  | lnurlp name params => exact lnurlp_spares _ name params hstart
  | createInvoice amountSats => exact createInvoice_spares _ amountSats
  | paymentReceived paymentHash => exact onPaymentReceived_spares paymentHash
  | _ =>
    refine Within.spares (fun op hop => ?_) hstart (handle_within d _)
    cases op <;> first | rfl | cases hop

/-! ### The result -/

/-- Refused requests leave no trace. Take out of a run any requests that were turned away or
    only told something: they have done nothing but look, and what is left, with the threads
    numbered anew, is a run to the same state of the daemon, in which every other thread has
    made the same calls, has had the same answers and stands where it stood. -/
theorem refusals_leave_no_trace {d : Daemon} {s₀ : Shared} {τ : List DaemonLabel}
    {w : DaemonWorld} {kept : Nat → Prop} [DecidablePred kept] (hrun : DaemonRun d s₀ τ w)
    (hharmless : ∀ id, ¬ kept id → ∃ job resp, .answer id job resp ∈ τ ∧ resp.harmless = true) :
    (∀ id job c, ¬ kept id → .call id job c ∈ τ → c.1.looks = true) ∧
      ∃ w', DaemonRun d s₀ (erase kept τ) w' ∧ w'.shared = w.shared ∧
        ∀ id, kept id → w'.threads (Nat.count kept id) = w.threads id := by
  have hlooks : ∀ id job c, ¬ kept id → .call id job c ∈ τ → c.1.looks = true := by
    intro id job c hgone hc
    obtain ⟨job', resp, hanswer, hresp⟩ := hharmless id hgone
    obtain ⟨hist, hreaches, hcalls⟩ := Run.answered_history hrun hanswer
    exact (handle_spares d job').result hreaches hresp c (hcalls job c hc)
  refine ⟨hlooks, ?_⟩
  obtain ⟨w', hrun', herased⟩ := Run.erase hrun fun id job c hc hgone =>
    Op.looks_observes (hlooks id job c hgone hc)
  exact ⟨w', hrun', herased.shared, herased.threads⟩

namespace Sample

/-- The buyer asks for the track before the payment has come in. -/
def unpaidCalls : List DaemonCall :=
  [⟨.lock, some soldLocked⟩, ⟨.lock, some soldLocked⟩, ⟨.listPayments, []⟩]

def unpaidAnswer : Response := .err .paymentRequired "Payment not settled yet"

theorem unpaid_reaches : Reaches ((system (daemon upload)).program downloadRequest) unpaidCalls
    (.done unpaidAnswer) := by
  have hclaim : soldLocked.getPurchaseByClaim token = some sale := rfl
  have hpurchase : soldLocked.store.getPurchase sale.paymentHash = some sale := rfl
  have hproduct : soldLocked.store.getProduct "midnight" = some midnight := rfl
  have hslug : sale.slug = "midnight" := rfl
  have hunpaid : sale.paid = false := rfl
  have hunsettled : Gate.settledOnNode (crates upload) [] sale.paymentHash = false := rfl
  have hstart : Reaches (Gate.getDownload (crates upload) "midnight" ⟨none, some token⟩) []
      (Gate.getDownload (crates upload) "midnight" ⟨none, some token⟩) := .refl
  have hcredential := Reaches.step (some soldLocked) hstart
  simp only [Process.bind, hclaim] at hcredential
  have hchecked := Reaches.step (some soldLocked) hcredential
  simp only [Process.bind, hpurchase, hproduct, hslug, hunpaid, ne_eq, not_true_eq_false,
    if_false] at hchecked
  have hlisted := Reaches.step ([] : List PaymentDetails) hchecked
  simp only [Process.bind, hunsettled] at hlisted
  exact hlisted

/-- The sale, a download that is refused, the payment and the download. -/
def impatientTrace : List DaemonLabel :=
  saleTrace ++ served 1 downloadRequest unpaidCalls unpaidAnswer ++
    [.env (.payments paidList)] ++ served 2 downloadRequest downloadCalls downloadAnswer

theorem impatient_run : ∃ w, DaemonRun (daemon upload) onSale impatientTrace w := by
  obtain ⟨w₁, hsale, hshared₁, hnext₁⟩ := sale_run
  have hlock : act (daemon upload) afterSale .lock (some soldLocked) afterSale :=
    act_lock_healthy rfl rfl
  have hunpaid : Performs (system (daemon upload)) w₁.shared unpaidCalls afterSale := by
    rw [hshared₁]
    exact ⟨afterSale, hlock, afterSale, hlock, afterSale, ⟨rfl, rfl⟩, rfl⟩
  obtain ⟨w₂, hrefused, hshared₂, hnext₂⟩ := hsale.serve unpaid_reaches hunpaid
  have henv : (system (daemon upload)).env w₂.shared (.payments paidList) afterPayment := by
    rw [hshared₂]
    rfl
  have hpaid := hrefused.snoc (.env henv)
  obtain ⟨w₃, hrun, -⟩ := hpaid.serve download_reaches download_performs
  have hnext : w₂.next = 2 := hnext₂.trans (congrArg (· + 1) hnext₁)
  rw [hnext₁, hnext] at hrun
  exact ⟨w₃, hrun⟩

end Sample

/-- The download that was refused before the payment came in. -/
theorem refusals_leave_no_trace_midnight : ∃ w', DaemonRun (Sample.daemon Sample.upload)
    Sample.onSale (Sample.paidTrace ++
      served 1 Sample.downloadRequest Sample.downloadCalls Sample.downloadAnswer) w' := by
  obtain ⟨w, hrun⟩ := Sample.impatient_run
  have hrefused : ∀ id, ¬ id ≠ 1 → ∃ job resp, .answer id job resp ∈ Sample.impatientTrace ∧
      resp.harmless = true := by
    intro id hid
    obtain rfl := not_not.mp hid
    exact ⟨Sample.downloadRequest, Sample.unpaidAnswer,
      by simp [Sample.impatientTrace, served], rfl⟩
  obtain ⟨-, w', hrun', -⟩ := refusals_leave_no_trace hrun hrefused
  exact ⟨w', hrun'⟩

end ArtistNode
