import ArtistNode.Delivery

/-!
# A paid buyer is never locked out

The paid flag may be lost in many ways: the write fails, the daemon stops before the
event arrives, the event is acknowledged although marking failed. What is never lost
is the purchase itself, which was on disk when the invoice was handed out, with its
product beside it. The rest is the node's own record of the payment.
-/

namespace ArtistNode

open Base

/-! ### The purchase stays -/

/-- The ledger holds the purchase of an issued invoice, which alone carries its claim
    token, and the product it is for. -/
structure HoldsSale (inv : PurchaseInvoice) (slug : String) (state : Persisted) : Prop where
  purchase : ∃ p, state.purchases.lookup inv.paymentHash = some p ∧
    p.paymentHash = inv.paymentHash ∧ p.slug = slug ∧ p.claimToken = some inv.claimToken
  unique : ∀ hash p, state.purchases.lookup hash = some p →
    p.claimToken = some inv.claimToken → hash = inv.paymentHash
  product : slug ∈ state.products

namespace HoldsSale

variable {inv : PurchaseInvoice} {slug : String} {m : Mutation} {before after : Persisted}

/-- Recording the purchase establishes it. -/
theorem created {amountMsat createdAt : UInt64}
    (hm : m = .createPurchase inv.paymentHash slug amountMsat createdAt inv.claimToken)
    (h : m.change before = some after) (hadm : m.Admissible before) : HoldsSale inv slug after := by
  subst hm
  have hrecorded := Mutation.recorded_of_change h
  refine ⟨⟨_, hrecorded, rfl, rfl, rfl⟩, ?_, Mutation.mem_products_of_change h hadm.2.1⟩
  intro hash q hq htoken
  rcases Mutation.earlier_of_change h hq with ⟨p, hp, hlater⟩ | ⟨_, _, _, _, hsame, -⟩
  · rw [hlater.claimToken] at htoken
    exact absurd htoken (hadm.2.2 hash p hp)
  · exact (Mutation.createPurchase.inj hsame).1.symm

theorem change (hsale : HoldsSale inv slug before) (h : m.change before = some after)
    (hadm : m.Admissible before) : HoldsSale inv slug after := by
  obtain ⟨p, hp, hhash, hslug, htoken⟩ := hsale.purchase
  have hgrows := Mutation.grows_of_change h hadm
  refine ⟨?_, ?_, hgrows.products slug hsale.product⟩
  · obtain ⟨q, hq, hlater⟩ := hgrows.purchases inv.paymentHash p hp
    exact ⟨q, hq, hlater.paymentHash.trans hhash, hlater.slug.trans hslug,
      hlater.claimToken.trans htoken⟩
  · intro hash q hq hqtoken
    rcases Mutation.earlier_of_change h hq with ⟨p', hp', hlater⟩ | ⟨_, _, _, token, rfl, rfl⟩
    · rw [hlater.claimToken] at hqtoken
      exact hsale.unique hash p' hp' hqtoken
    · have hsame : some token = some inv.claimToken := hqtoken
      exact absurd (htoken.trans hsame.symm) (hadm.2.2 inv.paymentHash p hp)

end HoldsSale

section Runs

variable {d : Daemon} {s₀ : Shared} {τ τ₁ τ₂ : List DaemonLabel} {w w₁ w₂ : DaemonWorld}
variable {slug : String} {body : Option Gate.InvoiceRequest} {inv : PurchaseInvoice}

/-- An answered invoice was recorded by a call that succeeded. -/
theorem DaemonRun.recorded (hrun : DaemonRun d s₀ τ w) {id : Nat}
    (hissued : .answer id (.postInvoice slug body) (.purchaseInvoice inv) ∈ τ) :
    ∃ amountMsat createdAt, .call id (.postInvoice slug body)
      ⟨.createPurchase inv.paymentHash slug amountMsat createdAt inv.claimToken, some (.ok ())⟩
        ∈ τ := by
  obtain ⟨hist, -, hreaches, hcalled⟩ := Run.answered hrun id _ _ hissued
  obtain ⟨l, p, calls, rfl, -, -, -, hsold⟩ :=
    (postInvoice_outcome d.lib d.gateState slug body).result hreaches inv rfl
  obtain ⟨createdAt, hmem⟩ := hsold.recorded
  exact ⟨_, createdAt, hcalled _ (List.mem_cons_of_mem _ hmem)⟩

/-- The step that records the purchase puts it in memory and on disk. -/
theorem DaemonRun.sale_kept (hopened : Opened d s₀) (hjson : d.lib.Lossless)
    (hrun : DaemonRun d s₀ τ w) (hfresh : Fresh d.lib s₀.store.state τ) {id : Nat} {job : Job}
    {amountMsat createdAt : UInt64} {w' : DaemonWorld}
    (hs : Step (system d) w (.call id job ⟨.createPurchase inv.paymentHash slug amountMsat createdAt
      inv.claimToken, some (.ok ())⟩) w') :
    Kept d (fun _ state => HoldsSale inv slug state) [] w'.shared := by
  cases hs with
  | @call _ _ h _ k _ s' thread act =>
    let m : Mutation :=
      .createPurchase inv.paymentHash slug amountMsat createdAt inv.claimToken
    have hseen := hrun.seen hopened (fun _ => hjson) hfresh
    have hadm : m.Admissible w.shared.store.state :=
      hseen.admissible hopened hrun (fun _ => hjson) hfresh thread rfl
    have hdir := (hrun.housed hopened).dir
    rcases Shared.section_cases act with ⟨hans, -⟩ | ⟨-, io, hans, hs'⟩
    · cases hans
    · have hok : (m.run d.lib.toSerdeJson io w.shared.store w.shared.files).1 = .ok true := by
        have hresult := Option.some.inj hans
        simp only [m, Mutation.run]
        rw [← hresult]
        rfl
      obtain ⟨hmemory, hopen⟩ := Mutation.open_run_ok hjson hdir rfl hok
      have hchange : m.change w.shared.store.state = some (w.shared.store.state.createPurchase
          (newPurchase inv.paymentHash slug amountMsat createdAt inv.claimToken)) := rfl
      have hsale : HoldsSale inv slug _ := HoldsSale.created rfl hchange hadm
      refine ⟨?_, ?_, ?_⟩
      · rw [hs']
        exact hsale
      · intro _ store hreopen
        rw [hs'] at hreopen
        obtain rfl := Except.ok.inj (hopen.symm.trans hreopen)
        exact hsale
      · intro _ _ _ hmem
        cases hmem

/-- Once it is in memory and on disk, it stays. -/
theorem HoldsSale.run (hsale : Kept d (fun _ state => HoldsSale inv slug state) [] w₁.shared)
    (hopened : Opened d s₀) (hjson : d.lib.Lossless) (hbase : DaemonRun d s₀ τ₁ w₁)
    (hrun : Run (system d) w₁ τ₂ w₂) (hfresh : Fresh d.lib s₀.store.state (τ₁ ++ τ₂)) :
    HoldsSale inv slug w₂.shared.store.state := by
  have hkept : Kept d (fun τ state => Fresh d.lib s₀.store.state (τ₁ ++ τ) →
      HoldsSale inv slug state) τ₂ w₂.shared := by
    refine Kept.run hopened hbase ?_ ?_ ?_ hrun (fun _ => hjson)
    · refine ⟨fun _ => hsale.memory, fun hjson store hopen _ => hsale.disk hjson store hopen, ?_⟩
      intro _ _ _ hmem
      cases hmem
    · intro τ state l hholds hfresh
      rw [← List.append_assoc] at hfresh
      exact hholds hfresh.of_append
    · intro τ w id job h op k m state ans hr hholds hthread _ hop hchange hfresh
      rw [← List.append_assoc] at hfresh
      have hseen := DaemonRun.seen hopened hr (fun _ => hjson) hfresh.of_append
      have hadm := hseen.admissible hopened hr (fun _ => hjson) hfresh.of_append hthread hop
      exact (hholds hfresh.of_append).change hchange hadm
  exact hkept.memory hfresh

/-- From the answer to `post_invoice` on, through failures and restarts, the ledger
    holds the purchase. -/
theorem DaemonRun.holdsSale (hopened : Opened d s₀) (hjson : d.lib.Lossless)
    (hbase : DaemonRun d s₀ τ₁ w₁) (hrun : Run (system d) w₁ τ₂ w₂)
    (hfresh : Fresh d.lib s₀.store.state (τ₁ ++ τ₂)) {id : Nat}
    (hissued : .answer id (.postInvoice slug body) (.purchaseInvoice inv) ∈ τ₁) :
    HoldsSale inv slug w₂.shared.store.state := by
  obtain ⟨amountMsat, createdAt, hcall⟩ := hbase.recorded hissued
  obtain ⟨τ, τ', w, w', rfl, hbefore, hs, hafter⟩ := Run.split hbase hcall
  have hrest := hafter.trans hrun
  rw [List.append_assoc] at hfresh
  have hsale := DaemonRun.sale_kept hopened hjson hbefore hfresh.of_append.of_append hs
  exact HoldsSale.run hsale hopened hjson (hbefore.snoc hs) hrest hfresh

/-! ### What the buyer's requests can rely on -/

/-- The lock is sound, and the node lists the payment as settled. -/
structure Serving (lib : Crates) (paymentHash : String) (s : Shared) : Prop where
  healthy : s.poisoned = false
  settled : Settled lib s.payments paymentHash

theorem act_serving {s s' : Shared} {op : Op} {ans : Answer op} (h : act d s op ans s')
    {paymentHash : String} (hserving : Serving d.lib paymentHash s) :
    Serving d.lib paymentHash s' := by
  rcases act_cases h with rfl | ⟨m, io, -, rfl⟩ | ⟨path, contents, written, -, rfl⟩
  · exact hserving
  · exact ⟨hserving.healthy, hserving.settled⟩
  · exact ⟨hserving.healthy, hserving.settled⟩

/-- The node drops and demotes no settled payment, and the lock is never poisoned. -/
theorem Serving.run {paymentHash : String} (hserving : Serving d.lib paymentHash w₁.shared)
    (hrun : Run (system d) w₁ τ w) (hpoison : .env .poison ∉ τ)
    (hstays : ∀ payments, .env (.payments payments) ∈ τ → Settled d.lib payments paymentHash) :
    Serving d.lib paymentHash w.shared := by
  revert hpoison hstays
  refine Run.induct (I := fun τ w => .env .poison ∉ τ →
    (∀ payments, .env (.payments payments) ∈ τ → Settled d.lib payments paymentHash) →
    Serving d.lib paymentHash w.shared) ?_ (fun {τ w l w'} hr ih hs hpoison hstays => ?_) hrun
  · intro _ _
    exact hserving
  have hbefore := ih (fun hmem => hpoison (List.mem_append_left _ hmem))
    (fun payments hmem => hstays payments (List.mem_append_left _ hmem))
  cases hs with
  | start job => exact hbefore
  | call thread act => exact act_serving act hbefore
  | answer thread => exact hbefore
  | @env e s' act =>
    cases e with
    | payments payments =>
      obtain rfl := act
      exact ⟨hbefore.healthy, hstays payments List.mem_concat_self⟩
    | poison => exact absurd List.mem_concat_self hpoison
  | restart act =>
    obtain ⟨store, -, rfl⟩ := act
    exact ⟨rfl, hbefore.settled⟩

/-- What the answers to a request's calls show: the purchase in every snapshot, the
    payment in every list. -/
def Reliable (lib : Crates) (inv : PurchaseInvoice) (slug : String) : DaemonCall → Prop
  | ⟨.lock, ans⟩ => ∃ l : Locked, ans = some l ∧ HoldsSale inv slug l.store.state
  | ⟨.listPayments, payments⟩ => Settled lib payments inv.paymentHash
  | _ => True

theorem DaemonRun.reliable (hopened : Opened d s₀) (hjson : d.lib.Lossless)
    (hbase : DaemonRun d s₀ τ₁ w₁) (hrun : Run (system d) w₁ τ₂ w₂)
    (hfresh : Fresh d.lib s₀.store.state (τ₁ ++ τ₂)) {b : Nat}
    (hissued : .answer b (.postInvoice slug body) (.purchaseInvoice inv) ∈ τ₁)
    (hserving : Serving d.lib inv.paymentHash w₁.shared) (hpoison : .env .poison ∉ τ₂)
    (hstays : ∀ payments, .env (.payments payments) ∈ τ₂ →
      Settled d.lib payments inv.paymentHash) {id : Nat} {job : Job} {c : DaemonCall}
    (hcall : .call id job c ∈ τ₂) : Reliable d.lib inv slug c := by
  obtain ⟨τ, τ', w, w', rfl, hbefore, hs, -⟩ := Run.split hrun hcall
  have hnow : Serving d.lib inv.paymentHash w.shared := by
    apply hserving.run hbefore
    · intro hmem
      exact hpoison (List.mem_append_left _ (List.mem_append_left _ hmem))
    · intro payments hmem
      exact hstays payments (List.mem_append_left _ (List.mem_append_left _ hmem))
  rw [← List.append_assoc, ← List.append_assoc] at hfresh
  have hholds := hbase.holdsSale hopened hjson hbefore hfresh.of_append.of_append hissued
  cases hs with
  | @call _ _ _ op k ans s' thread act =>
    cases op with
    | lock =>
      obtain ⟨-, ⟨hpoisoned, -⟩ | ⟨-, l, rfl, hstore⟩⟩ := act
      · rw [hnow.healthy] at hpoisoned
        cases hpoisoned
      · refine ⟨l, rfl, ?_⟩
        rw [hstore]
        exact hholds
    | listPayments =>
      obtain ⟨-, rfl⟩ := act
      exact hnow.settled
    | _ => trivial

end Runs

/-! ### The handlers, on answers they can rely on -/

section Handlers

variable {lib : Crates} {inv : PurchaseInvoice} {slug : String}

theorem HoldsSale.getPurchaseByClaim {l : Locked} (h : HoldsSale inv slug l.store.state) :
    ∃ p, l.getPurchaseByClaim inv.claimToken = some p ∧ p.paymentHash = inv.paymentHash ∧
      p.slug = slug := by
  obtain ⟨p, hp, hhash, hslug, htoken⟩ := h.purchase
  exact ⟨p, Locked.getPurchaseByClaim_eq hp htoken h.unique, hhash, hslug⟩

/-- A purchase whose payment the node lists counts as paid, marked or not. -/
theorem paidOrSettled_assuming (paid : Bool) :
    Assuming (Reliable lib inv slug) (fun r => r = true)
      (Gate.paidOrSettled lib paid inv.paymentHash) := by
  unfold Gate.paidOrSettled
  rcases paid with _ | _
  · simp only [Bool.false_eq_true, if_false, perform_bind, assuming_call]
    intro payments hsettled
    have hlisted : Gate.settledOnNode lib payments inv.paymentHash = true :=
      settledOnNode_iff.mpr hsettled
    simp only [hlisted, if_true, assuming_call]
    intro _ _
    rfl
  · simp only [if_true]
    rfl

theorem getStatus_assuming :
    Assuming (Reliable lib inv slug) (fun resp => resp = .paid true)
      (Gate.getStatus lib slug inv.claimToken) := by
  unfold Gate.getStatus
  simp only [perform_bind, assuming_call]
  rintro _ ⟨l, rfl, hholds⟩
  obtain ⟨p, hp, hhash, hslug⟩ := hholds.getPurchaseByClaim
  simp only [hp, hslug, if_true, hhash]
  apply (paidOrSettled_assuming p.paid).bind
  rintro paid rfl
  rfl

/-- The buyer's credential: a preimage of the payment hash, or the claim token. -/
def Presents (lib : Crates) (inv : PurchaseInvoice) (params : Gate.DownloadParams) : Prop :=
  match params.preimage with
  | some preimage => ∃ bytes, IsPreimage lib preimage bytes ∧
      lib.hexEncode (lib.sha256 bytes) = inv.paymentHash
  | none => params.claim = some inv.claimToken

theorem credentialHash_assuming {params : Gate.DownloadParams} (h : Presents lib inv params) :
    Assuming (Reliable lib inv slug) (fun r => r = .ok inv.paymentHash)
      (Gate.credentialHash lib params) := by
  unfold Presents at h
  unfold Gate.credentialHash
  rcases hpreimage : params.preimage with _ | preimage
  · simp only [hpreimage] at h
    simp only [h, perform_bind, assuming_call]
    rintro _ ⟨l, rfl, hholds⟩
    obtain ⟨p, hp, hhash, -⟩ := hholds.getPurchaseByClaim
    simp only [hp, hhash]
    rfl
  · simp only [hpreimage] at h
    obtain ⟨bytes, hbytes, hhash⟩ := h
    simp only [preimageBytes_iff.mpr hbytes, hhash]
    rfl

/-- The statuses of the ledger and settlement checks. -/
def Refused (resp : Response) : Prop :=
  resp.status = .badRequest ∨ resp.status = .paymentRequired ∨ resp.status = .notFound

theorem serveArtifact_assuming {product : ProductRecord} :
    Assuming (Reliable lib inv slug) (fun resp => ¬ Refused resp)
      (Gate.serveArtifact lib slug product) := by
  unfold Gate.serveArtifact
  simp only [perform_bind, assuming_call]
  rintro _ ⟨l, rfl, -⟩
  simp only [assuming_call]
  rintro (e | contents) _
  · simp [Refused, Response.status]
  · simp only
    split
    · simp [Refused, Response.status]
    · simp [Refused, Response.status]

theorem getDownload_assuming {params : Gate.DownloadParams} (h : Presents lib inv params) :
    Assuming (Reliable lib inv slug) (fun resp => ¬ Refused resp)
      (Gate.getDownload lib slug params) := by
  unfold Gate.getDownload
  apply (credentialHash_assuming h).bind
  rintro _ rfl
  simp only [perform_bind, assuming_call]
  rintro _ ⟨l, rfl, hholds⟩
  obtain ⟨p, hp, -, hslug, -⟩ := hholds.purchase
  obtain ⟨product, hproduct⟩ := Finmap.mem_iff.mp hholds.product
  have hpurchase : l.store.getPurchase inv.paymentHash = some p := hp
  have hregistered : l.store.getProduct slug = some product := hproduct
  simp only [hpurchase, hslug, hregistered, ne_eq, not_true_eq_false, if_false]
  apply (paidOrSettled_assuming p.paid).bind
  rintro paid rfl
  exact serveArtifact_assuming

end Handlers

namespace Sample

theorem reopened_afterPayment :
    (system (daemon upload)).restart afterPayment afterPayment := by
  have hchange : createSale.change store.state = some sold := rfl
  have hok : (createSale.run json ⟨0, none⟩ store onSale.files).1 = .ok true := rfl
  have hdir : store.dir = joinPath dataDir "products" := by decide
  have hopen := (Mutation.open_run_ok json_lossless hdir hchange hok).2
  exact ⟨⟨dir, sold⟩, hopen, rfl⟩

def preimageRequest : Job := .getDownload "midnight" ⟨some preimageText, none⟩

/-- A preimage needs no look at the ledger; the rest goes as with the token. -/
def preimageCalls : List DaemonCall := downloadCalls.tail

theorem preimage_reaches : Reaches ((system (daemon upload)).program preimageRequest) preimageCalls
    (.done downloadAnswer) := by
  have hbytes : Gate.preimageBytes (daemon upload).lib preimageText = some preimage :=
    preimageBytes_iff.mpr isPreimage_text
  have hhash : (daemon upload).lib.hexEncode ((daemon upload).lib.sha256 preimage) = hash :=
    encode_paymentHash
  have hpurchase : soldLocked.store.getPurchase hash = some sale := rfl
  have hproduct : soldLocked.store.getProduct "midnight" = some midnight := rfl
  have hslug : sale.slug = "midnight" := rfl
  have hunpaid : sale.paid = false := rfl
  have hsettled : Gate.settledOnNode (daemon upload).lib paidList hash = true :=
    settledOnNode_iff.mpr settled_paidList
  have hheader : (daemon upload).lib.headerValueOk
      (Gate.contentDisposition "midnight" midnight.format) = true := by
    show (crates upload).headerValueOk (Gate.contentDisposition "midnight" "flac") = true
    decide
  have hstart : Reaches (Gate.getDownload (daemon upload).lib "midnight" ⟨some preimageText, none⟩)
      [] (Gate.getDownload (daemon upload).lib "midnight" ⟨some preimageText, none⟩) := .refl
  simp only [Gate.getDownload, Gate.credentialHash, hbytes, hhash, Process.pure_eq_done,
    Process.done_bind, perform_bind] at hstart
  have hchecked := Reaches.step (some soldLocked) hstart
  simp only [hpurchase, hproduct, hslug, hunpaid, ne_eq, not_true_eq_false, if_false] at hchecked
  have hlisted := Reaches.step paidList hchecked
  simp only [Process.bind, hsettled, if_true] at hlisted
  have hmarked := Reaches.step (some (.ok true)) hlisted
  have hlocked := Reaches.step (some settledLocked) hmarked
  have hopened := Reaches.step (.ok body) hlocked
  simp only [Process.bind, hheader, if_true] at hopened
  exact hopened

theorem preimage_performs :
    Performs (system (daemon upload)) afterPayment preimageCalls afterDownload := by
  obtain ⟨s, hlock, hrest⟩ := download_performs
  obtain rfl : s = afterPayment := hlock.1
  exact hrest

/-- The download of a purchase that has been marked. -/
def markedCalls : List DaemonCall :=
  [⟨.lock, some settledLocked⟩, ⟨.lock, some settledLocked⟩, ⟨.lock, some settledLocked⟩,
    ⟨.openFile (joinPath settledLocked.store.dir midnight.fileName), .ok body⟩]

theorem marked_reaches : Reaches ((system (daemon upload)).program downloadRequest) markedCalls
    (.done downloadAnswer) := by
  have hclaim : settledLocked.getPurchaseByClaim token = some { sale with paid := true } := rfl
  have hpurchase : settledLocked.store.getPurchase hash = some { sale with paid := true } := rfl
  have hproduct : settledLocked.store.getProduct "midnight" = some midnight := rfl
  have hslug : sale.slug = "midnight" := rfl
  have hhash : sale.paymentHash = hash := rfl
  have hheader : (crates upload).headerValueOk
      (Gate.contentDisposition "midnight" midnight.format) = true := by
    decide
  have hstart : Reaches (Gate.getDownload (crates upload) "midnight" ⟨none, some token⟩) []
      (Gate.getDownload (crates upload) "midnight" ⟨none, some token⟩) := .refl
  have hcredential := Reaches.step (some settledLocked) hstart
  simp only [Process.bind, hclaim, hhash] at hcredential
  have hchecked := Reaches.step (some settledLocked) hcredential
  simp only [Process.bind, hpurchase, hproduct, hslug, ne_eq, not_true_eq_false, if_false] at hchecked
  have hlocked := Reaches.step (some settledLocked) hchecked
  have hopened := Reaches.step (.ok body) hlocked
  simp only [Process.bind, hheader, if_true] at hopened
  exact hopened

theorem lock_settled : act (daemon upload) afterDownload .lock (some settledLocked) afterDownload :=
  act_lock_healthy rfl rfl

theorem marked_performs :
    Performs (system (daemon upload)) afterDownload markedCalls afterDownload := by
  refine ⟨_, lock_settled, _, lock_settled, _, lock_settled, afterDownload, ⟨rfl, ?_⟩, rfl⟩
  intro contents hcontents
  obtain rfl := Except.ok.inj hcontents
  have hpath : joinPath settledLocked.store.dir midnight.fileName =
      "/data/products/midnight.flac" := by decide
  rw [hpath]
  exact afterDownload_artifact

def statusRequest : Job := .getStatus "midnight" token

def statusAnswer : Response := .paid true

theorem status_reaches : Reaches ((system (daemon upload)).program statusRequest)
    [⟨.lock, some settledLocked⟩] (.done statusAnswer) := by
  have hclaim : settledLocked.getPurchaseByClaim token = some { sale with paid := true } := rfl
  have hslug : sale.slug = "midnight" := rfl
  have hstart : Reaches (Gate.getStatus (crates upload) "midnight" token) []
      (Gate.getStatus (crates upload) "midnight" token) := .refl
  have hasked := Reaches.step (some settledLocked) hstart
  simp only [Process.bind, hclaim, hslug, if_true] at hasked
  exact hasked

/-- After the payment: a restart, a download by preimage, one by token, and the status. -/
def buyerTrace : List DaemonLabel :=
  [.restart] ++ served 1 preimageRequest preimageCalls downloadAnswer ++
    served 2 downloadRequest markedCalls downloadAnswer ++
    served 3 statusRequest [⟨.lock, some settledLocked⟩] statusAnswer

theorem buyer_run : ∃ w w', DaemonRun (daemon upload) onSale paidTrace w ∧
    Run (system (daemon upload)) w buyerTrace w' ∧ w.shared = afterPayment ∧ w.next = 1 := by
  obtain ⟨w, hpaid, hshared, hnext⟩ := paid_run
  have hreopen : (system (daemon upload)).restart w.shared afterPayment := by
    rw [hshared]
    exact reopened_afterPayment
  obtain ⟨w₁, hrun₁, hshared₁, hnext₁⟩ :=
    (Run.refl.snoc (Step.restart hreopen)).serve preimage_reaches preimage_performs
  have hmarked := marked_performs
  rw [← hshared₁] at hmarked
  obtain ⟨w₂, hrun₂, hshared₂, hnext₂⟩ := hrun₁.serve marked_reaches hmarked
  have hstatus : Performs (system (daemon upload)) w₂.shared [⟨.lock, some settledLocked⟩]
      w₁.shared := by
    rw [hshared₂]
    exact ⟨_, hshared₁ ▸ lock_settled, rfl⟩
  obtain ⟨w₃, hrun₃, -⟩ := hrun₂.serve status_reaches hstatus
  simp only [hnext₂, hnext₁, hnext] at hrun₃
  exact ⟨w, w₃, hpaid, hrun₃, hshared, hnext⟩

theorem fresh_paid : Fresh (daemon upload).lib onSale.store.state paidTrace := by
  apply fresh_sale.append
  intro l hl
  rw [List.mem_singleton.mp hl]
  exact ⟨rfl, rfl⟩

/-- Only a sale obtains anything. -/
theorem fresh_buyer : Fresh (daemon upload).lib onSale.store.state (paidTrace ++ buyerTrace) := by
  have hreopened : Fresh (daemon upload).lib onSale.store.state (paidTrace ++ [.restart]) := by
    apply fresh_paid.append
    intro l hl
    rw [List.mem_singleton.mp hl]
    exact ⟨rfl, rfl⟩
  have hpreimage : Fresh (daemon upload).lib onSale.store.state (paidTrace ++ [.restart] ++
      served 1 preimageRequest preimageCalls downloadAnswer) :=
    hreopened.append_served (by simp [preimageRequest])
  have htoken : Fresh (daemon upload).lib onSale.store.state (paidTrace ++ [.restart] ++
      served 1 preimageRequest preimageCalls downloadAnswer ++
      served 2 downloadRequest markedCalls downloadAnswer) :=
    hpreimage.append_served (by simp [downloadRequest])
  have hstatus : Fresh (daemon upload).lib onSale.store.state (paidTrace ++ [.restart] ++
      served 1 preimageRequest preimageCalls downloadAnswer ++
      served 2 downloadRequest markedCalls downloadAnswer ++
      served 3 statusRequest [⟨.lock, some settledLocked⟩] statusAnswer) :=
    htoken.append_served (by simp [statusRequest])
  simpa only [buyerTrace, List.append_assoc] using hstatus

end Sample

/-! ### The result -/

/-- Once `post_invoice` has answered a buyer and the node lists the payment of that
    invoice as settled, no download that is requested from then on with the claim token
    or with a preimage is refused, and every status request with the token reports the
    purchase as paid, whatever persists, fails or restarts in between. -/
theorem paid_buyer_served {d : Daemon} {s₀ : Shared} {τ₁ τ₂ : List DaemonLabel}
    {w₁ w₂ : DaemonWorld} {b : Nat} {slug : String} {body : Option Gate.InvoiceRequest}
    {inv : PurchaseInvoice} (hopened : Opened d s₀) (hjson : d.lib.Lossless)
    (hbase : DaemonRun d s₀ τ₁ w₁) (hrun : Run (system d) w₁ τ₂ w₂)
    (hfresh : Fresh d.lib s₀.store.state (τ₁ ++ τ₂))
    (hissued : .answer b (.postInvoice slug body) (.purchaseInvoice inv) ∈ τ₁)
    (hhealthy : w₁.shared.poisoned = false) (hpoison : .env .poison ∉ τ₂)
    (hsettled : Settled d.lib w₁.shared.payments inv.paymentHash)
    (hstays : ∀ payments, .env (.payments payments) ∈ τ₂ →
      Settled d.lib payments inv.paymentHash) :
    (∀ id params resp, w₁.next ≤ id → Presents d.lib inv params →
      .answer id (.getDownload slug params) resp ∈ τ₂ → ¬ Refused resp) ∧
      ∀ id resp, w₁.next ≤ id → .answer id (.getStatus slug inv.claimToken) resp ∈ τ₂ →
        resp = .paid true := by
  have hserving : Serving d.lib inv.paymentHash w₁.shared := ⟨hhealthy, hsettled⟩
  have hreliable : ∀ {id job c}, .call id job c ∈ τ₂ → Reliable d.lib inv slug c :=
    fun hcall => hbase.reliable hopened hjson hrun hfresh hissued hserving hpoison hstays hcall
  constructor
  · intro id params resp hid hpresents hanswer
    obtain ⟨hist, hreaches, hcalled⟩ := Run.served_later hbase hrun hid hanswer
    exact (getDownload_assuming hpresents).of_reaches hreaches
      fun c hc => hreliable (hcalled c hc)
  · intro id resp hid hanswer
    obtain ⟨hist, hreaches, hcalled⟩ := Run.served_later hbase hrun hid hanswer
    exact getStatus_assuming.of_reaches hreaches fun c hc => hreliable (hcalled c hc)

/-- After a restart the buyer is served by preimage and by token, and told so. -/
theorem paid_buyer_served_midnight : ∃ w w',
    DaemonRun (Sample.daemon Sample.upload) Sample.onSale Sample.paidTrace w ∧
    Run (system (Sample.daemon Sample.upload)) w Sample.buyerTrace w' ∧
    (∀ id params, 1 ≤ id → Presents (Sample.crates Sample.upload) Sample.issued params →
      ∀ resp, .answer id (.getDownload "midnight" params) resp ∈ Sample.buyerTrace →
        ¬ Refused resp) ∧
    .answer 1 (.getDownload "midnight" ⟨some Sample.preimageText, none⟩) Sample.downloadAnswer ∈
      Sample.buyerTrace ∧ ¬ Refused Sample.downloadAnswer ∧
    .answer 3 (.getStatus "midnight" Sample.token) Sample.statusAnswer ∈ Sample.buyerTrace ∧
    Sample.statusAnswer = .paid true := by
  obtain ⟨w, w', hpaid, hrun, hshared, hnext⟩ := Sample.buyer_run
  have hpoison : .env .poison ∉ Sample.buyerTrace := by
    simp [Sample.buyerTrace, served]
  have hstays : ∀ payments, .env (.payments payments) ∈ Sample.buyerTrace →
      Settled (Sample.crates Sample.upload) payments Sample.issued.paymentHash := by
    intro payments hmem
    simp [Sample.buyerTrace, served] at hmem
  have hsettled : Settled (Sample.crates Sample.upload) w.shared.payments
      Sample.issued.paymentHash := by
    rw [hshared]
    exact Sample.settled_paidList
  have hissued : .answer 0 Sample.saleRequest (.purchaseInvoice Sample.issued) ∈
      Sample.paidTrace := by
    simp [Sample.paidTrace, Sample.saleTrace, Sample.saleAnswer, served]
  have hpreimage : .answer 1 Sample.preimageRequest Sample.downloadAnswer ∈ Sample.buyerTrace := by
    simp [Sample.buyerTrace, served]
  have hstatus : .answer 3 Sample.statusRequest Sample.statusAnswer ∈ Sample.buyerTrace := by
    simp [Sample.buyerTrace, served]
  obtain ⟨hdownloads, hstatuses⟩ := paid_buyer_served (Sample.opened_onSale Sample.upload)
    Sample.json_lossless hpaid hrun Sample.fresh_buyer hissued (by rw [hshared]; rfl) hpoison
    hsettled hstays
  rw [hnext] at hdownloads hstatuses
  have hpresents : Presents (Sample.crates Sample.upload) Sample.issued
      ⟨some Sample.preimageText, none⟩ :=
    ⟨_, Sample.isPreimage_text, Sample.encode_paymentHash⟩
  exact ⟨w, w', hpaid, hrun,
    fun id params hid hholds resp hanswer => hdownloads id params resp hid hholds hanswer,
    hpreimage, hdownloads 1 _ _ (Nat.le_refl 1) hpresents hpreimage, hstatus,
    hstatuses 3 _ (by decide) hstatus⟩

end ArtistNode
