import ArtistNode.Ledger

/-!
# No free delivery

A download reads the ledger, the node's payment list and the ledger again, with other
requests in between. Whatever they do, an artifact is delivered only for a purchase
that was recorded for its product, and only after the node reported its payment.
-/

namespace ArtistNode

open Base

/-! ### Downloads that deliver -/

/-- The calls of a download by claim token of a purchase that is settled on the node but
    not yet marked. -/
def downloadHistory (l l' : Locked) (payments : List PaymentDetails) (paymentHash fileName : String)
    (contents : ByteArray) : List DaemonCall :=
  [⟨.lock, some l⟩, ⟨.lock, some l⟩, ⟨.listPayments, payments⟩,
    ⟨.markPaid paymentHash, some (.ok true)⟩, ⟨.lock, some l'⟩,
    ⟨.openFile (joinPath l'.store.dir fileName), .ok contents⟩]

theorem getDownload_reaches {lib : Crates} {slug token : String} {l l' : Locked}
    {p : PurchaseRecord} {product : ProductRecord} {payments : List PaymentDetails}
    {contents : ByteArray} (hclaim : l.getPurchaseByClaim token = some p)
    (hpurchase : l.store.getPurchase p.paymentHash = some p) (hslug : p.slug = slug)
    (hproduct : l.store.getProduct slug = some product) (hunpaid : p.paid = false)
    (hsettled : Gate.settledOnNode lib payments p.paymentHash = true)
    (hheader : lib.headerValueOk (Gate.contentDisposition slug product.format) = true) :
    Reaches (Gate.getDownload lib slug ⟨none, some token⟩)
      (downloadHistory l l' payments p.paymentHash product.fileName contents)
      (.done (.artifact product.sizeBytes (Gate.contentDisposition slug product.format)
        contents)) := by
  have hstart : Reaches (Gate.getDownload lib slug ⟨none, some token⟩) []
      (Gate.getDownload lib slug ⟨none, some token⟩) := .refl
  have hcredential := Reaches.step (some l) hstart
  simp only [Process.bind, hclaim] at hcredential
  have hchecked := Reaches.step (some l) hcredential
  simp only [Process.bind, hpurchase, hslug, hproduct, hunpaid, ne_eq, not_true_eq_false,
    if_false] at hchecked
  have hlisted := Reaches.step payments hchecked
  simp only [Process.bind, hsettled, if_true] at hlisted
  have hmarked := Reaches.step (some (.ok true)) hlisted
  have hlocked := Reaches.step (some l') hmarked
  have hopened := Reaches.step (.ok contents) hlocked
  simp only [Process.bind, hheader, if_true] at hopened
  exact hopened

namespace Sample

def settledLocked : Locked := ⟨⟨dir, settled⟩, [{ sale with paid := true }], rfl⟩

/-- The preimage of the payment, in hex. -/
def preimageText : String := "0707070707070707070707070707070707070707070707070707070707070707"

theorem isPreimage_text : IsPreimage (crates upload) preimageText preimage :=
  preimageBytes_iff.mp (by decide)

/-- The node's record of the buyer's payment. -/
def paidList : List PaymentDetails := [⟨.bolt11 paymentHash, .inbound, .succeeded⟩]

/-- The buyer has paid, and nobody has looked yet. -/
def afterPayment : Shared := { afterSale with payments := paidList }

def downloadRequest : Job := .getDownload "midnight" ⟨none, some token⟩

def downloadCalls : List DaemonCall :=
  downloadHistory soldLocked settledLocked paidList hash "midnight.flac" body

def downloadAnswer : Response :=
  .artifact 4 "attachment; filename=\"midnight.flac\"" body

/-- The state after the download, which has marked the purchase. -/
def afterDownload : Shared where
  store := ⟨dir, settled⟩
  files := (markSale.run json ⟨0, none⟩ ⟨dir, sold⟩ afterSale.files).2.2
  poisoned := false
  payments := paidList

theorem settled_paidList : Settled (crates upload) paidList hash :=
  ⟨_, List.mem_singleton_self _, paymentHash, Or.inl rfl, rfl, encode_paymentHash⟩

theorem download_reaches :
    Reaches ((system (daemon upload)).program downloadRequest) downloadCalls
      (.done downloadAnswer) := by
  have hsettled : Gate.settledOnNode (crates upload) paidList hash = true :=
    settledOnNode_iff.mpr settled_paidList
  have hclaim : soldLocked.getPurchaseByClaim token = some sale := rfl
  have hproduct : soldLocked.store.getProduct "midnight" = some midnight := rfl
  have hheader : (crates upload).headerValueOk (Gate.contentDisposition "midnight" "flac") = true :=
    by decide
  exact getDownload_reaches hclaim rfl rfl hproduct rfl hsettled hheader

/-- Committing a purchase leaves the artifact alone. -/
theorem afterDownload_artifact :
    afterDownload.files "/data/products/midnight.flac" = some body := by
  have htmp : "/data/products/midnight.flac" ≠ store.tmpPath := by decide
  have hindex : "/data/products/midnight.flac" ≠ store.indexPath := by decide
  have hmarked := markSale.run_other json ⟨0, none⟩ ⟨dir, sold⟩ afterSale.files htmp hindex
  have hsold := createSale.run_other json ⟨0, none⟩ store onSale.files htmp hindex
  have hstored : onSale.files "/data/products/midnight.flac" = some body :=
    Files.write_same files "/data/products/midnight.flac" body
  exact hmarked.trans (hsold.trans hstored)

theorem download_performs :
    Performs (system (daemon upload)) afterPayment downloadCalls afterDownload := by
  have hlock : act (daemon upload) afterPayment .lock (some soldLocked) afterPayment :=
    act_lock_healthy rfl rfl
  have hmark : act (daemon upload) afterPayment (.markPaid hash) (some (.ok true))
      afterDownload := Or.inr ⟨rfl, ⟨0, none⟩, rfl, rfl⟩
  have hlocked : act (daemon upload) afterDownload .lock (some settledLocked) afterDownload :=
    act_lock_healthy rfl rfl
  have hpath : joinPath settledLocked.store.dir "midnight.flac" = "/data/products/midnight.flac" :=
    by decide
  have hopen : act (daemon upload) afterDownload
      (.openFile (joinPath settledLocked.store.dir "midnight.flac")) (.ok body) afterDownload := by
    refine ⟨rfl, ?_⟩
    intro contents hcontents
    obtain rfl := Except.ok.inj hcontents
    rw [hpath]
    exact afterDownload_artifact
  exact ⟨_, hlock, _, hlock, _, ⟨rfl, rfl⟩, _, hmark, _, hlocked, _, hopen, rfl⟩

/-- The sale and the buyer's payment. -/
def paidTrace : List DaemonLabel := saleTrace ++ [.env (.payments paidList)]

theorem paid_run : ∃ w, DaemonRun (daemon upload) onSale paidTrace w ∧
    w.shared = afterPayment ∧ w.next = 1 := by
  obtain ⟨w, hsale, hshared, hnext⟩ := sale_run
  have henv : (system (daemon upload)).env w.shared (.payments paidList) afterPayment := by
    rw [hshared]
    rfl
  exact ⟨_, hsale.snoc (.env henv), rfl, hnext⟩

end Sample

/-! ### The result -/

/-- A download of `slug` that was answered with 200 presented a credential for a payment
    hash: a preimage, or else the token of a purchase with that hash. When its thread
    looked, the ledger held a purchase under that hash that was recorded for `slug`,
    and by the time of the answer the node had reported the payment. If hashes and
    tokens are never reused, the ledger still holds the purchase when it answers. -/
theorem no_free_delivery {d : Daemon} {s₀ : Shared} {τ : List DaemonLabel} {w w' : DaemonWorld}
    {id : Nat} {slug : String} {params : Gate.DownloadParams} {resp : Response}
    (hopened : Opened d s₀) (hempty : s₀.store.state.purchases = ∅) (hjson : d.lib.Lossless)
    (hrun : DaemonRun d s₀ τ w)
    (hanswer : Step (system d) w (.answer id (.getDownload slug params) resp) w')
    (hok : resp.status = .ok) :
    ∃ paymentHash,
      (∀ preimage, params.preimage = some preimage → ∃ bytes,
        IsPreimage d.lib preimage bytes ∧
        paymentHash = d.lib.hexEncode (d.lib.sha256 bytes)) ∧
      (params.preimage = none → ∃ claim l p, params.claim = some claim ∧
        .call id (.getDownload slug params) ⟨.lock, some l⟩ ∈ τ ∧
        l.getPurchaseByClaim claim = some p ∧ p.claimToken = some claim ∧
        paymentHash = p.paymentHash) ∧
      (∃ l p, .call id (.getDownload slug params) ⟨.lock, some l⟩ ∈ τ ∧
        l.store.getPurchase paymentHash = some p ∧ p.slug = slug ∧ Created τ paymentHash p) ∧
      Reported d τ paymentHash ∧
      (Fresh d.lib s₀.store.state τ → ∃ p, w.shared.store.getPurchase paymentHash = some p ∧
        p.slug = slug ∧ Created τ paymentHash p) := by
  obtain ⟨h, hthread⟩ : ∃ h, w.threads id = some ⟨.getDownload slug params, h, .done resp⟩ := by
    cases hanswer with
    | answer thread => exact ⟨_, thread⟩
  have htraced := hrun.traced _ _ hthread
  obtain ⟨paymentHash, hdelivered⟩ :=
    (getDownload_outcome d.lib slug params).result htraced.reaches hok
  obtain ⟨l, p, hl, hp, hslug, hpaid⟩ := hdelivered.purchase
  have hcalled := htraced.called _ hl
  -- the ledger that the thread saw, and where its purchase came from
  have horigin := (hrun.accounted hopened fun _ => hjson).snapshots id _ l hcalled paymentHash p hp
  have hcreated : Created τ paymentHash p := by
    rcases horigin.source with ⟨p₀, hp₀, -⟩ | hcreated
    · rw [hempty] at hp₀
      cases (Finmap.lookup_empty paymentHash).symm.trans hp₀
    · exact hcreated
  have hreported : Reported d τ paymentHash := by
    rcases hpaid with hpaid | ⟨payments, hmem, hsettled⟩
    · rcases horigin.payment hpaid with ⟨p₀, hp₀, -⟩ | hreported
      · rw [hempty] at hp₀
        cases (Finmap.lookup_empty paymentHash).symm.trans hp₀
      · exact hreported
    · exact Or.inr ⟨id, _, payments, htraced.called _ hmem, settledOnNode_iff.mp hsettled⟩
  have hcredential := hdelivered.credential
  unfold Credential at hcredential
  refine ⟨paymentHash, ?_, ?_, ⟨l, p, hcalled, hp, hslug, hcreated⟩, hreported, ?_⟩
  · intro preimage hpreimage
    simp only [hpreimage] at hcredential
    exact hcredential
  · intro hnone
    simp only [hnone] at hcredential
    obtain ⟨claim, l', p', hclaim, hl', hp', hhash⟩ := hcredential
    have htoken := (Locked.getPurchaseByClaim_some hp').1
    exact ⟨claim, l', p', hclaim, htraced.called _ hl', hp', htoken, hhash⟩
  · intro hfresh
    have hseen := hrun.seen hopened (fun _ => hjson) hfresh
    obtain ⟨q, hq, hlater⟩ := (hseen id _ hthread l hl).purchases paymentHash p hp
    exact ⟨q, hq, hlater.slug.trans hslug, hcreated.later hlater⟩

/-- The sale, the payment and the download of the track, up to its answer. -/
def Sample.deliveryTrace : List DaemonLabel :=
  paidTrace ++ (.start 1 downloadRequest :: downloadCalls.map (.call 1 downloadRequest))

theorem no_free_delivery_midnight : ∃ paymentHash p,
    Created Sample.deliveryTrace paymentHash p ∧ p.slug = "midnight" ∧
      Reported (Sample.daemon Sample.upload) Sample.deliveryTrace paymentHash := by
  obtain ⟨w, hpaid, hshared, hnext⟩ := Sample.paid_run
  have hcalls := Sample.download_performs
  rw [← hshared] at hcalls
  obtain ⟨w', hrun, -, -, hthread⟩ := hpaid.perform Sample.download_reaches hcalls
  rw [hnext] at hrun hthread
  have hok : Sample.downloadAnswer.status = .ok := rfl
  obtain ⟨paymentHash, -, -, ⟨l, p, -, -, hslug, hcreated⟩, hreported, -⟩ :=
    no_free_delivery (Sample.opened_onSale Sample.upload) rfl Sample.json_lossless hrun
      (Step.answer hthread) hok
  exact ⟨paymentHash, p, hcreated, hslug, hreported⟩

end ArtistNode
