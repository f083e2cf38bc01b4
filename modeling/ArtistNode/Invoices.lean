import ArtistNode.Footprint
import ArtistNode.Ledger
import ArtistNode.Receiving

/-!
# What the node is asked to receive

Three requests make the node issue invoices: a purchase, a payment to the Lightning address
and the bootstrap invoice of the operator. Here each invoice of a run is traced to its
request: it is for the amount and with the description that the request called for, no other
request has one issued, and a payment to the Lightning address is bound to the metadata that
the wallet was shown.
-/

namespace ArtistNode

open Base

/-! ### The three kinds of invoice -/

/-- The amount, the description and the expiry of an invoice that an operation asks for. -/
def Op.receives : Op → Option (UInt64 × InvoiceDescription × UInt32)
  | .receive amountMsat desc expirySecs => some (amountMsat, desc, expirySecs)
  | .receiveViaJitChannel amountMsat desc expirySecs => some (amountMsat, desc, expirySecs)
  | _ => none

/-- The node issued `inv`, as a plain or as a just-in-time invoice. -/
def Issued (calls : List DaemonCall) (amountMsat : UInt64) (desc : InvoiceDescription)
    (inv : Bolt11Invoice) : Prop :=
  ∃ expirySecs, ⟨.receive amountMsat desc expirySecs, .ok inv⟩ ∈ calls ∨
    ⟨.receiveViaJitChannel amountMsat desc expirySecs, .ok inv⟩ ∈ calls

/-- The metadata that the node serves for its Lightning address. -/
def Daemon.metadata (d : Daemon) : String :=
  Lnurl.metadataString d.lib d.artistName d.lnurlAddress

/-- What binds an invoice to the metadata. -/
def Daemon.zapDescription (d : Daemon) : InvoiceDescription :=
  .hash (d.lib.sha256 d.metadata.toUTF8)

/-- The invoice that a request calls for, after the calls in `h`. -/
inductive CalledFor (d : Daemon) (h : List DaemonCall) : Job → UInt64 → InvoiceDescription → Prop
  /-- A payment to the Lightning address, of an amount within the limits of the channels. -/
  | zap {name : String} {params : Lnurl.CallbackParams} {amountMsat : UInt64}
      {channels : List ChannelDetails}
      (own : eqIgnoreAsciiCase name (Lnurl.localPart d.lnurlAddress) = true)
      (asked : params.amount = some amountMsat) (listed : ⟨.listChannels, channels⟩ ∈ h)
      (low : Lnurl.MIN_SENDABLE_MSAT ≤ amountMsat)
      (high : amountMsat ≤ Lnurl.maxSendableMsat (Gate.inboundMsat channels)) :
      CalledFor d h (.lnurlp name params) amountMsat d.zapDescription
  /-- A purchase at a price that the product allows. -/
  | sale {slug : String} {body : Option Gate.InvoiceRequest} {l : Locked} {p : ProductRecord}
      {amountSats amountMsat : UInt64} {desc : String} (locked : ⟨.lock, some l⟩ ∈ h)
      (product : l.store.getProduct slug = some p)
      (amount : Gate.resolveAmount p.priceSats p.floorSats (body.bind (·.amountSats)) =
        .ok amountSats)
      (msat : InMsat amountSats amountMsat)
      (text : d.lib.descriptionNew (Gate.saleDescription d.gateState p.title) = some desc) :
      CalledFor d h (.postInvoice slug body) amountMsat (.direct desc)
  /-- The operator's bootstrap invoice. -/
  | bootstrap {amountSats : Option UInt64} {amountMsat : UInt64} {desc : String}
      (msat : InMsat (amountSats.getD 50000) amountMsat)
      (text : d.lib.descriptionNew s!"Lightning FM — {d.artistName} bootstrap" = some desc) :
      CalledFor d h (.createInvoice amountSats) amountMsat (.direct desc)

/-- An operation asks only for the invoice that its request calls for, for an hour. -/
def Asks (d : Daemon) (job : Job) (h : List DaemonCall) (op : Op) : Prop :=
  ∀ amountMsat desc expirySecs, op.receives = some (amountMsat, desc, expirySecs) →
    expirySecs = 3600 ∧ CalledFor d h job amountMsat desc

section Basics

variable {d : Daemon} {job : Job} {h h' : List DaemonCall} {op : Op}
variable {amountMsat : UInt64} {desc : InvoiceDescription} {inv : Bolt11Invoice}

theorem Asks.of_none (hop : op.receives = none) : Asks d job h op := by
  intro amountMsat desc expirySecs hsome
  rw [hop] at hsome
  cases hsome

theorem Issued.mono (hi : Issued h amountMsat desc inv) (hsub : h ⊆ h') :
    Issued h' amountMsat desc inv := by
  obtain ⟨expirySecs, hplain | hjit⟩ := hi
  · exact ⟨expirySecs, Or.inl (hsub hplain)⟩
  · exact ⟨expirySecs, Or.inr (hsub hjit)⟩

theorem CalledFor.mono (hc : CalledFor d h job amountMsat desc) (hsub : h ⊆ h') :
    CalledFor d h' job amountMsat desc := by
  cases hc with
  | zap own asked listed low high => exact .zap own asked (hsub listed) low high
  | sale locked product amount msat text => exact .sale (hsub locked) product amount msat text
  | bootstrap msat text => exact .bootstrap msat text

theorem Asks.of_called (hc : CalledFor d h job amountMsat desc) (hpre : h <+: h')
    (hop : op.receives = some (amountMsat, desc, 3600)) : Asks d job h' op := by
  intro amountMsat' desc' expirySecs hsome
  rw [hop] at hsome
  cases hsome
  exact ⟨rfl, hc.mono hpre.subset⟩

/-- The last call of a history issued the invoice. -/
theorem issued_plain (r : Except String Bolt11Invoice) (expirySecs : UInt32) :
    ∀ inv, r = .ok inv →
      Issued (h ++ [⟨.receive amountMsat desc expirySecs, r⟩]) amountMsat desc inv := by
  intro inv hr
  rw [hr]
  exact ⟨expirySecs, Or.inl List.mem_concat_self⟩

end Basics

/-! ### The handlers that issue invoices -/

section Issuing

variable {d : Daemon} {job : Job} {h : List DaemonCall} {amountMsat : UInt64}
variable {desc : InvoiceDescription}

theorem saleInvoice_asks (hc : CalledFor d h job amountMsat desc) :
    Guarded (Asks d job)
      (fun h' r => h <+: h' ∧ ∀ inv, r = .ok inv → Issued h' amountMsat desc inv) h
      (Gate.requestInvoice amountMsat desc) := by
  apply Guarded.extends (List.prefix_refl h)
  unfold Gate.requestInvoice
  simp only [perform_bind, guarded_call]
  refine ⟨Asks.of_none rfl, fun channels => ?_⟩
  split
  · exact ⟨Asks.of_called hc (List.prefix_append _ _) rfl, fun r => issued_plain r _⟩
  · simp only [guarded_call]
    refine ⟨Asks.of_called hc (List.prefix_append _ _) rfl, fun r => ?_⟩
    rcases r with e | inv
    · refine ⟨Asks.of_called hc ?_ rfl, fun r => issued_plain r _⟩
      rw [List.append_assoc]
      exact List.prefix_append _ _
    · intro inv' hinv
      cases hinv
      exact ⟨_, Or.inr List.mem_concat_self⟩

theorem zapInvoice_asks {inbound : UInt64} (hc : CalledFor d h job amountMsat desc) :
    Guarded (Asks d job) (fun h' r => ∀ inv, r = .ok inv → Issued h' amountMsat desc inv) h
      (Lnurl.requestInvoice inbound amountMsat desc) := by
  unfold Lnurl.requestInvoice
  split
  · exact ⟨Asks.of_called hc (List.prefix_refl h) rfl, fun r => issued_plain r _⟩
  · simp only [perform_bind, guarded_call]
    refine ⟨Asks.of_called hc (List.prefix_refl h) rfl, fun r => ?_⟩
    rcases r with e | inv
    · exact ⟨Asks.of_called hc (List.prefix_append _ _) rfl, fun r => issued_plain r _⟩
    · intro inv' hinv
      cases hinv
      exact ⟨_, Or.inr List.mem_concat_self⟩

/-- What an answer of the Lightning address says: an invoice that was issued for the amount
    asked, or the metadata of the node. -/
def ZapAnswer (d : Daemon) (params : Lnurl.CallbackParams) (h : List DaemonCall) :
    Response → Prop
  | .lnurlInvoice pr => ∃ amountMsat inv, params.amount = some amountMsat ∧ inv.bolt11 = pr ∧
      Lnurl.MIN_SENDABLE_MSAT ≤ amountMsat ∧ Issued h amountMsat d.zapDescription inv
  | .payRequest request => request.metadata = d.metadata ∧
      request.minSendable = Lnurl.MIN_SENDABLE_MSAT ∧ request.callback = Lnurl.callbackUrl d.lnurlState
  | _ => True

theorem lnurlp_asks (d : Daemon) (name : String) (params : Lnurl.CallbackParams) :
    Guarded (Asks d (.lnurlp name params)) (ZapAnswer d params) []
      (Lnurl.lnurlp d.lib d.lnurlState name params) := by
  unfold Lnurl.lnurlp
  split
  · trivial
  rename_i hname
  have hown : eqIgnoreAsciiCase name (Lnurl.localPart d.lnurlAddress) = true := by
    simpa [Daemon.lnurlState] using hname
  split
  · exact ⟨Asks.of_none rfl, fun channels => ⟨rfl, rfl, rfl⟩⟩
  rename_i amountMsat hasked
  unfold Lnurl.invoiceResponse
  simp only [perform_bind, guarded_call]
  refine ⟨Asks.of_none rfl, fun channels => ?_⟩
  split
  · trivial
  rename_i hlow
  split
  · trivial
  rename_i hhigh
  have hc : CalledFor d [⟨.listChannels, channels⟩] (.lnurlp name params) amountMsat
      d.zapDescription := .zap hown hasked List.mem_cons_self (UInt64.not_lt.mp hlow)
        (UInt64.not_lt.mp hhigh)
  apply (zapInvoice_asks hc).bind
  intro h r hr
  rcases r with e | inv
  · trivial
  · exact ⟨amountMsat, inv, hasked, rfl, UInt64.not_lt.mp hlow, hr inv rfl⟩

/-- What the answer to a purchase says of its invoice. -/
def SaleAnswer (d : Daemon) (h : List DaemonCall) : Response → Prop
  | .purchaseInvoice sold => ∃ amountMsat desc inv, InMsat sold.amountSats amountMsat ∧
      inv.bolt11 = sold.bolt11 ∧ d.lib.hexEncode inv.paymentHash = sold.paymentHash ∧
      Issued h amountMsat (.direct desc) inv
  | _ => True

theorem postInvoice_asks (d : Daemon) (slug : String) (body : Option Gate.InvoiceRequest) :
    Guarded (Asks d (.postInvoice slug body)) (SaleAnswer d) []
      (Gate.postInvoice d.lib d.gateState slug body) := by
  unfold Gate.postInvoice
  simp only [perform_bind, guarded_call]
  refine ⟨Asks.of_none rfl, fun ans => ?_⟩
  rcases ans with _ | l
  · trivial
  simp only
  split
  · trivial
  rename_i p hp
  split
  · trivial
  rename_i amountSats hamount
  split
  · trivial
  split
  · trivial
  rename_i desc htext
  unfold Gate.sell
  have hc : CalledFor d [⟨.lock, some l⟩] (.postInvoice slug body) (amountSats * 1000)
      (.direct desc) := .sale List.mem_cons_self hp hamount (inMsat_mul amountSats) htext
  apply (saleInvoice_asks hc).bind
  intro h r hr
  obtain ⟨-, hissued⟩ := hr
  rcases r with e | inv
  · trivial
  simp only [Gate.newClaimToken, perform_bind, guarded_call, Process.call_bind]
  refine ⟨Asks.of_none rfl, fun bytes => ?_⟩
  rcases bytes with e | bytes
  · trivial
  simp only [Process.pure_eq_done, Process.done_bind, guarded_call]
  refine ⟨Asks.of_none rfl, fun now => ⟨Asks.of_none rfl, fun recorded => ?_⟩⟩
  rcases recorded with _ | (e | ⟨⟩)
  · trivial
  · trivial
  · refine ⟨_, desc, inv, inMsat_mul amountSats, rfl, rfl, (hissued inv rfl).mono ?_⟩
    simp only [List.append_assoc]
    exact List.subset_append_left _ _

theorem createInvoice_asks (d : Daemon) (amountSats : Option UInt64) :
    Guarded (Asks d (.createInvoice amountSats)) (fun _ _ => True) []
      (App.createInvoice d.lib d.appState amountSats) := by
  unfold App.createInvoice
  simp only
  split
  · trivial
  rename_i desc htext
  have hc : CalledFor d [] (.createInvoice amountSats) (amountSats.getD 50000 * 1000)
      (.direct desc) := .bootstrap (inMsat_mul _) htext
  simp only [perform_bind, guarded_call]
  refine ⟨Asks.of_called hc (List.prefix_refl _) rfl, fun r => ?_⟩
  rcases r with e | inv
  all_goals trivial

end Issuing

/-! ### In every run -/

/-- The requests that have an invoice issued. -/
def Job.issues : Job → Bool
  | .postInvoice .. => true
  | .lnurlp .. => true
  | .createInvoice _ => true
  | _ => false

theorem receives_of_uses {job : Job} {op : Op} (hjob : job.issues = false)
    (hop : job.uses op = true) : op.receives = none := by
  cases op with
  | receive amountMsat desc expirySecs =>
    have hissues : job.issues = true := by cases job <;> first | rfl | cases hop
    cases hissues.symm.trans hjob
  | receiveViaJitChannel amountMsat desc expirySecs =>
    have hissues : job.issues = true := by cases job <;> first | rfl | cases hop
    cases hissues.symm.trans hjob
  | _ => rfl

/-- The other handlers have nothing to justify. -/
theorem Within.asks {d : Daemon} {job : Job} (hjob : job.issues = false) {p : Handler Response} :
    ∀ {h : List DaemonCall}, Within job h p → Guarded (Asks d job) (fun _ _ => True) h p := by
  induction p with
  | done a => exact fun _ => trivial
  | call op k ih =>
    intro h hp
    exact ⟨Asks.of_none (receives_of_uses hjob hp.1), fun ans => ih ans (hp.2 ans)⟩

/-- Whatever answers they get, the daemon's handlers ask only for the invoices that their
    requests call for. -/
theorem handle_asks (d : Daemon) (job : Job) :
    Guarded (Asks d job) (fun _ _ => True) [] (handle d job) := by
  cases job with
  | postInvoice slug body => exact (postInvoice_asks d slug body).mono fun _ _ _ => trivial
  | lnurlp name params => exact (lnurlp_asks d name params).mono fun _ _ _ => trivial
  | createInvoice amountSats => exact createInvoice_asks d amountSats
  | _ => exact Within.asks rfl (handle_within d _)

section Runs

variable {d : Daemon} {s₀ : Shared} {τ : List DaemonLabel} {w : DaemonWorld}

/-- The calls of a trace that one thread made for its job. -/
def CallsOf (τ : List DaemonLabel) (id : Nat) (job : Job) (calls : List DaemonCall) : Prop :=
  ∀ c ∈ calls, .call id job c ∈ τ

/-- The node is asked for no invoice but those that requests call for. In every run each
    invoice that is asked for, plain or just in time, is for an hour and has the description
    of its request: a payment to the Lightning address, of exactly the amount asked, within
    the limits of the channels that the thread listed; a purchase, at an amount that the
    registered price allows; or the operator's bootstrap invoice. The last two are for a
    thousand times the satoshis of the request where that fits into 64 bits. An invoice
    handed to a buyer is the one the node issued for the amount the buyer was told, with the
    same proviso, under that payment hash. -/
theorem invoices_as_requested (hrun : DaemonRun d s₀ τ w) :
    (∀ id job c amountMsat desc expirySecs, .call id job c ∈ τ →
      c.1.receives = some (amountMsat, desc, expirySecs) → expirySecs = 3600 ∧
        ∃ calls, CallsOf τ id job calls ∧ CalledFor d calls job amountMsat desc) ∧
    ∀ id slug body sold, .answer id (.postInvoice slug body) (.purchaseInvoice sold) ∈ τ →
      ∃ calls amountMsat desc inv, CallsOf τ id (.postInvoice slug body) calls ∧
        InMsat sold.amountSats amountMsat ∧ Issued calls amountMsat (.direct desc) inv ∧
        inv.bolt11 = sold.bolt11 ∧ d.lib.hexEncode inv.paymentHash = sold.paymentHash := by
  constructor
  · intro id job c amountMsat desc expirySecs hcall hreceives
    obtain ⟨h, hasks, hcalled⟩ := hrun.justified_call (handle_asks d) hcall
    obtain ⟨hexpiry, hc⟩ := hasks amountMsat desc expirySecs hreceives
    exact ⟨hexpiry, h, hcalled, hc⟩
  · intro id slug body sold hanswer
    obtain ⟨h, -, hreaches, hcalled⟩ := Run.answered hrun id _ _ hanswer
    obtain ⟨amountMsat, desc, inv, hmsat, hbolt11, hhash, hissued⟩ :=
      (postInvoice_asks d slug body).result hreaches
    exact ⟨h, amountMsat, desc, inv, hcalled, hmsat, hissued, hbolt11, hhash⟩

/-- The invoice for the track was issued for 5000000 millisatoshis under its payment hash. -/
theorem invoices_as_requested_midnight : ∃ calls amountMsat desc inv,
    amountMsat.toNat = 5000000 ∧ Issued calls amountMsat (.direct desc) inv ∧
      inv.bolt11 = Sample.issued.bolt11 ∧ Hex.encode inv.paymentHash = Sample.hash := by
  obtain ⟨w, hrun, -⟩ := Sample.sale_run
  have hissued : .answer 0 Sample.saleRequest (.purchaseInvoice Sample.issued) ∈
      Sample.saleTrace := by
    simp [Sample.saleTrace, Sample.saleAnswer, served]
  obtain ⟨calls, amountMsat, desc, inv, -, hmsat, h⟩ :=
    (invoices_as_requested hrun).2 _ _ _ _ hissued
  exact ⟨calls, amountMsat, desc, inv, hmsat (by decide), h⟩

/-- A payment to the Lightning address is bound to what the wallet was shown. In every run an
    invoice that the address hands out was issued by the node for exactly the amount asked,
    and its description is the hash of the metadata in every answer that the address ever
    gives, before or after, to whomever; the amount is no less than the minimum advertised. -/
theorem zap_bound_to_metadata (hrun : DaemonRun d s₀ τ w) {id : Nat} {name pr : String}
    {params : Lnurl.CallbackParams}
    (hanswer : .answer id (.lnurlp name params) (.lnurlInvoice pr) ∈ τ) :
    ∃ calls amountMsat hash inv, CallsOf τ id (.lnurlp name params) calls ∧
      params.amount = some amountMsat ∧ Issued calls amountMsat (.hash hash) inv ∧
      inv.bolt11 = pr ∧
      ∀ id' name' params' request,
        .answer id' (.lnurlp name' params') (.payRequest request) ∈ τ →
        hash = d.lib.sha256 request.metadata.toUTF8 ∧ request.minSendable ≤ amountMsat := by
  obtain ⟨h, -, hreaches, hcalled⟩ := Run.answered hrun id _ _ hanswer
  obtain ⟨amountMsat, inv, hasked, hpr, hlow, hissued⟩ :=
    (lnurlp_asks d name params).result hreaches
  refine ⟨h, amountMsat, _, inv, hcalled, hasked, hissued, hpr, ?_⟩
  intro id' name' params' request hshown
  obtain ⟨h', -, hreaches', -⟩ := Run.answered hrun id' _ _ hshown
  obtain ⟨hmetadata, hmin, -⟩ := (lnurlp_asks d name' params').result hreaches'
  rw [hmetadata, hmin]
  exact ⟨rfl, hlow⟩

end Runs

namespace Sample

/-- A wallet asks for the metadata. -/
def payJob : Job := .lnurlp "ARTIST" ⟨none, none⟩

def payShown : PayRequest where
  callback := Lnurl.callbackUrl (daemon upload).lnurlState
  minSendable := Lnurl.MIN_SENDABLE_MSAT
  maxSendable := Lnurl.maxSendableMsat (Gate.inboundMsat [wideChannel])
  metadata := (daemon upload).metadata
  commentAllowed := 0

/-- It pays 5000 millisatoshis. -/
def zapJob : Job := .lnurlp "ARTIST" ⟨some 5000, none⟩

def zapCalls : List DaemonCall :=
  [⟨.listChannels, [wideChannel]⟩,
    ⟨.receive 5000 (daemon upload).zapDescription Lnurl.INVOICE_EXPIRY_SECS, .ok invoice⟩]

def zapTrace : List DaemonLabel :=
  served 0 payJob [⟨.listChannels, [wideChannel]⟩] (.payRequest payShown) ++
    served 1 zapJob zapCalls (.lnurlInvoice invoice.bolt11)

theorem pay_reaches : Reaches ((system (daemon upload)).program payJob)
    [⟨.listChannels, [wideChannel]⟩] (.done (.payRequest payShown)) := by
  have hprogram : (system (daemon upload)).program payJob =
      Lnurl.metadataResponse (daemon upload).lib (daemon upload).lnurlState := by
    simp only [system, handle, payJob, Lnurl.lnurlp, ownName]
    rfl
  rw [hprogram]
  have hstart : Reaches (Lnurl.metadataResponse (daemon upload).lib (daemon upload).lnurlState) []
    _ := .refl
  exact Reaches.step [wideChannel] hstart

theorem zap_reaches : Reaches ((system (daemon upload)).program zapJob) zapCalls
    (.done (.lnurlInvoice invoice.bolt11)) := by
  have hprogram : (system (daemon upload)).program zapJob =
      Lnurl.invoiceResponse (daemon upload).lib (daemon upload).lnurlState 5000 := by
    simp only [system, handle, zapJob, Lnurl.lnurlp, ownName]
    rfl
  rw [hprogram]
  have hstart : Reaches (Lnurl.invoiceResponse (daemon upload).lib (daemon upload).lnurlState 5000)
    [] _ := .refl
  have hlisted := Reaches.step [wideChannel] hstart
  exact Reaches.step (.ok invoice) hlisted

theorem zap_run : ∃ w, DaemonRun (daemon upload) onSale zapTrace w := by
  have hinitial : DaemonRun (daemon upload) onSale [] (World.initial onSale) := .refl
  obtain ⟨w, hpay, hshared, hnext⟩ := hinitial.serve pay_reaches ⟨onSale, rfl, rfl⟩
  have hcalls : Performs (system (daemon upload)) w.shared zapCalls onSale := by
    rw [hshared]
    exact ⟨onSale, rfl, onSale, rfl, rfl⟩
  obtain ⟨w', hrun, -⟩ := hpay.serve zap_reaches hcalls
  rw [hnext] at hrun
  exact ⟨w', hrun⟩

end Sample

/-- The wallet's invoice has the hash of the metadata it was shown. -/
theorem zap_bound_to_metadata_artist : ∃ calls hash inv,
    Issued calls 5000 (.hash hash) inv ∧ inv.bolt11 = Sample.invoice.bolt11 ∧
      hash = (Sample.daemon Sample.upload).lib.sha256 Sample.payShown.metadata.toUTF8 := by
  obtain ⟨w, hrun⟩ := Sample.zap_run
  have hzapped : .answer 1 Sample.zapJob (.lnurlInvoice Sample.invoice.bolt11) ∈
      Sample.zapTrace := by
    simp [Sample.zapTrace, served]
  have hshown : .answer 0 Sample.payJob (.payRequest Sample.payShown) ∈ Sample.zapTrace := by
    simp [Sample.zapTrace, served]
  obtain ⟨calls, amountMsat, hash, inv, -, hasked, hissued, hpr, hbound⟩ :=
    zap_bound_to_metadata hrun hzapped
  cases hasked
  exact ⟨calls, hash, inv, hissued, hpr, (hbound _ _ _ _ hshown).1⟩

end ArtistNode
