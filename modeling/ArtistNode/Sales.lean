import ArtistNode.Recovery

/-!
# What buyers are told

A sale obtains its invoice, draws its token and records its purchase in sections apart,
and a request for metadata reads a record that the next upload may replace. Here the
answers of the sales interface are compared with the ledger: each invoice that was handed
out is a purchase on disk as well as in memory, and each answer was true of the store at
some moment while its request was being served.
-/

namespace ArtistNode

open Base

/-! ### One purchase for each sale -/

section Booked

variable {d : Daemon} {s₀ : Shared} {τ : List DaemonLabel} {w : DaemonWorld}
variable {id : Nat} {job : Job} {hash slug token : String} {amountMsat createdAt : UInt64}

/-- A purchase whose call succeeded stays, on disk and in memory, through whatever
    follows. -/
theorem DaemonRun.booked (hopened : Opened d s₀) (hjson : d.lib.Lossless)
    (hrun : DaemonRun d s₀ τ w) (hfresh : Fresh d.lib s₀.store.state τ)
    (hcall : .call id job ⟨.createPurchase hash slug amountMsat createdAt token, some (.ok ())⟩ ∈ τ) :
    ∃ disk p q,
      Store.open d.lib.toSerdeJson none w.shared.files d.dataDir = .ok ⟨d.productsDir, disk⟩ ∧
      disk.purchases.lookup hash = some p ∧
      (newPurchase hash slug amountMsat createdAt token).Later p ∧
      w.shared.store.getPurchase hash = some q ∧ p.Later q := by
  obtain ⟨τ₁, τ₂, w₁, w₂, rfl, hbefore, hs, hafter⟩ := Run.split hrun hcall
  have hbefore' : DaemonRun d s₀ τ₁ w₁ := hbefore
  have hrecorded : DaemonRun d s₀ (τ₁ ++ [_]) w₂ := hbefore.snoc hs
  obtain ⟨j, hmirrors, hbelow⟩ := hrecorded.below hopened hjson hfresh.of_append
  obtain ⟨j', hmirrors', hbelow', hgrown⟩ :=
    hmirrors.grows_run hbelow hopened hjson hrecorded hafter hfresh
  -- the call put the purchase on disk
  have hdisk : j.disk.purchases.lookup hash =
      some (newPurchase hash slug amountMsat createdAt token) := by
    have hopen := hmirrors.disk
    cases hs with
    | call thread act =>
      have hdir := (hbefore'.housed hopened).dir
      rcases Shared.section_cases act with ⟨hans, -⟩ | ⟨-, io, hans, hs'⟩
      · cases hans
      · have hok : ((Mutation.createPurchase hash slug amountMsat createdAt token).run
            d.lib.toSerdeJson io w₁.shared.store w₁.shared.files).1 = .ok true := by
          have hresult := Option.some.inj hans
          simp only [Mutation.run]
          rw [← hresult]
          rfl
        have hwritten := (Mutation.open_run_ok hjson hdir rfl hok).2
        simp only [hs'] at hopen
        have hsame := congrArg Store.state (Except.ok.inj (hopen.symm.trans hwritten))
        simp only at hsame
        rw [hsame]
        exact Finmap.lookup_insert _
  obtain ⟨p, hp, hlater⟩ := hgrown.purchases hash _ hdisk
  obtain ⟨q, hq, hlater'⟩ := hbelow'.purchases hash p hp
  refine ⟨j'.disk, p, q, hmirrors'.disk, hp, hlater, ?_, hlater'⟩
  rw [hmirrors'.memory]
  exact hq

end Booked

section Sales

variable {d : Daemon} {s₀ : Shared} {τ : List DaemonLabel} {w : DaemonWorld}

/-- The call with which a thread recorded `p`, on behalf of a request for its product. -/
def RecordedBy (τ : List DaemonLabel) (id : Nat) (hash : String) (p : PurchaseRecord) : Prop :=
  ∃ body token ans, p.claimToken = some token ∧
    .call id (.postInvoice p.slug body)
      ⟨.createPurchase hash p.slug p.amountMsat p.createdAt token, ans⟩ ∈ τ

theorem Created.recordedBy {hash : String} {p : PurchaseRecord} (h : Created τ hash p) :
    ∃ id, RecordedBy τ id hash p := by
  obtain ⟨id, body, amountMsat, createdAt, token, ans, hcall, hlater⟩ := h
  have hamount : p.amountMsat = amountMsat := hlater.amountMsat
  have hcreated : p.createdAt = createdAt := hlater.createdAt
  subst hamount hcreated
  exact ⟨id, body, token, ans, hlater.claimToken, hcall⟩

/-- Every invoice that was handed out is on the books, as long as hashes and tokens are not
    reused. Whatever interleaves, fails to persist or restarts: an invoice that `post_invoice`
    answered with is a purchase on disk and in memory, for the product, the token and, where
    it fits into 64 bits in millisatoshis, the amount that the buyer was told; and every
    purchase that was not there at the start was recorded by exactly one call, for a request
    for its product. -/
theorem sales_booked_once (hopened : Opened d s₀) (hjson : d.lib.Lossless)
    (hrun : DaemonRun d s₀ τ w) (hfresh : Fresh d.lib s₀.store.state τ) :
    (∀ id slug body inv, .answer id (.postInvoice slug body) (.purchaseInvoice inv) ∈ τ →
      ∃ disk p q,
        Store.open d.lib.toSerdeJson none w.shared.files d.dataDir = .ok ⟨d.productsDir, disk⟩ ∧
        disk.purchases.lookup inv.paymentHash = some p ∧
        w.shared.store.getPurchase inv.paymentHash = some q ∧ p.Later q ∧
        p.paymentHash = inv.paymentHash ∧ p.slug = slug ∧ p.claimToken = some inv.claimToken ∧
        InMsat inv.amountSats p.amountMsat) ∧
    ∀ hash p, w.shared.store.getPurchase hash = some p → hash ∉ s₀.store.state.purchases →
      (∃ id, RecordedBy τ id hash p) ∧ (recordedHashes τ).count hash = 1 := by
  constructor
  · intro id slug body inv hanswer
    obtain ⟨hist, -, hreaches, hcalled⟩ := Run.answered hrun id _ _ hanswer
    obtain ⟨l, product, calls, rfl, -, -, -, hsold⟩ :=
      (postInvoice_outcome d.lib d.gateState slug body).result hreaches inv rfl
    obtain ⟨createdAt, hmem⟩ := hsold.recorded
    obtain ⟨disk, p, q, hopen, hp, hlater, hq, hlater'⟩ :=
      hrun.booked hopened hjson hfresh (hcalled _ (List.mem_cons_of_mem _ hmem))
    refine ⟨disk, p, q, hopen, hp, hq, hlater', hlater.paymentHash, hlater.slug, hlater.claimToken,
      ?_⟩
    have hamount : p.amountMsat = inv.amountSats * 1000 := hlater.amountMsat
    rw [hamount]
    exact inMsat_mul inv.amountSats
  · intro hash p hp hnew
    have horigin := (hrun.accounted hopened fun _ => hjson).memory hash p hp
    have hcreated : Created τ hash p := by
      rcases horigin.source with ⟨p₀, hp₀, -⟩ | hcreated
      · exact absurd (Finmap.mem_of_lookup_eq_some hp₀) hnew
      · exact hcreated
    obtain ⟨id, body, token, ans, htoken, hcall⟩ := hcreated.recordedBy
    refine ⟨⟨id, body, token, ans, htoken, hcall⟩, ?_⟩
    exact List.count_eq_one_of_mem (hrun.recordedHashes_nodup hfresh)
      (mem_recordedHashes.mpr ⟨_, _, _, _, _, _, _, hcall⟩)

/-- The invoice for the track is on disk when it is handed out, for 5000000 millisatoshis. -/
theorem sales_booked_once_midnight : ∃ disk p,
    Store.open Sample.json none Sample.afterSale.files Sample.dataDir =
      .ok ⟨(Sample.daemon Sample.upload).productsDir, disk⟩ ∧
    disk.purchases.lookup Sample.hash = some p ∧ p.claimToken = some Sample.token ∧
    p.amountMsat.toNat = 5000000 := by
  obtain ⟨w, hrun, hshared, -⟩ := Sample.sale_run
  have hbooked := (sales_booked_once (Sample.opened_onSale Sample.upload) Sample.json_lossless hrun
    Sample.fresh_sale).1
  have hissued : .answer 0 Sample.saleRequest (.purchaseInvoice Sample.issued) ∈
      Sample.saleTrace := by
    simp [Sample.saleTrace, Sample.saleAnswer, served]
  obtain ⟨disk, p, q, hopen, hp, -, -, -, -, htoken, hamount⟩ := hbooked _ _ _ _ hissued
  rw [hshared] at hopen
  exact ⟨disk, p, hopen, hp, htoken, hamount (by decide)⟩

end Sales

/-! ### Answers are current -/

/-- `P` held of the store at some moment after the request had come in and before it was
    answered. -/
def DuringRequest (d : Daemon) (s₀ : Shared) (τ : List DaemonLabel) (id : Nat) (job : Job)
    (resp : Response) (P : Persisted → Prop) : Prop :=
  ∃ τ₁ τ₂ w₁, τ = τ₁ ++ τ₂ ∧ DaemonRun d s₀ τ₁ w₁ ∧ .start id job ∈ τ₁ ∧
    .answer id job resp ∈ τ₂ ∧ P w₁.shared.store.state

section Current

variable {d : Daemon} {s₀ : Shared} {τ : List DaemonLabel} {w : DaemonWorld}
variable {id : Nat} {job : Job} {resp : Response}

/-- A snapshot that a request took while it was being served. -/
theorem DaemonRun.during (hrun : DaemonRun d s₀ τ w) (hanswer : .answer id job resp ∈ τ)
    {l : Locked} (hlock : .call id job ⟨.lock, some l⟩ ∈ τ) {P : Persisted → Prop}
    (hP : P l.store.state) : DuringRequest d s₀ τ id job resp P := by
  obtain ⟨τ₁, τ₂, w₁, w₂, rfl, hbefore, hs, -⟩ := Run.split hrun hlock
  have hstarted : .start id job ∈ τ₁ := by
    have hmem : .start id job ∈ τ₁ ++ [.call id job ⟨.lock, some l⟩] :=
      (hbefore.snoc hs).called_started List.mem_concat_self
    simpa using hmem
  -- the thread is alive at its call, so it has not been answered yet
  have hunanswered : .answer id job resp ∉ τ₁ := by
    intro hearlier
    obtain ⟨hist, k, hthread⟩ := hs.caller
    cases (hbefore.answered_gone hearlier).1.symm.trans hthread
  have hlater : .answer id job resp ∈ [.call id job ⟨.lock, some l⟩] ++ τ₂ := by
    rw [List.append_assoc] at hanswer
    exact (List.mem_append.mp hanswer).resolve_left hunanswered
  have hread : l.store = w₁.shared.store := reads_of_step hs id job l rfl
  refine ⟨τ₁, [.call id job ⟨.lock, some l⟩] ++ τ₂, w₁, ?_, hbefore, hstarted, hlater, ?_⟩
  · exact List.append_assoc _ _ _
  · rw [← hread]
    exact hP

theorem getProduct_current (slug : String) :
    Guarded AnyCall (fun h resp => ∀ m, resp = .product m → ∃ l p, ⟨.lock, some l⟩ ∈ h ∧
      l.store.getProduct slug = some p ∧ m = Gate.productMeta p) [] (Gate.getProduct slug) := by
  unfold Gate.getProduct
  simp only [perform_bind, guarded_call]
  refine ⟨trivial, fun ans => ?_⟩
  rcases ans with _ | l
  · intro m hm
    cases hm
  simp only
  split
  · rename_i p hp
    intro m hm
    cases hm
    exact ⟨l, p, List.mem_singleton_self _, hp, rfl⟩
  · intro m hm
    cases hm

theorem getStatus_current (lib : Crates) (slug claim : String) :
    Guarded AnyCall (fun h resp => ∀ paid, resp = .paid paid → ∃ l p, ⟨.lock, some l⟩ ∈ h ∧
      l.getPurchaseByClaim claim = some p ∧ p.slug = slug ∧ (paid = false → p.paid = false)) []
      (Gate.getStatus lib slug claim) := by
  unfold Gate.getStatus
  simp only [perform_bind, guarded_call]
  refine ⟨trivial, fun ans => ?_⟩
  rcases ans with _ | l
  · intro paid hpaid
    cases hpaid
  simp only
  split
  · intro paid hpaid
    cases hpaid
  rename_i p hp
  split
  · rename_i hslug
    -- an unset flag is the only way to `false`
    have hflag : Guarded AnyCall (fun h r => [⟨.lock, some l⟩] <+: h ∧ (r = false → p.paid = false))
        [⟨.lock, some l⟩] (Gate.paidOrSettled lib p.paid p.paymentHash) := by
      apply Guarded.extends (List.prefix_refl _)
      unfold Gate.paidOrSettled
      split
      · intro hfalse
        cases hfalse
      rename_i hunpaid
      simp only [perform_bind, guarded_call]
      refine ⟨trivial, fun payments => ?_⟩
      split
      · exact ⟨trivial, fun _ hfalse => by cases hfalse⟩
      · exact fun _ => Bool.not_eq_true _ ▸ hunpaid
    apply hflag.bind
    intro h r hr paid hpaid
    cases hpaid
    exact ⟨l, p, hr.1.subset (List.mem_singleton_self _), hp, hslug, hr.2⟩
  · intro paid hpaid
    cases hpaid

/-- Nobody is told of a state that is over. Each metadata answer, each invoice and each
    `paid: false` was true of the store at a moment while its request was being served: the
    record that was shown or priced was the registered one, the purchase unpaid. -/
theorem answers_are_current (hrun : DaemonRun d s₀ τ w) :
    (∀ id slug m, .answer id (.getProduct slug) (.product m) ∈ τ →
      DuringRequest d s₀ τ id (.getProduct slug) (.product m) fun state =>
        ∃ p, state.products.lookup slug = some p ∧ m = Gate.productMeta p) ∧
    (∀ id slug body inv, .answer id (.postInvoice slug body) (.purchaseInvoice inv) ∈ τ →
      DuringRequest d s₀ τ id (.postInvoice slug body) (.purchaseInvoice inv) fun state =>
        ∃ p, state.products.lookup slug = some p ∧
          Gate.resolveAmount p.priceSats p.floorSats (body.bind (·.amountSats)) =
            .ok inv.amountSats) ∧
    ∀ id slug claim, .answer id (.getStatus slug claim) (.paid false) ∈ τ →
      DuringRequest d s₀ τ id (.getStatus slug claim) (.paid false) fun state =>
        ∃ hash p, state.purchases.lookup hash = some p ∧ p.claimToken = some claim ∧
          p.slug = slug ∧ p.paid = false := by
  refine ⟨?_, ?_, ?_⟩
  · intro id slug m hanswer
    obtain ⟨hist, -, hreaches, hcalled⟩ := Run.answered hrun id _ _ hanswer
    obtain ⟨l, p, hl, hp, hm⟩ := (getProduct_current slug).result hreaches m rfl
    exact hrun.during hanswer (hcalled _ hl) ⟨p, hp, hm⟩
  · intro id slug body inv hanswer
    obtain ⟨hist, -, hreaches, hcalled⟩ := Run.answered hrun id _ _ hanswer
    obtain ⟨l, p, calls, rfl, hp, hamount, -, -⟩ :=
      (postInvoice_outcome d.lib d.gateState slug body).result hreaches inv rfl
    exact hrun.during hanswer (hcalled _ List.mem_cons_self) ⟨p, hp, hamount⟩
  · intro id slug claim hanswer
    obtain ⟨hist, -, hreaches, hcalled⟩ := Run.answered hrun id _ _ hanswer
    obtain ⟨l, p, hl, hp, hslug, hunpaid⟩ :=
      (getStatus_current d.lib slug claim).result hreaches false rfl
    obtain ⟨htoken, hash, hlookup⟩ := Locked.getPurchaseByClaim_some hp
    exact hrun.during hanswer (hcalled _ hl) ⟨hash, p, hlookup, htoken, hslug, hunpaid rfl⟩

/-- The invoice for the track was priced by a record that was registered meanwhile. -/
theorem answers_are_current_midnight :
    DuringRequest (Sample.daemon Sample.upload) Sample.onSale Sample.saleTrace 0 Sample.saleRequest
      Sample.saleAnswer fun state => ∃ p, state.products.lookup "midnight" = some p ∧
        Gate.resolveAmount p.priceSats p.floorSats none = .ok Sample.issued.amountSats := by
  obtain ⟨w, hrun, -⟩ := Sample.sale_run
  have hissued : .answer 0 Sample.saleRequest (.purchaseInvoice Sample.issued) ∈
      Sample.saleTrace := by
    simp [Sample.saleTrace, Sample.saleAnswer, served]
  exact (answers_are_current hrun).2.1 _ _ _ _ hissued

end Current

end ArtistNode
