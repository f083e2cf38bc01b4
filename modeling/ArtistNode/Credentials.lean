import ArtistNode.Base.Sequential
import ArtistNode.Delivery

/-!
# Preimage, claim token and status

A buyer can show the preimage or the claim token, and can ask for the status first. The
three paths find the purchase in different ways and check the slug, the product and the
payment at different points. `verdict` is what all of them are there to decide; where
the ledger invariant holds, each of them decides just that.
-/

namespace ArtistNode

open Base

/-! ### The verdict -/

/-- What a buyer of a purchase can expect: the lock is poisoned, there is no such
    purchase of this product, the payment is still missing, or the file is served. -/
inductive Verdict where
  | unavailable
  | notFound
  | unpaid
  | serve (path : String)
deriving DecidableEq

/-- Whether the purchase counts as paid: it is marked, or the node lists it as settled. -/
def countsAsPaid (lib : Crates) (s : Shared) (p : PurchaseRecord) : Bool :=
  p.paid || Gate.settledOnNode lib s.payments p.paymentHash

/-- The verdict on the holder of the purchase `p` who asks for `slug`. -/
def verdict (lib : Crates) (s : Shared) (slug : String) (p : PurchaseRecord) : Verdict :=
  if s.poisoned then .unavailable
  else if p.slug = slug then
    match s.store.getProduct slug with
    | none => .notFound
    | some product =>
      if countsAsPaid lib s p then .serve (s.store.artifactPath product) else .unpaid
  else .notFound

/-- The ledger afterwards: a purchase that counts as paid has been marked. -/
def ledgerAfter (lib : Crates) (s : Shared) (slug : String) (p : PurchaseRecord) : Store :=
  match verdict lib s slug p with
  | .serve _ =>
    if p.paid then s.store
    else { s.store with state := s.store.state.setPaid p.paymentHash p }
  | _ => s.store

/-- The file that the calls of a download have opened. -/
def openedFile (h : List DaemonCall) : Option String :=
  h.findSome? fun c => match c with
    | ⟨.openFile path, _⟩ => some path
    | _ => none

/-- The verdict that a download has come to, from its calls and its answer. -/
def downloadVerdict (h : List DaemonCall) (resp : Response) : Verdict :=
  match openedFile h with
  | some path => .serve path
  | none =>
    match resp.status with
    | .notFound => .notFound
    | .paymentRequired => .unpaid
    | _ => .unavailable

/-- The verdict that a status request has come to; it does not say which file. -/
def StatusVerdict (resp : Response) : Verdict → Prop
  | .unavailable => resp = Gate.poisoned
  | .notFound => resp = .err .notFound "No purchase for this claim"
  | .unpaid => resp = .paid false
  | .serve _ => resp = .paid true

section Handlers

variable {d : Daemon} {s : Shared} {slug : String} {p : PurchaseRecord} {h : List DaemonCall}

/-! ### The handlers, from a consistent ledger -/

theorem openedFile_snoc {op : Op} {ans : Answer op} (hnone : openedFile h = none) :
    openedFile (h ++ [⟨op, ans⟩]) = openedFile [⟨op, ans⟩] := by
  unfold openedFile at hnone ⊢
  rw [List.findSome?_append, hnone]
  rfl

theorem act_lock_some {s s' : Shared} {ans : Option Locked} (hact : act d s .lock ans s')
    (hhealthy : s.poisoned = false) : s' = s ∧ ∃ l, ans = some l ∧ l.store = s.store := by
  obtain ⟨hs, ⟨hpoisoned, -⟩ | ⟨-, hl⟩⟩ := hact
  · rw [hhealthy] at hpoisoned
    cases hpoisoned
  · exact ⟨hs, hl⟩

theorem act_lock_none {s s' : Shared} {ans : Option Locked} (hact : act d s .lock ans s')
    (hpoisoned : s.poisoned = true) : s' = s ∧ ans = none := by
  obtain ⟨hs, ⟨-, hnone⟩ | ⟨hhealthy, -⟩⟩ := hact
  · exact ⟨hs, hnone⟩
  · rw [hpoisoned] at hhealthy
    cases hhealthy

/-- Marking an unpaid purchase changes the same in memory however its commit ends. -/
theorem act_markPaid {s' : Shared} {ans : Option (Except String Bool)}
    (hact : act d s (.markPaid p.paymentHash) ans s') (hhealthy : s.poisoned = false)
    (hp : s.store.state.purchases.lookup p.paymentHash = some p) (hunpaid : p.paid = false) :
    s'.poisoned = false ∧
      s'.store = { s.store with state := s.store.state.setPaid p.paymentHash p } := by
  have hchange : (Mutation.markPaid p.paymentHash).change s.store.state =
      some (s.store.state.setPaid p.paymentHash p) := by
    simp [Mutation.change, hp, hunpaid]
  obtain ⟨hpoisoned, -⟩ | ⟨-, io, -, rfl⟩ := hact
  · rw [hhealthy] at hpoisoned
    cases hpoisoned
  · refine ⟨hhealthy, ?_⟩
    rcases (Mutation.markPaid p.paymentHash).run_cases d.lib.toSerdeJson io s.store s.files with
      ⟨hnone, -⟩ | ⟨state, hsome, hrun⟩
    · rw [hchange] at hnone
      cases hnone
    · obtain rfl := Option.some.inj (hchange.symm.trans hsome)
      exact congrArg (·.2.1) hrun

theorem paidOrSettled_alone (hhealthy : s.poisoned = false)
    (hp : s.store.state.purchases.lookup p.paymentHash = some p)
    (hnone : openedFile h = none) :
    Alone (system d) (fun s' h' r => s'.poisoned = false ∧ openedFile h' = none ∧
      r = countsAsPaid d.lib s p ∧
      s'.store = if r && !p.paid then
        { s.store with state := s.store.state.setPaid p.paymentHash p } else s.store) s h
      (Gate.paidOrSettled d.lib p.paid p.paymentHash) := by
  unfold Gate.paidOrSettled
  rcases hpaid : p.paid with _ | _
  · simp only [Bool.false_eq_true, if_false, perform_bind, alone_call]
    rintro payments s₁ ⟨rfl, rfl⟩
    have hnone₁ : openedFile (h ++ [⟨Op.listPayments, s₁.payments⟩]) = none :=
      openedFile_snoc hnone
    rcases hsettled : Gate.settledOnNode d.lib s₁.payments p.paymentHash with _ | _
    · exact ⟨hhealthy, hnone₁, by simp [countsAsPaid, hpaid, hsettled], rfl⟩
    · simp only [if_true, alone_call]
      intro ans s₂ hact
      obtain ⟨hhealthy₂, hstore⟩ := act_markPaid (d := d) hact hhealthy hp hpaid
      exact ⟨hhealthy₂, openedFile_snoc hnone₁, by simp [countsAsPaid, hsettled], hstore⟩
  · exact ⟨hhealthy, hnone, by simp [countsAsPaid, hpaid], rfl⟩

theorem serveArtifact_alone (hhealthy : s.poisoned = false) {product : ProductRecord}
    (hnone : openedFile h = none) :
    Alone (system d) (fun s' h' _ => s'.store = s.store ∧
      openedFile h' = some (s.store.artifactPath product)) s h
      (Gate.serveArtifact d.lib slug product) := by
  unfold Gate.serveArtifact
  simp only [perform_bind, alone_call]
  intro ans s₁ hact
  obtain ⟨rfl, l, rfl, hl⟩ := act_lock_some (d := d) hact hhealthy
  simp only [alone_call]
  rintro ans s₂ ⟨rfl, -⟩
  have hopened : openedFile ((h ++ [⟨Op.lock, some l⟩]) ++
      [⟨Op.openFile (joinPath l.store.dir product.fileName), ans⟩]) =
      some (s₂.store.artifactPath product) := by
    rw [openedFile_snoc (openedFile_snoc hnone), hl]
    rfl
  rcases ans with e | contents
  · exact ⟨rfl, hopened⟩
  · simp only
    split
    all_goals exact ⟨rfl, hopened⟩

/-- The parameters hold a preimage of the purchase's payment hash, or else its token. -/
def HoldsCredential (lib : Crates) (p : PurchaseRecord) (params : Gate.DownloadParams) : Prop :=
  match params.preimage with
  | some preimage => ∃ bytes, IsPreimage lib preimage bytes ∧
      lib.hexEncode (lib.sha256 bytes) = p.paymentHash
  | none => ∃ token, params.claim = some token ∧ p.claimToken = some token

theorem getPurchaseByClaim_eq (hinv : LedgerInv s.store.state)
    (hp : s.store.state.purchases.lookup p.paymentHash = some p) {token : String}
    (htoken : p.claimToken = some token) {l : Locked} (hl : l.store = s.store) :
    l.getPurchaseByClaim token = some p := by
  rw [← hl] at hp hinv
  apply Locked.getPurchaseByClaim_eq hp htoken
  intro hash p' hp' htoken'
  exact hinv.tokens hash p.paymentHash p' p token hp' hp htoken' htoken

/-- Either credential resolves to the purchase's payment hash. -/
theorem credentialHash_alone (hinv : LedgerInv s.store.state)
    (hp : s.store.state.purchases.lookup p.paymentHash = some p) {params : Gate.DownloadParams}
    (hparams : HoldsCredential d.lib p params) :
    Alone (system d) (fun s' h r => s' = s ∧ openedFile h = none ∧
      (r = .ok p.paymentHash ∨ s.poisoned = true ∧ r = .error Gate.poisoned)) s []
      (Gate.credentialHash d.lib params) := by
  unfold HoldsCredential at hparams
  unfold Gate.credentialHash
  rcases hpreimage : params.preimage with _ | preimage
  · simp only [hpreimage] at hparams
    obtain ⟨token, hclaim, htoken⟩ := hparams
    simp only [hclaim, perform_bind, alone_call]
    intro ans s₁ hact
    by_cases hpoisoned : s.poisoned = true
    · obtain ⟨rfl, rfl⟩ := act_lock_none (d := d) hact hpoisoned
      exact ⟨rfl, rfl, Or.inr ⟨hpoisoned, rfl⟩⟩
    · obtain ⟨rfl, l, rfl, hl⟩ := act_lock_some (d := d) hact (Bool.not_eq_true _ ▸ hpoisoned)
      simp only [getPurchaseByClaim_eq hinv hp htoken hl]
      exact ⟨rfl, rfl, Or.inl rfl⟩
  · simp only [hpreimage] at hparams
    obtain ⟨bytes, hbytes, hhash⟩ := hparams
    simp only [preimageBytes_iff.mpr hbytes, hhash]
    exact ⟨rfl, rfl, Or.inl rfl⟩

theorem verdict_poisoned (slug : String) (hpoisoned : s.poisoned = true) :
    verdict d.lib s slug p = .unavailable := by
  unfold verdict
  rw [if_pos hpoisoned]

theorem verdict_other (hhealthy : s.poisoned = false) (hslug : p.slug ≠ slug) :
    verdict d.lib s slug p = .notFound := by
  simp only [verdict, hhealthy, hslug, Bool.false_eq_true, if_false]

theorem verdict_unregistered (hhealthy : s.poisoned = false)
    (hproduct : s.store.getProduct slug = none) : verdict d.lib s slug p = .notFound := by
  simp only [verdict, hhealthy, hproduct, Bool.false_eq_true, if_false, ite_self]

theorem verdict_registered {product : ProductRecord} (hhealthy : s.poisoned = false)
    (hslug : p.slug = slug) (hproduct : s.store.getProduct slug = some product) :
    verdict d.lib s slug p =
      if countsAsPaid d.lib s p then .serve (s.store.artifactPath product) else .unpaid := by
  simp only [verdict, hhealthy, hslug, hproduct, Bool.false_eq_true, if_true, if_false]

/-- A download that opens no file has come to the verdict that its status shows, and has
    left the ledger as it was. -/
theorem download_stops {v : Verdict} {resp : Response} {s' : Shared}
    (hverdict : verdict d.lib s slug p = v) (hnone : openedFile h = none)
    (hresp : downloadVerdict [] resp = v) (hstore : s'.store = s.store) :
    downloadVerdict h resp = verdict d.lib s slug p ∧
      s'.store = ledgerAfter d.lib s slug p := by
  have hsame : downloadVerdict h resp = v := by
    rw [← hresp]
    unfold downloadVerdict
    rw [hnone]
    rfl
  rw [hverdict]
  refine ⟨hsame, ?_⟩
  unfold ledgerAfter
  rw [hverdict]
  cases v with
  | serve path =>
    simp only [downloadVerdict, openedFile, List.findSome?_nil] at hresp
    split at hresp
    all_goals cases hresp
  | _ => exact hstore

theorem download_serves {resp : Response} {path : String} (hsome : openedFile h = some path) :
    downloadVerdict h resp = .serve path := by
  unfold downloadVerdict
  rw [hsome]

theorem getDownload_alone (slug : String) (hinv : LedgerInv s.store.state)
    (hp : s.store.state.purchases.lookup p.paymentHash = some p) {params : Gate.DownloadParams}
    (hparams : HoldsCredential d.lib p params) :
    Alone (system d) (fun s' h resp => downloadVerdict h resp = verdict d.lib s slug p ∧
      s'.store = ledgerAfter d.lib s slug p) s [] (Gate.getDownload d.lib slug params) := by
  unfold Gate.getDownload
  apply (credentialHash_alone hinv hp hparams).bind
  rintro s₀ h r ⟨hsame, hnone, hr⟩
  subst hsame
  rcases hr with rfl | ⟨hpoisoned, rfl⟩
  · simp only [perform_bind, alone_call]
    intro ans s₁ hact
    by_cases hpoisoned : s₀.poisoned = true
    · obtain ⟨rfl, rfl⟩ := act_lock_none (d := d) hact hpoisoned
      exact download_stops (verdict_poisoned slug hpoisoned) (openedFile_snoc hnone) rfl rfl
    have hhealthy : s₀.poisoned = false := Bool.not_eq_true _ ▸ hpoisoned
    obtain ⟨rfl, l, rfl, hl⟩ := act_lock_some (d := d) hact hhealthy
    have hnone₁ : openedFile (h ++ [⟨Op.lock, some l⟩]) = none := openedFile_snoc hnone
    have hpurchase : l.store.getPurchase p.paymentHash = some p := by
      rw [hl]
      exact hp
    simp only [hpurchase]
    by_cases hslug : p.slug = slug
    · simp only [hslug, ne_eq, not_true_eq_false, if_false, hl]
      rcases hproduct : s₁.store.getProduct slug with _ | product
      · exact download_stops (verdict_unregistered hhealthy hproduct) hnone₁ rfl rfl
      have hverdict : verdict d.lib s₁ slug p = if countsAsPaid d.lib s₁ p then
          .serve (s₁.store.artifactPath product) else .unpaid :=
        verdict_registered hhealthy hslug hproduct
      simp only
      apply (paidOrSettled_alone hhealthy hp hnone₁).bind
      rintro s₂ h₂ paid ⟨hhealthy₂, hnone₂, rfl, hstore₂⟩
      rcases hpaid : countsAsPaid d.lib s₁ p with _ | _
      · simp only [hpaid, Bool.false_and, Bool.false_eq_true, if_false] at hverdict hstore₂
        exact download_stops hverdict hnone₂ rfl hstore₂
      · simp only [hpaid, Bool.true_and, if_true] at hverdict hstore₂
        have hafter : ledgerAfter d.lib s₁ slug p = s₂.store := by
          rw [hstore₂]
          simp only [ledgerAfter, hverdict]
          rcases p.paid with _ | _ <;> rfl
        have hpath : s₂.store.artifactPath product = s₁.store.artifactPath product := by
          rw [hstore₂]
          split <;> rfl
        simp only [Bool.not_true, Bool.false_eq_true, if_false]
        apply (serveArtifact_alone hhealthy₂ hnone₂).mono
        rintro s₃ h₃ resp ⟨hstore₃, hopened⟩
        rw [hpath] at hopened
        exact ⟨(download_serves hopened).trans hverdict.symm, hstore₃.trans hafter.symm⟩
    · simp only [ne_eq, hslug, not_false_eq_true, if_true]
      exact download_stops (verdict_other hhealthy hslug) hnone₁ rfl rfl
  · exact download_stops (verdict_poisoned slug hpoisoned) hnone rfl rfl

theorem getStatus_alone (slug : String) (hinv : LedgerInv s.store.state)
    (hp : s.store.state.purchases.lookup p.paymentHash = some p) {token : String}
    (htoken : p.claimToken = some token) :
    Alone (system d) (fun _ _ resp => StatusVerdict resp (verdict d.lib s slug p)) s []
      (Gate.getStatus d.lib slug token) := by
  unfold Gate.getStatus
  simp only [perform_bind, alone_call]
  intro ans s₁ hact
  by_cases hpoisoned : s.poisoned = true
  · obtain ⟨rfl, rfl⟩ := act_lock_none (d := d) hact hpoisoned
    rw [verdict_poisoned slug hpoisoned]
    exact rfl
  have hhealthy : s.poisoned = false := Bool.not_eq_true _ ▸ hpoisoned
  obtain ⟨rfl, l, rfl, hl⟩ := act_lock_some (d := d) hact hhealthy
  simp only [getPurchaseByClaim_eq hinv hp htoken hl]
  by_cases hslug : p.slug = slug
  · -- the product of a purchase is registered, so the verdict does not depend on it
    obtain ⟨product, hproduct⟩ := Finmap.mem_iff.mp (hinv.registered _ p hp)
    have hregistered : s₁.store.getProduct slug = some product := by
      rw [← hslug]
      exact hproduct
    rw [verdict_registered hhealthy hslug hregistered]
    simp only [hslug, if_true]
    apply (paidOrSettled_alone hhealthy hp rfl).bind
    rintro s₂ h₂ paid ⟨-, -, rfl, -⟩
    rcases countsAsPaid d.lib s₁ p with _ | _
    all_goals exact rfl
  · simp only [hslug, if_false]
    rw [verdict_other hhealthy hslug]
    exact rfl

/-! ### Tokens that no purchase carries -/

theorem getPurchaseByClaim_unknown {token : String}
    (hunknown : ∀ hash q, s.store.state.purchases.lookup hash = some q →
      q.claimToken ≠ some token) {l : Locked} (hl : l.store = s.store) :
    l.getPurchaseByClaim token = none := by
  by_contra hfound
  obtain ⟨q, hq⟩ := Option.ne_none_iff_exists'.mp hfound
  obtain ⟨htoken, hash, hlookup⟩ := Locked.getPurchaseByClaim_some hq
  rw [hl] at hlookup
  exact hunknown hash q hlookup htoken

theorem unknown_token_alone (slug : String) {token : String} (hhealthy : s.poisoned = false)
    (hunknown : ∀ hash q, s.store.state.purchases.lookup hash = some q →
      q.claimToken ≠ some token) :
    Alone (system d) (fun _ _ resp => resp.status = .notFound) s []
        (Gate.getStatus d.lib slug token) ∧
      Alone (system d) (fun _ _ resp => resp.status = .notFound) s []
        (Gate.getDownload d.lib slug ⟨none, some token⟩) := by
  constructor
  · unfold Gate.getStatus
    simp only [perform_bind, alone_call]
    intro ans s₁ hact
    obtain ⟨rfl, l, rfl, hl⟩ := act_lock_some (d := d) hact hhealthy
    simp only [getPurchaseByClaim_unknown hunknown hl]
    exact rfl
  · unfold Gate.getDownload Gate.credentialHash
    simp only [perform_bind, Process.call_bind, alone_call]
    intro ans s₁ hact
    obtain ⟨rfl, l, rfl, hl⟩ := act_lock_some (d := d) hact hhealthy
    simp only [getPurchaseByClaim_unknown hunknown hl]
    exact rfl

end Handlers

/-! ### Executions exist -/

theorem act_total (d : Daemon) (s : Shared) (op : Op) : ∃ ans s', act d s op ans s' := by
  have hsection : ∀ {β : Type} (run : PersistIo → Except String β × Store × Files),
      ∃ ans s', s.section run ans s' := by
    intro β run
    rcases hpoisoned : s.poisoned with _ | _
    · exact ⟨_, _, Or.inr ⟨hpoisoned, ⟨0, none⟩, rfl, rfl⟩⟩
    · exact ⟨none, s, Or.inl ⟨hpoisoned, rfl, rfl⟩⟩
  cases op with
  | lock =>
    obtain ⟨values, hvalues⟩ := Quotient.exists_rep (s.store.state.purchases.entries.map Sigma.snd)
    rcases hpoisoned : s.poisoned with _ | _
    · exact ⟨some ⟨s.store, values, hvalues⟩, s, act_lock_healthy hpoisoned rfl⟩
    · exact ⟨none, s, rfl, Or.inl ⟨hpoisoned, rfl⟩⟩
  | upsertProduct record => exact hsection _
  | createPurchase paymentHash slug amountMsat createdAt claimToken => exact hsection _
  | markPaid paymentHash => exact hsection _
  | writeFile path contents => exact ⟨.ok (), _, Or.inl ⟨rfl, rfl⟩⟩
  | openFile path => exact ⟨.error "", s, rfl, fun contents hcontents => by cases hcontents⟩
  | nodeId => exact ⟨"", s, rfl⟩
  | listChannels => exact ⟨[], s, rfl⟩
  | listPeers => exact ⟨[], s, rfl⟩
  | listPayments => exact ⟨s.payments, s, rfl, rfl⟩
  | listBalances => exact ⟨⟨0, 0, 0⟩, s, rfl⟩
  | receive amountMsat description expiry => exact ⟨.error "", s, rfl⟩
  | receiveViaJitChannel amountMsat description expiry => exact ⟨.error "", s, rfl⟩
  | newAddress => exact ⟨.error "", s, rfl⟩
  | sendToAddress address amountSats => exact ⟨.error "", s, rfl⟩
  | connect nodeId address persist => exact ⟨.error "", s, rfl⟩
  | eventHandled => exact ⟨.ok (), s, rfl⟩
  | lsps1Post url body => exact ⟨.error "", s, rfl⟩
  | lsps1Get url => exact ⟨.error "", s, rfl⟩
  | nowSecs => exact ⟨0, s, rfl⟩
  | fillRandom length => exact ⟨.error "", s, rfl⟩

theorem exists_execution (d : Daemon) (job : Job) (s : Shared) :
    ∃ h resp s', Executes (system d) job s h resp s' := by
  have hS : ∀ s op, ∃ ans s', (system d).act s op ans s' := act_total d
  exact exists_executes hS job s

/-! ### The result -/

/-- The two downloads and the status of one purchase agree in this state: the downloads
    come to one verdict and leave one ledger, and the status answers 404, unpaid or paid
    just as they answer 404, answer 402 or go on to the file. -/
def CredentialsAgree (d : Daemon) (s : Shared) : Prop :=
  ∀ slug token preimage claim hash p bytes c₁ r₁ s₁ c₂ r₂ s₂ c₃ r₃ s₃,
    s.store.getPurchase hash = some p → p.claimToken = some token →
    IsPreimage d.lib preimage bytes →
    d.lib.hexEncode (d.lib.sha256 bytes) = hash →
    Executes (system d) (.getDownload slug ⟨some preimage, claim⟩) s c₁ r₁ s₁ →
    Executes (system d) (.getDownload slug ⟨none, some token⟩) s c₂ r₂ s₂ →
    Executes (system d) (.getStatus slug token) s c₃ r₃ s₃ →
      downloadVerdict c₁ r₁ = downloadVerdict c₂ r₂ ∧ s₁.store = s₂.store ∧
        (r₃.status = .notFound ↔ downloadVerdict c₁ r₁ = .notFound) ∧
        (r₃ = .paid false ↔ downloadVerdict c₁ r₁ = .unpaid) ∧
        (r₃ = .paid true ↔ ∃ path, downloadVerdict c₁ r₁ = .serve path)

/-- A token that no purchase carries is answered with 404, by status and download. -/
def UnknownTokensRefused (d : Daemon) (s : Shared) : Prop :=
  ∀ slug token, (∀ hash p, s.store.getPurchase hash = some p → p.claimToken ≠ some token) →
    s.poisoned = false →
    (∀ c r s', Executes (system d) (.getStatus slug token) s c r s' → r.status = .notFound) ∧
      ∀ c r s', Executes (system d) (.getDownload slug ⟨none, some token⟩) s c r s' →
        r.status = .notFound

theorem LedgerInv.credentialsAgree {d : Daemon} {s : Shared} (hinv : LedgerInv s.store.state) :
    CredentialsAgree d s := by
  intro slug token preimage claim hash p bytes c₁ r₁ s₁ c₂ r₂ s₂ c₃ r₃ s₃ hp htoken hbytes hhash
    hx₁ hx₂ hx₃
  obtain rfl := hinv.purchaseHash hash p hp
  have hpreimage : HoldsCredential d.lib p ⟨some preimage, claim⟩ := ⟨bytes, hbytes, hhash⟩
  have hclaim : HoldsCredential d.lib p ⟨none, some token⟩ := ⟨token, rfl, htoken⟩
  obtain ⟨hverdict₁, hstore₁⟩ := hx₁.post (getDownload_alone slug hinv hp hpreimage)
  obtain ⟨hverdict₂, hstore₂⟩ := hx₂.post (getDownload_alone slug hinv hp hclaim)
  have hstatus := hx₃.post (getStatus_alone slug hinv hp htoken)
  refine ⟨hverdict₁.trans hverdict₂.symm, hstore₁.trans hstore₂.symm, ?_⟩
  rw [hverdict₁]
  rcases hverdict : verdict d.lib s slug p with _ | _ | _ | path
  all_goals
    rw [hverdict] at hstatus
    simp only [StatusVerdict] at hstatus
    subst hstatus
    simp [Gate.poisoned, Response.status]

theorem unknownTokensRefused (d : Daemon) (s : Shared) : UnknownTokensRefused d s := by
  intro slug token hunknown hhealthy
  obtain ⟨hstatus, hdownload⟩ := unknown_token_alone (d := d) slug hhealthy hunknown
  exact ⟨fun c r s' hx => hx.post hstatus, fun c r s' hx => hx.post hdownload⟩

/-- In every reachable state preimage, claim token and status agree. -/
theorem credentials_agree {d : Daemon} {s₀ : Shared} {τ : List DaemonLabel} {w : DaemonWorld}
    (hopened : Opened d s₀) (hinv : LedgerInv s₀.store.state) (hrun : DaemonRun d s₀ τ w)
    (hjson : .restart ∈ τ → d.lib.Lossless) (hfresh : Fresh d.lib s₀.store.state τ) :
    CredentialsAgree d w.shared ∧ UnknownTokensRefused d w.shared :=
  ⟨(hrun.ledgerInv hopened hinv hjson hfresh).credentialsAgree, unknownTokensRefused d w.shared⟩

/-- After the buyer's payment: the track is served to the preimage as to the token, and
    the status says so. -/
theorem credentials_agree_midnight : ∃ c₁ r₁ s₁ c₃ r₃ s₃,
    Executes (system (Sample.daemon Sample.upload)) (.getDownload "midnight"
      ⟨some "0707070707070707070707070707070707070707070707070707070707070707", none⟩)
      Sample.afterPayment c₁ r₁ s₁ ∧
    Executes (system (Sample.daemon Sample.upload)) (.getStatus "midnight" Sample.token)
      Sample.afterPayment c₃ r₃ s₃ ∧
    downloadVerdict c₁ r₁ = .serve "/data/products/midnight.flac" ∧
    s₁.store = Sample.afterDownload.store ∧ r₃ = .paid true := by
  have hlisted : LedgerInv Sample.listed :=
    LedgerInv.empty.change (m := .upsertProduct Sample.midnight) rfl trivial
  obtain ⟨w, hrun, hshared, -⟩ := Sample.paid_run
  have hfresh : Fresh (Sample.daemon Sample.upload).lib Sample.onSale.store.state
      Sample.paidTrace :=
    .of_empty rfl (List.nodup_singleton (Hex.encode Sample.paymentHash))
      (List.nodup_singleton (Hex.encode Sample.tokenBytes))
  obtain ⟨hagree, -⟩ := credentials_agree (Sample.opened_onSale Sample.upload) hlisted hrun
    (fun _ => Sample.json_lossless) hfresh
  rw [hshared] at hagree
  obtain ⟨c₁, r₁, s₁, hx₁⟩ := exists_execution (Sample.daemon Sample.upload)
    (.getDownload "midnight"
      ⟨some "0707070707070707070707070707070707070707070707070707070707070707", none⟩)
    Sample.afterPayment
  obtain ⟨c₃, r₃, s₃, hx₃⟩ := exists_execution (Sample.daemon Sample.upload)
    (.getStatus "midnight" Sample.token) Sample.afterPayment
  obtain ⟨hsame, hstore, -, -, hpaid⟩ := hagree _ _ _ _ _ Sample.sale Sample.preimage _ _ _ _ _ _
    _ _ _ rfl rfl Sample.isPreimage_text Sample.encode_paymentHash hx₁
    ⟨Sample.download_reaches, Sample.download_performs⟩ hx₃
  have hserved : downloadVerdict Sample.downloadCalls Sample.downloadAnswer =
      .serve "/data/products/midnight.flac" := by decide
  have hverdict := hsame.trans hserved
  exact ⟨c₁, r₁, s₁, c₃, r₃, s₃, hx₁, hx₃, hverdict, hstore, hpaid.mpr ⟨_, hverdict⟩⟩

end ArtistNode
