import ArtistNode.Delivery
import ArtistNode.Footprint
import ArtistNode.Uploads

/-!
# Products do not disturb each other

All products share one index and one lock, and a payment hash or a claim token may be
presented at any of them. Nevertheless, what the node knows of a product and the files of
its artifact change only by requests for this product, and by payments that come in.
-/

namespace ArtistNode

open Base

/-- The product that a request is about. -/
def Job.slug? : Job → Option String
  | .putProduct slug .. => some slug
  | .getProduct slug => some slug
  | .postInvoice slug _ => some slug
  | .getStatus slug _ => some slug
  | .getDownload slug _ => some slug
  | _ => none

/-! ### What a request marks as paid -/

/-- A purchase that is about to be marked is one that the handler has seen, and it is for this
    product. -/
def MarksOwn (slug : String) (h : List DaemonCall) : Op → Prop
  | .markPaid hash => ∃ l key p, ⟨.lock, some l⟩ ∈ h ∧ l.store.getPurchase key = some p ∧
      p.slug = slug ∧ (hash = key ∨ hash = p.paymentHash)
  | _ => True

section Marks

variable {lib : Crates} {slug : String} {h : List DaemonCall}

theorem paidOrSettled_marks {paid : Bool} {hash : String} (hown : MarksOwn slug h (.markPaid hash)) :
    Guarded (MarksOwn slug) (fun _ _ => True) h (Gate.paidOrSettled lib paid hash) := by
  unfold Gate.paidOrSettled
  split
  · trivial
  simp only [perform_bind, guarded_call]
  refine ⟨trivial, fun payments => ?_⟩
  split
  · obtain ⟨l, key, p, hl, hp, hslug, hhash⟩ := hown
    exact ⟨⟨l, key, p, List.mem_append_left _ hl, hp, hslug, hhash⟩, fun _ => trivial⟩
  · trivial

theorem getStatus_marks (claim : String) :
    Guarded (MarksOwn slug) (fun _ _ => True) [] (Gate.getStatus lib slug claim) := by
  unfold Gate.getStatus
  simp only [perform_bind, guarded_call]
  refine ⟨trivial, fun l => ?_⟩
  rcases l with _ | l
  · trivial
  simp only
  split
  · trivial
  rename_i p hp
  split
  · rename_i hslug
    obtain ⟨-, key, hlookup⟩ := Locked.getPurchaseByClaim_some hp
    refine (paidOrSettled_marks ?_).bind fun _ _ _ => trivial
    exact ⟨l, key, p, List.mem_singleton_self _, hlookup, hslug, Or.inr rfl⟩
  · trivial

theorem credentialHash_marks (params : Gate.DownloadParams) :
    Guarded (MarksOwn slug) (fun _ _ => True) h (Gate.credentialHash lib params) := by
  unfold Gate.credentialHash
  split
  · split
    all_goals trivial
  · simp only [perform_bind, guarded_call]
    refine ⟨trivial, fun l => ?_⟩
    rcases l with _ | l
    · trivial
    simp only
    split
    all_goals trivial
  · trivial

theorem getDownload_marks (params : Gate.DownloadParams) :
    Guarded (MarksOwn slug) (fun _ _ => True) [] (Gate.getDownload lib slug params) := by
  unfold Gate.getDownload
  apply (credentialHash_marks params).bind
  intro h r _
  rcases r with resp | hash
  · trivial
  simp only [perform_bind, guarded_call]
  refine ⟨trivial, fun l => ?_⟩
  rcases l with _ | l
  · trivial
  simp only
  split
  · trivial
  rename_i p hp
  split
  · trivial
  rename_i hslug
  split
  · trivial
  have hown : MarksOwn slug (h ++ [⟨.lock, some l⟩]) (.markPaid hash) :=
    ⟨l, hash, p, List.mem_concat_self, hp, not_not.mp hslug, Or.inl rfl⟩
  apply (paidOrSettled_marks hown).bind
  intro h paid _
  split
  · trivial
  unfold Gate.serveArtifact
  simp only [perform_bind, guarded_call]
  refine ⟨trivial, fun l => ?_⟩
  rcases l with _ | l
  · trivial
  refine ⟨trivial, fun contents => ?_⟩
  rcases contents with e | contents
  · trivial
  simp only
  split
  all_goals trivial

end Marks

/-! ### The part of the ledger that belongs to a product -/

/-- The purchase under a payment hash, if it is one of this product. -/
def Persisted.purchaseOf (state : Persisted) (slug hash : String) : Option PurchaseRecord :=
  (state.purchases.lookup hash).filter fun p => p.slug = slug

/-- The event loop was told of a payment with this hash. -/
def Arrived (d : Daemon) (τ : List DaemonLabel) (hash : String) : Prop :=
  ∃ id bytes ans, hash = d.lib.hexEncode bytes ∧
    .call id (.paymentReceived bytes) ⟨.markPaid hash, ans⟩ ∈ τ

/-- The product's record and purchases are the same, but that purchases whose payment has come
    in may have been marked as paid. -/
structure SameProduct (d : Daemon) (τ : List DaemonLabel) (slug : String)
    (before after : Persisted) : Prop where
  record : after.products.lookup slug = before.products.lookup slug
  purchases : ∀ hash, after.purchaseOf slug hash = before.purchaseOf slug hash ∨
    ∃ p, before.purchaseOf slug hash = some p ∧
      after.purchaseOf slug hash = some { p with paid := true } ∧ Arrived d τ hash

/-- What a mutator may do that is called for the sake of something else than the product. -/
def Mutation.Elsewhere (d : Daemon) (τ : List DaemonLabel) (slug : String) (state : Persisted) :
    Mutation → Prop
  | .upsertProduct record => record.slug ≠ slug
  | .createPurchase hash slug' _ _ _ => slug' ≠ slug ∧ hash ∉ state.purchases
  | .markPaid hash => Arrived d τ hash ∨ state.purchaseOf slug hash = none

section Products

variable {d : Daemon} {τ τ' : List DaemonLabel} {slug : String} {before state after : Persisted}

theorem SameProduct.refl : SameProduct d τ slug state state := ⟨rfl, fun _ => Or.inl rfl⟩

theorem SameProduct.mono (h : SameProduct d τ slug before after) (hsub : τ ⊆ τ') :
    SameProduct d τ' slug before after := by
  refine ⟨h.record, fun hash => ?_⟩
  rcases h.purchases hash with hsame | ⟨p, hp, hpaid, id, bytes, ans, hhash, hmem⟩
  · exact Or.inl hsame
  · exact Or.inr ⟨p, hp, hpaid, id, bytes, ans, hhash, hsub hmem⟩

/-- Inserting a purchase shows at its hash only. -/
theorem purchaseOf_insert_of_ne {hash hash' : String} {p : PurchaseRecord} (hne : hash' ≠ hash) :
    ({ state with purchases := state.purchases.insert hash p } : Persisted).purchaseOf slug hash' =
      state.purchaseOf slug hash' := by
  unfold Persisted.purchaseOf
  rw [Finmap.lookup_insert_of_ne _ hne]

theorem purchaseOf_insert_self {hash : String} {p : PurchaseRecord} :
    ({ state with purchases := state.purchases.insert hash p } : Persisted).purchaseOf slug hash =
      if p.slug = slug then some p else none := by
  unfold Persisted.purchaseOf
  rw [Finmap.lookup_insert, Option.filter_some]
  simp only [decide_eq_true_eq]

/-- A purchase that is marked stays one of the same product. -/
theorem SameProduct.setPaid (h : SameProduct d τ slug before state) {hash : String}
    {p : PurchaseRecord} (hp : state.purchases.lookup hash = some p)
    (hmark : Arrived d τ hash ∨ state.purchaseOf slug hash = none) :
    SameProduct d τ slug before (state.setPaid hash p) := by
  refine ⟨h.record, fun hash' => ?_⟩
  unfold Persisted.setPaid
  by_cases hhash : hash' = hash
  · subst hhash
    rw [purchaseOf_insert_self]
    have hfound : state.purchaseOf slug hash' = if p.slug = slug then some p else none := by
      unfold Persisted.purchaseOf
      rw [hp, Option.filter_some]
      simp only [decide_eq_true_eq]
    by_cases hslug : p.slug = slug
    · rw [if_pos hslug] at hfound
      have harrived : Arrived d τ hash' := by
        apply hmark.resolve_right
        rw [hfound]
        exact Option.some_ne_none p
      simp only [if_pos hslug]
      rcases h.purchases hash' with hsame | ⟨q, hq, hpaid, -⟩
      · exact Or.inr ⟨p, hsame.symm.trans hfound, rfl, harrived⟩
      · -- it has been marked before
        obtain rfl := Option.some.inj (hfound.symm.trans hpaid)
        exact Or.inr ⟨q, hq, rfl, harrived⟩
    · simp only [if_neg hslug] at hfound ⊢
      rw [← hfound]
      exact h.purchases hash'
  · rw [purchaseOf_insert_of_ne hhash]
    exact h.purchases hash'

/-- A change that is made elsewhere leaves the product as it is. -/
theorem SameProduct.change {m : Mutation} (h : SameProduct d τ slug before state)
    (helsewhere : m.Elsewhere d τ slug state) (hchange : m.change state = some after) :
    SameProduct d τ slug before after := by
  cases m with
  | upsertProduct record =>
    obtain rfl := Option.some.inj hchange
    refine ⟨?_, h.purchases⟩
    have hkept : (state.upsertProduct record).products.lookup slug = state.products.lookup slug :=
      Finmap.lookup_insert_of_ne _ (Ne.symm helsewhere)
    exact hkept.trans h.record
  | createPurchase hash slug' amountMsat createdAt token =>
    obtain rfl := Option.some.inj hchange
    obtain ⟨hslug, hnew⟩ := helsewhere
    refine ⟨h.record, fun hash' => ?_⟩
    have hkept : (state.createPurchase (newPurchase hash slug' amountMsat createdAt token)).purchaseOf
        slug hash' = state.purchaseOf slug hash' := by
      unfold Persisted.createPurchase
      by_cases hhash : hash' = hash
      · subst hhash
        have hnone : state.purchaseOf slug hash' = none := by
          unfold Persisted.purchaseOf
          rw [Finmap.lookup_eq_none.mpr hnew, Option.filter_none]
        rw [hnone]
        exact purchaseOf_insert_self.trans (if_neg hslug)
      · exact purchaseOf_insert_of_ne hhash
    rw [hkept]
    exact h.purchases hash'
  | markPaid hash =>
    obtain ⟨p, hp, -, rfl⟩ := Mutation.change_markPaid hchange
    exact h.setPaid hp helsewhere

end Products

/-! ### Runs in which nobody asks for the product -/

/-- The purchases are kept under their payment hashes. -/
def Persisted.Keyed (state : Persisted) : Prop :=
  ∀ hash p, state.purchases.lookup hash = some p → p.paymentHash = hash

/-- No step is taken for a request that is about the product. -/
def Unasked (τ : List DaemonLabel) (slug : String) : Prop :=
  ∀ id job c, .call id job c ∈ τ → job.slug? ≠ some slug

/-- What the index says about the product is what memory says. -/
def Saved (d : Daemon) (s : Shared) (slug : String) : Prop :=
  ∀ store, Store.open d.lib.toSerdeJson none s.files d.dataDir = .ok store →
    SameProduct d [] slug s.store.state store.state

section Runs

variable {d : Daemon} {s₀ : Shared} {τ τ₁ : List DaemonLabel} {w w₁ : DaemonWorld} {slug : String}

/-- Purchases are kept under their payment hashes in memory, on disk and in each snapshot. -/
theorem DaemonRun.keyed (hopened : Opened d s₀) (hkeyed : s₀.store.state.Keyed)
    (hjson : d.lib.Lossless) (hrun : DaemonRun d s₀ τ w) :
    Kept d (fun _ state => state.Keyed) τ w.shared := by
  have hbase : DaemonRun d s₀ [] (World.initial s₀) := .refl
  refine Kept.run hopened hbase (Kept.opened hopened hkeyed) (fun _ h => h) ?_ hrun
    (fun _ => hjson)
  intro τ w id job h op k m state ans _ hkeyed _ _ _ hchange hash q hq
  rcases Mutation.earlier_of_change hchange hq with ⟨p, hp, hlater⟩ | ⟨_, _, _, _, -, rfl⟩
  · exact hlater.paymentHash.trans (hkeyed hash p hp)
  · rfl

/-- What a thread is about to mark as paid: the payment that came in, or a purchase of the
    product that its request is about. -/
theorem DaemonRun.marks_own (hrun : DaemonRun d s₀ τ w) {id : Nat} {job : Job}
    {h : List DaemonCall} {hash : String} {k : Answer (.markPaid hash) → Handler Response}
    (hthread : w.threads id = some ⟨job, h, .call (.markPaid hash) k⟩) :
    (∃ bytes, job = .paymentReceived bytes ∧ hash = d.lib.hexEncode bytes) ∨
      ∃ slug', job.slug? = some slug' ∧ MarksOwn slug' h (.markPaid hash) := by
  have hreaches : Reaches (handle d job) h (.call (.markPaid hash) k) :=
    (hrun.traced _ _ hthread).reaches
  have huses := (handle_within d job).pending hreaches
  cases job with
  | getStatus slug claim => exact Or.inr ⟨slug, rfl, (getStatus_marks claim).pending hreaches⟩
  | getDownload slug params => exact Or.inr ⟨slug, rfl, (getDownload_marks params).pending hreaches⟩
  | paymentReceived bytes =>
    have hguarded : Guarded (fun _ op => ∀ hash', op = .markPaid hash' →
        hash' = d.lib.hexEncode bytes) (fun _ _ => True) [] (onPaymentReceived d.lib bytes) := by
      unfold onPaymentReceived
      simp only [perform_bind, guarded_call]
      refine ⟨fun hash' heq => (Op.markPaid.inj heq).symm, fun _ => ⟨?_, fun handled => ?_⟩⟩
      · intro hash' heq
        cases heq
      · rcases handled with e | ⟨⟩
        all_goals trivial
    exact Or.inl ⟨bytes, rfl, hguarded.pending hreaches hash rfl⟩
  | _ => cases huses

/-- A mutator that is called for something else than the product works elsewhere. -/
theorem DaemonRun.elsewhere (hopened : Opened d s₀) (hkeyed : s₀.store.state.Keyed)
    (hjson : d.lib.Lossless) (hrun : DaemonRun d s₀ τ₁ w) (hfresh : Fresh d.lib s₀.store.state τ₁)
    {id : Nat} {job : Job} {h : List DaemonCall} {op : Op} {k : Answer op → Handler Response}
    {ans : Answer op} (hthread : w.threads id = some ⟨job, h, .call op k⟩) {m : Mutation}
    (hop : op.mutation = some m) (hother : job.slug? ≠ some slug) :
    m.Elsewhere d (τ ++ [.call id job ⟨op, ans⟩]) slug w.shared.store.state := by
  have htraced := hrun.traced _ _ hthread
  have hjust : Justified d job h op := (handle_guarded d job).pending htraced.reaches
  have hseen := hrun.seen hopened (fun _ => hjson) hfresh
  cases op with
  | upsertProduct record =>
    obtain rfl := Option.some.inj hop
    obtain ⟨-, slug', params, auth, body, rfl, rfl⟩ := hjust
    intro heq
    exact hother (congrArg some heq)
  | createPurchase hash slug' amountMsat createdAt token =>
    have hadmissible := hseen.admissible hopened hrun (fun _ => hjson) hfresh hthread hop
    obtain rfl := Option.some.inj hop
    obtain ⟨⟨body, rfl⟩, -⟩ := hjust
    refine ⟨?_, hadmissible.1⟩
    rintro rfl
    exact hother rfl
  | markPaid hash =>
    obtain rfl := Option.some.inj hop
    rcases hrun.marks_own hthread with ⟨bytes, rfl, hhash⟩ | ⟨slug', hjob, l, key, p, hl, hp, rfl, hkey⟩
    · exact Or.inl ⟨id, bytes, ans, hhash, List.mem_concat_self⟩
    · have hkeys := (hrun.keyed hopened hkeyed hjson).snapshots id job l (htraced.called _ hl)
      obtain rfl : hash = key := hkey.elim (fun heq => heq) fun heq => heq.trans (hkeys key p hp)
      -- what the handler has seen is still there
      obtain ⟨q, hq, hlater⟩ := (hseen _ _ hthread l hl).purchases hash p hp
      have hslug : q.slug ≠ slug := by
        intro heq
        rw [hjob, ← hlater.slug, heq] at hother
        exact hother rfl
      refine Or.inr ?_
      unfold Persisted.purchaseOf
      rw [hq, Option.filter_some, if_neg]
      simpa using hslug
  | _ => cases hop

theorem Unasked.prefix {l : DaemonLabel} (h : Unasked (τ ++ [l]) slug) : Unasked τ slug :=
  fun id job c hc => h id job c (List.mem_append_left _ hc)

/-- The product stays the same in memory and on disk. -/
theorem DaemonRun.sameProduct (hopened : Opened d s₀) (hkeyed : s₀.store.state.Keyed)
    (hjson : d.lib.Lossless) (hbefore : DaemonRun d s₀ τ₁ w₁) (hsaved : Saved d w₁.shared slug)
    (hlater : Run (system d) w₁ τ w) :
    Kept d (fun τ state => Fresh d.lib s₀.store.state (τ₁ ++ τ) → Unasked τ slug →
      SameProduct d τ slug w₁.shared.store.state state) τ w.shared := by
  refine Kept.run hopened hbefore ?_ ?_ ?_ hlater fun _ => hjson
  · refine ⟨fun _ _ => .refl, fun _ store hopen _ _ => hsaved store hopen, ?_⟩
    intro id job l hmem
    cases hmem
  · intro τ state l hkept hfresh hunasked
    rw [← List.append_assoc] at hfresh
    exact (hkept hfresh.of_append hunasked.prefix).mono (List.subset_append_left _ _)
  · intro τ w id job h op k m state ans hrun hkept hthread _ hop hchange hfresh hunasked
    rw [← List.append_assoc] at hfresh
    have hother := hunasked id job ⟨op, ans⟩ List.mem_concat_self
    have hsame := (hkept hfresh.of_append hunasked.prefix).mono
      (List.subset_append_left τ [.call id job ⟨op, ans⟩])
    exact hsame.change
      (hrun.elsewhere hopened hkeyed hjson hfresh.of_append hthread hop hother) hchange

/-- And so do the files of its artifact. -/
theorem DaemonRun.sameArtifact (hopened : Opened d s₀) (hbefore : DaemonRun d s₀ τ₁ w₁)
    (hlater : Run (system d) w₁ τ w) {format : String} (hslug : validSlug slug = true)
    (hformat : validFormat format = true) (hunasked : Unasked τ slug) :
    w.shared.files (d.artifactFile slug format) = w₁.shared.files (d.artifactFile slug format) := by
  revert hunasked
  refine Run.induct (I := fun τ w => Unasked τ slug → w.shared.files (d.artifactFile slug format) =
    w₁.shared.files (d.artifactFile slug format)) (fun _ => rfl)
    (fun {τ w l w'} hr ih hs hunasked => ?_) hlater
  have hrun : DaemonRun d s₀ (τ₁ ++ τ) w := hbefore.trans hr
  refine Eq.trans ?_ (ih hunasked.prefix)
  cases hs with
  | start job => rfl
  | answer thread => rfl
  | env act => exact congrFun (env_files act).2 _
  | restart act =>
    obtain ⟨store, -, rfl⟩ := act
    rfl
  | @call id job h op k ans s' thread act =>
    rcases act_cases act with rfl | ⟨m, io, -, rfl⟩ | ⟨path, body, written, rfl, rfl⟩
    · rfl
    · obtain ⟨hindex, htmp⟩ := artifactFile_ne_index (d := d) hslug hformat
      rw [← (hrun.housed hopened).dir] at hindex htmp
      exact m.run_other d.lib.toSerdeJson io w.shared.store w.shared.files htmp hindex
    · -- the file that is written is another product's
      apply Files.write_other
      intro hpath
      have hpending := hrun.upload_pending thread (Or.inl rfl)
      obtain ⟨slug', params, auth, body', rfl, hadmitted, rfl, ⟨lock, hlock, rfl⟩, -⟩ := hpending
      have htraced := hrun.traced _ _ thread
      rw [(hrun.housed hopened).snapshots id _ lock (htraced.called _ hlock)] at hpath
      obtain ⟨rfl, -⟩ := artifact_path_inj hslug hadmitted.validSlug hformat hpath
      exact hunasked id _ _ List.mem_concat_self rfl

/-- Products do not disturb each other. From any moment at which the index holds what memory
    holds of a product, and as long as no step is taken for a request about this product, its
    record, its purchases and the files of its artifact stay what they are, whatever is
    uploaded, bought, paid or downloaded besides, and whatever fails. Only the purchases
    whose payments come in meanwhile may be marked as paid. The same holds of what a restart
    would find. -/
theorem products_isolated (hopened : Opened d s₀) (hkeyed : s₀.store.state.Keyed)
    (hjson : d.lib.Lossless) (hbefore : DaemonRun d s₀ τ₁ w₁) (hsaved : Saved d w₁.shared slug)
    (hlater : Run (system d) w₁ τ w) (hfresh : Fresh d.lib s₀.store.state (τ₁ ++ τ))
    (hunasked : Unasked τ slug) :
    SameProduct d τ slug w₁.shared.store.state w.shared.store.state ∧
      (∀ store, Store.open d.lib.toSerdeJson none w.shared.files d.dataDir = .ok store →
        SameProduct d τ slug w₁.shared.store.state store.state) ∧
      ∀ format, validSlug slug = true → validFormat format = true →
        w.shared.files (d.artifactFile slug format) =
          w₁.shared.files (d.artifactFile slug format) := by
  have hkept := hbefore.sameProduct hopened hkeyed hjson hsaved hlater
  refine ⟨hkept.memory hfresh hunasked, ?_, ?_⟩
  · intro store hopen
    exact hkept.disk hjson store hopen hfresh hunasked
  · intro format hslug hformat
    exact hbefore.sameArtifact hopened hlater hslug hformat hunasked

end Runs

namespace Sample

/-- Somebody presents the token of the sale at another product. -/
def strayRequest : Job := .getDownload "sunrise" ⟨none, some token⟩

def strayCalls : List DaemonCall := [⟨.lock, some soldLocked⟩, ⟨.lock, some soldLocked⟩]

def strayAnswer : Response := .err .notFound "Purchase is for a different product"

def arrivedRequest : Job := .paymentReceived paymentHash

def arrivedCalls : List DaemonCall := [⟨.markPaid hash, some (.ok true)⟩, ⟨.eventHandled, .ok ()⟩]

/-- The stray token, and then the payment. -/
def strayTrace : List DaemonLabel :=
  served 1 strayRequest strayCalls strayAnswer ++ [.env (.payments paidList)] ++
    served 2 arrivedRequest arrivedCalls (.eventLoop true)

theorem stray_reaches : Reaches ((system (daemon upload)).program strayRequest) strayCalls
    (.done strayAnswer) := by
  have hclaim : soldLocked.getPurchaseByClaim token = some sale := rfl
  have hpurchase : soldLocked.store.getPurchase sale.paymentHash = some sale := rfl
  have hslug : sale.slug ≠ "sunrise" := by decide
  have hstart : Reaches (Gate.getDownload (crates upload) "sunrise" ⟨none, some token⟩) []
      (Gate.getDownload (crates upload) "sunrise" ⟨none, some token⟩) := .refl
  have hcredential := Reaches.step (some soldLocked) hstart
  simp only [Process.bind, hclaim] at hcredential
  have hchecked := Reaches.step (some soldLocked) hcredential
  simp only [Process.bind, hpurchase, if_pos hslug] at hchecked
  exact hchecked

theorem arrived_reaches : Reaches ((system (daemon upload)).program arrivedRequest) arrivedCalls
    (.done (.eventLoop true)) := by
  have hstart : Reaches (onPaymentReceived (crates upload) paymentHash) []
      (onPaymentReceived (crates upload) paymentHash) := .refl
  have hmarked := hstart.step (some (.ok true))
  have hhandled := hmarked.step (.ok ())
  have hhash : (crates upload).hexEncode paymentHash = hash := encode_paymentHash
  rw [hhash] at hhandled
  exact hhandled

theorem stray_run : ∃ w₁ w, DaemonRun (daemon upload) onSale saleTrace w₁ ∧
    w₁.shared = afterSale ∧ Run (system (daemon upload)) w₁ strayTrace w := by
  obtain ⟨w₁, hsale, hshared₁, hnext₁⟩ := sale_run
  have hlock : act (daemon upload) afterSale .lock (some soldLocked) afterSale :=
    act_lock_healthy rfl rfl
  have hstray : Performs (system (daemon upload)) w₁.shared strayCalls afterSale := by
    rw [hshared₁]
    exact ⟨afterSale, hlock, afterSale, hlock, rfl⟩
  have hbase : Run (system (daemon upload)) w₁ [] w₁ := .refl
  obtain ⟨w₂, hrun₂, hshared₂, hnext₂⟩ := hbase.serve stray_reaches hstray
  have henv : (system (daemon upload)).env w₂.shared (.payments paidList) afterPayment := by
    rw [hshared₂]
    rfl
  have hpaid := hrun₂.snoc (.env henv)
  have hmark : act (daemon upload) afterPayment (.markPaid hash) (some (.ok true))
      afterDownload := Or.inr ⟨rfl, ⟨0, none⟩, rfl, rfl⟩
  have harrived : Performs (system (daemon upload)) afterPayment arrivedCalls afterDownload :=
    ⟨_, hmark, _, rfl, rfl⟩
  obtain ⟨w₃, hrun₃, -⟩ := hpaid.serve arrived_reaches harrived
  have hnext : w₂.next = 2 := hnext₂.trans (congrArg (· + 1) hnext₁)
  rw [hnext₁, hnext] at hrun₃
  exact ⟨w₁, w₃, hsale, hshared₁, hrun₃⟩

/-- The sale is in the index. -/
theorem saved_afterSale : Saved (daemon upload) afterSale "midnight" := by
  intro store hopen
  have hok : (createSale.run json ⟨0, none⟩ Sample.store onSale.files).1 = .ok true := rfl
  have hdir : Sample.store.dir = joinPath dataDir "products" := by decide
  obtain ⟨-, hindex⟩ := Mutation.open_run_ok json_lossless hdir rfl hok
  obtain rfl := Except.ok.inj (hindex.symm.trans hopen)
  exact .refl

end Sample

/-- The token that is presented elsewhere changes nothing; the payment marks the purchase. -/
theorem products_isolated_midnight : ∃ w, DaemonRun (Sample.daemon Sample.upload) Sample.onSale
      (Sample.saleTrace ++ Sample.strayTrace) w ∧
    SameProduct (Sample.daemon Sample.upload) Sample.strayTrace "midnight" Sample.sold
      w.shared.store.state ∧
    w.shared.files "/data/products/midnight.flac" =
      Sample.afterSale.files "/data/products/midnight.flac" := by
  obtain ⟨w₁, w, hbefore, hshared, hlater⟩ := Sample.stray_run
  have hkeyed : Sample.onSale.store.state.Keyed := by
    intro hash p hp
    cases (Finmap.lookup_empty hash).symm.trans hp
  have hsaved : Saved (Sample.daemon Sample.upload) w₁.shared "midnight" := by
    rw [hshared]
    exact Sample.saved_afterSale
  have hfresh : Fresh (Sample.daemon Sample.upload).lib Sample.onSale.store.state
      (Sample.saleTrace ++ Sample.strayTrace) :=
    .of_empty rfl (List.nodup_singleton (Hex.encode Sample.paymentHash))
      (List.nodup_singleton (Hex.encode Sample.tokenBytes))
  have hunasked : Unasked Sample.strayTrace "midnight" := by
    intro id job c hc
    simp [Sample.strayTrace, Sample.strayCalls, Sample.arrivedCalls, served] at hc
    rcases hc with ⟨-, rfl, -⟩ | ⟨-, rfl, -⟩ | ⟨-, rfl, -⟩
    · exact (by decide : Sample.strayRequest.slug? ≠ some "midnight")
    · exact (by decide : Sample.arrivedRequest.slug? ≠ some "midnight")
    · exact (by decide : Sample.arrivedRequest.slug? ≠ some "midnight")
  obtain ⟨hsame, -, hfiles⟩ := products_isolated (Sample.opened_onSale Sample.upload) hkeyed
    Sample.json_lossless hbefore hsaved hlater hfresh hunasked
  rw [hshared] at hsame hfiles
  have hpath : (Sample.daemon Sample.upload).artifactFile "midnight" "flac" =
      "/data/products/midnight.flac" := by decide
  have hartifact := hfiles "flac" (by decide) (by decide)
  rw [hpath] at hartifact
  exact ⟨w, hbefore.trans hlater, hsame, hartifact⟩

end ArtistNode
