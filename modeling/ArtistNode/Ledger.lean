import ArtistNode.Pricing
import ArtistNode.Steps

/-!
# The purchase ledger over whole runs

Where each purchase of the ledger comes from, why nothing is lost while the process
lives, and why the fields of the two maps stay consistent. Recording a purchase
overwrites whatever is stored under its hash, and the product was read in an
earlier section, so both rest on the freshness of hashes and tokens and on no
operation ever deleting.
-/

namespace ArtistNode

open Base

/-! ### Growth -/

/-- `q` is the purchase `p` some time later. -/
structure PurchaseRecord.Later (p q : PurchaseRecord) : Prop where
  paymentHash : q.paymentHash = p.paymentHash
  slug : q.slug = p.slug
  amountMsat : q.amountMsat = p.amountMsat
  createdAt : q.createdAt = p.createdAt
  claimToken : q.claimToken = p.claimToken
  paid : p.paid = true → q.paid = true

theorem PurchaseRecord.Later.refl (p : PurchaseRecord) : p.Later p :=
  ⟨rfl, rfl, rfl, rfl, rfl, id⟩

theorem PurchaseRecord.Later.trans {p q r : PurchaseRecord} (h : p.Later q) (h' : q.Later r) :
    p.Later r :=
  ⟨h'.paymentHash.trans h.paymentHash, h'.slug.trans h.slug, h'.amountMsat.trans h.amountMsat,
    h'.createdAt.trans h.createdAt, h'.claimToken.trans h.claimToken, h'.paid ∘ h.paid⟩

theorem PurchaseRecord.later_paid (p : PurchaseRecord) : p.Later { p with paid := true } :=
  ⟨rfl, rfl, rfl, rfl, rfl, fun _ => rfl⟩

/-- Nothing disappears, and a purchase changes in nothing but its flag, which stays
    set. -/
structure Persisted.Grows (before after : Persisted) : Prop where
  products : ∀ slug, slug ∈ before.products → slug ∈ after.products
  purchases : ∀ paymentHash p, before.purchases.lookup paymentHash = some p →
    ∃ q, after.purchases.lookup paymentHash = some q ∧ p.Later q

theorem Persisted.Grows.refl (state : Persisted) : state.Grows state :=
  ⟨fun _ h => h, fun _ p h => ⟨p, h, .refl p⟩⟩

theorem Persisted.Grows.trans {a b c : Persisted} (h : a.Grows b) (h' : b.Grows c) :
    a.Grows c := by
  refine ⟨fun slug hslug => h'.products slug (h.products slug hslug), ?_⟩
  intro paymentHash p hp
  obtain ⟨q, hq, hpq⟩ := h.purchases paymentHash p hp
  obtain ⟨r, hr, hqr⟩ := h'.purchases paymentHash q hq
  exact ⟨r, hr, hpq.trans hqr⟩

namespace Mutation

variable {m : Mutation} {before after : Persisted}

/-- What a call may be that records a purchase: neither its hash nor its token has
    been used, and its product is there. -/
def Admissible (state : Persisted) : Mutation → Prop
  | .createPurchase paymentHash slug _ _ claimToken =>
    paymentHash ∉ state.purchases ∧ slug ∈ state.products ∧
      ∀ hash p, state.purchases.lookup hash = some p → p.claimToken ≠ some claimToken
  | _ => True

theorem mem_products_of_change (h : m.change before = some after) {slug : String}
    (hslug : slug ∈ before.products) : slug ∈ after.products := by
  by_cases hkey : m.productKey = some slug
  · cases m with
    | upsertProduct record =>
      obtain rfl := Option.some.inj h
      exact Finmap.mem_insert.mpr (Or.inr hslug)
    | createPurchase paymentHash slug' amountMsat createdAt claimToken => cases hkey
    | markPaid paymentHash => cases hkey
  · have hsame := m.products_of_change h hkey
    rw [← Finmap.lookup_isSome] at hslug ⊢
    rwa [hsame]

/-- Everything a change can do to the purchase under one hash. -/
theorem lookup_of_change (h : m.change before = some after) {hash : String} {q : PurchaseRecord}
    (hq : after.purchases.lookup hash = some q) :
    before.purchases.lookup hash = some q ∨
      (∃ slug amountMsat createdAt claimToken,
        m = .createPurchase hash slug amountMsat createdAt claimToken ∧
          q = newPurchase hash slug amountMsat createdAt claimToken) ∨
      (m = .markPaid hash ∧ ∃ p, before.purchases.lookup hash = some p ∧
        q = { p with paid := true }) := by
  by_cases hkey : m.purchaseKey = some hash
  · have hrecorded := recorded_of_change h
    cases m with
    | upsertProduct record => cases hkey
    | createPurchase paymentHash slug amountMsat createdAt claimToken =>
      obtain rfl := Option.some.inj hkey
      have hnew : q = newPurchase paymentHash slug amountMsat createdAt claimToken :=
        Option.some.inj (hq.symm.trans hrecorded)
      exact Or.inr (Or.inl ⟨slug, amountMsat, createdAt, claimToken, rfl, hnew⟩)
    | markPaid paymentHash =>
      obtain rfl := Option.some.inj hkey
      obtain ⟨p, hp, hafter⟩ := hrecorded
      exact Or.inr (Or.inr ⟨rfl, p, hp, Option.some.inj (hq.symm.trans hafter)⟩)
  · rw [m.purchases_of_change h hkey] at hq
    exact Or.inl hq

/-- Each purchase after a change that is not the new one was there before, with the
    same hash, slug and token. -/
theorem earlier_of_change (h : m.change before = some after) {hash : String} {q : PurchaseRecord}
    (hq : after.purchases.lookup hash = some q) :
    (∃ p, before.purchases.lookup hash = some p ∧ p.Later q) ∨
      ∃ slug amountMsat createdAt claimToken,
        m = .createPurchase hash slug amountMsat createdAt claimToken ∧
          q = newPurchase hash slug amountMsat createdAt claimToken := by
  rcases lookup_of_change h hq with hsame | hnew | ⟨-, p, hp, rfl⟩
  · exact Or.inl ⟨q, hsame, .refl q⟩
  · exact Or.inr hnew
  · exact Or.inl ⟨p, hp, p.later_paid⟩

theorem grows_of_change (h : m.change before = some after) (hadm : m.Admissible before) :
    before.Grows after := by
  refine ⟨fun slug => mem_products_of_change h, ?_⟩
  intro hash p hp
  by_cases hkey : m.purchaseKey = some hash
  · have hrecorded := recorded_of_change h
    cases m with
    | upsertProduct record => cases hkey
    | createPurchase paymentHash slug amountMsat createdAt claimToken =>
      obtain rfl := Option.some.inj hkey
      exact absurd (Finmap.mem_of_lookup_eq_some hp) hadm.1
    | markPaid paymentHash =>
      obtain rfl := Option.some.inj hkey
      obtain ⟨p', hp', hafter⟩ := hrecorded
      obtain rfl : p' = p := Option.some.inj (hp'.symm.trans hp)
      exact ⟨_, hafter, p'.later_paid⟩
  · rw [← m.purchases_of_change h hkey] at hp
    exact ⟨p, hp, .refl p⟩

end Mutation

/-! ### Consistency -/

structure LedgerInv (state : Persisted) : Prop where
  productSlug : ∀ slug p, state.products.lookup slug = some p → p.slug = slug
  purchaseHash : ∀ hash p, state.purchases.lookup hash = some p → p.paymentHash = hash
  registered : ∀ hash p, state.purchases.lookup hash = some p → p.slug ∈ state.products
  tokens : ∀ hash hash' p p' token, state.purchases.lookup hash = some p →
    state.purchases.lookup hash' = some p' → p.claimToken = some token →
    p'.claimToken = some token → hash = hash'

namespace LedgerInv

variable {m : Mutation} {before after : Persisted}

theorem productSlug_of_change (hinv : LedgerInv before) (h : m.change before = some after)
    {slug : String} {p : ProductRecord} (hp : after.products.lookup slug = some p) :
    p.slug = slug := by
  by_cases hkey : m.productKey = some slug
  · cases m with
    | upsertProduct record =>
      obtain rfl := Option.some.inj hkey
      have hrecorded : after.products.lookup record.slug = some record :=
        Mutation.recorded_of_change h
      obtain rfl := Option.some.inj (hrecorded.symm.trans hp)
      rfl
    | createPurchase paymentHash slug' amountMsat createdAt claimToken => cases hkey
    | markPaid paymentHash => cases hkey
  · rw [m.products_of_change h hkey] at hp
    exact hinv.productSlug slug p hp

theorem purchaseHash_of_change (hinv : LedgerInv before) (h : m.change before = some after)
    {hash : String} {q : PurchaseRecord} (hq : after.purchases.lookup hash = some q) :
    q.paymentHash = hash := by
  rcases Mutation.earlier_of_change h hq with ⟨p, hp, hlater⟩ | ⟨_, _, _, _, -, rfl⟩
  · rw [hlater.paymentHash]
    exact hinv.purchaseHash hash p hp
  · rfl

theorem registered_of_change (hinv : LedgerInv before) (h : m.change before = some after)
    (hadm : m.Admissible before) {hash : String} {q : PurchaseRecord}
    (hq : after.purchases.lookup hash = some q) : q.slug ∈ after.products := by
  apply Mutation.mem_products_of_change h
  rcases Mutation.earlier_of_change h hq with ⟨p, hp, hlater⟩ | ⟨_, _, _, _, rfl, rfl⟩
  · rw [hlater.slug]
    exact hinv.registered hash p hp
  · exact hadm.2.1

/-- The new purchase has a new token; the old ones keep theirs. -/
theorem tokens_of_change (hinv : LedgerInv before) (h : m.change before = some after)
    (hadm : m.Admissible before) {hash hash' token : String} {q q' : PurchaseRecord}
    (hq : after.purchases.lookup hash = some q) (hq' : after.purchases.lookup hash' = some q')
    (ht : q.claimToken = some token) (ht' : q'.claimToken = some token) : hash = hash' := by
  rcases Mutation.earlier_of_change h hq with ⟨p, hp, hlater⟩ | ⟨_, _, _, _, rfl, rfl⟩
  · rw [hlater.claimToken] at ht
    rcases Mutation.earlier_of_change h hq' with ⟨p', hp', hlater'⟩ | ⟨_, _, _, _, rfl, rfl⟩
    · rw [hlater'.claimToken] at ht'
      exact hinv.tokens hash hash' p p' token hp hp' ht ht'
    · exact absurd (ht.trans ht'.symm) (hadm.2.2 hash p hp)
  · rcases Mutation.earlier_of_change h hq' with ⟨p', hp', hlater'⟩ | ⟨_, _, _, _, hsame, -⟩
    · rw [hlater'.claimToken] at ht'
      exact absurd (ht'.trans ht.symm) (hadm.2.2 hash' p' hp')
    · exact (Mutation.createPurchase.inj hsame).1

theorem change (hinv : LedgerInv before) (h : m.change before = some after)
    (hadm : m.Admissible before) : LedgerInv after where
  productSlug _ _ hp := hinv.productSlug_of_change h hp
  purchaseHash _ _ hq := hinv.purchaseHash_of_change h hq
  registered _ _ hq := hinv.registered_of_change h hadm hq
  tokens _ _ _ _ _ hq hq' ht ht' := hinv.tokens_of_change h hadm hq hq' ht ht'

end LedgerInv

/-! ### Claim tokens -/

theorem Locked.mem_values {l : Locked} {p : PurchaseRecord} :
    p ∈ l.values ↔ ∃ hash, l.store.state.purchases.lookup hash = some p := by
  rw [← Multiset.mem_coe, l.values_eq, Multiset.mem_map]
  constructor
  · rintro ⟨⟨hash, q⟩, hentry, rfl⟩
    exact ⟨hash, Finmap.lookup_eq_some_iff.mpr hentry⟩
  · rintro ⟨hash, hp⟩
    exact ⟨⟨hash, p⟩, Finmap.lookup_eq_some_iff.mp hp, rfl⟩

/-- A claim token finds a purchase that carries it, if there is one. -/
theorem Locked.getPurchaseByClaim_some {l : Locked} {token : String} {p : PurchaseRecord}
    (h : l.getPurchaseByClaim token = some p) :
    p.claimToken = some token ∧ ∃ hash, l.store.state.purchases.lookup hash = some p := by
  refine ⟨?_, Locked.mem_values.mp (List.mem_of_find?_eq_some h)⟩
  have htoken := List.find?_some h
  exact eq_of_beq htoken

theorem Locked.getPurchaseByClaim_none {l : Locked} {token : String}
    (h : l.getPurchaseByClaim token = none) {hash : String} {p : PurchaseRecord}
    (hp : l.store.state.purchases.lookup hash = some p) : p.claimToken ≠ some token := by
  intro htoken
  have hnone := List.find?_eq_none.mp h p (Locked.mem_values.mpr ⟨hash, hp⟩)
  exact hnone (beq_iff_eq.mpr htoken)

/-- Where one purchase only carries a token, the lookup finds that purchase in every
    iteration order. -/
theorem Locked.getPurchaseByClaim_eq {l : Locked} {token hash : String} {p : PurchaseRecord}
    (hp : l.store.state.purchases.lookup hash = some p) (htoken : p.claimToken = some token)
    (hunique : ∀ hash' p', l.store.state.purchases.lookup hash' = some p' →
      p'.claimToken = some token → hash' = hash) :
    l.getPurchaseByClaim token = some p := by
  rcases hfound : l.getPurchaseByClaim token with _ | q
  · exact absurd htoken (Locked.getPurchaseByClaim_none hfound hp)
  · obtain ⟨hq, hash', hlookup⟩ := Locked.getPurchaseByClaim_some hfound
    obtain rfl := hunique hash' q hlookup hq
    exact congrArg some (Option.some.inj (hlookup.symm.trans hp))

theorem LedgerInv.getPurchaseByClaim_congr {l l' : Locked} (hinv : LedgerInv l.store.state)
    (hsame : l'.store = l.store) (token : String) :
    l.getPurchaseByClaim token = l'.getPurchaseByClaim token := by
  rcases hfound : l.getPurchaseByClaim token with _ | p
  · rcases hfound' : l'.getPurchaseByClaim token with _ | p'
    · rfl
    · obtain ⟨htoken, hash, hp⟩ := Locked.getPurchaseByClaim_some hfound'
      rw [hsame] at hp
      exact absurd htoken (Locked.getPurchaseByClaim_none hfound hp)
  · obtain ⟨htoken, hash, hp⟩ := Locked.getPurchaseByClaim_some hfound
    have hunique : ∀ hash' p', l'.store.state.purchases.lookup hash' = some p' →
        p'.claimToken = some token → hash' = hash := by
      intro hash' p' hp' htoken'
      rw [hsame] at hp'
      exact hinv.tokens hash' hash p' p token hp' hp htoken' htoken
    rw [← hsame] at hp
    exact (Locked.getPurchaseByClaim_eq hp htoken hunique).symm

/-! ### Where a purchase comes from -/

/-- The node lists this hash as settled, under a Lightning payment of its own. -/
def Settled (lib : Crates) (payments : List PaymentDetails) (paymentHash : String) : Prop :=
  ∃ payment ∈ payments, ∃ hash, (payment.kind = .bolt11 hash ∨ payment.kind = .bolt11Jit hash) ∧
    payment.status = .succeeded ∧ lib.hexEncode hash = paymentHash

theorem settledOnNode_iff {lib : Crates} {payments : List PaymentDetails} {paymentHash : String} :
    Gate.settledOnNode lib payments paymentHash = true ↔ Settled lib payments paymentHash := by
  simp only [Gate.settledOnNode, List.any_eq_true, Settled, Bool.and_eq_true, beq_iff_eq]
  constructor
  · rintro ⟨payment, hmem, hhash, hstatus⟩
    refine ⟨payment, hmem, ?_⟩
    rcases hkind : payment.kind with _ | hash | hash | hash | hash | hash
    all_goals simp only [hkind, Option.map_some, Option.map_none, reduceCtorEq,
      Option.some.injEq] at hhash
    · exact ⟨hash, Or.inl rfl, hstatus, hhash⟩
    · exact ⟨hash, Or.inr rfl, hstatus, hhash⟩
  · rintro ⟨payment, hmem, hash, hkind | hkind, hstatus, hhash⟩
    all_goals exact ⟨payment, hmem, by simp [hkind, hhash], hstatus⟩

/-- The node has reported this hash as settled, by an event or in its payment list. -/
def Reported (d : Daemon) (τ : List DaemonLabel) (paymentHash : String) : Prop :=
  (∃ id bytes, .start id (.paymentReceived bytes) ∈ τ ∧ d.lib.hexEncode bytes = paymentHash) ∨
    ∃ id job payments, .call id job ⟨.listPayments, payments⟩ ∈ τ ∧
      Settled d.lib payments paymentHash

/-- `p` was recorded under this hash by a request for an invoice for its product. -/
def Created (τ : List DaemonLabel) (paymentHash : String) (p : PurchaseRecord) : Prop :=
  ∃ id body amountMsat createdAt claimToken ans,
    .call id (.postInvoice p.slug body)
      ⟨.createPurchase paymentHash p.slug amountMsat createdAt claimToken, ans⟩ ∈ τ ∧
    (newPurchase paymentHash p.slug amountMsat createdAt claimToken).Later p

/-- A purchase was there at the start or was created since, and its flag was set at
    the start or stands for a report of the node. -/
structure Origin (d : Daemon) (st₀ : Persisted) (τ : List DaemonLabel) (paymentHash : String)
    (p : PurchaseRecord) : Prop where
  source : (∃ p₀, st₀.purchases.lookup paymentHash = some p₀ ∧ p₀.Later p) ∨
    Created τ paymentHash p
  payment : p.paid = true →
    (∃ p₀, st₀.purchases.lookup paymentHash = some p₀ ∧ p₀.paid = true) ∨
      Reported d τ paymentHash

section Origin

variable {d : Daemon} {st₀ : Persisted} {τ : List DaemonLabel} {hash : String}
variable {p q : PurchaseRecord}

theorem Reported.extend (h : Reported d τ hash) (l : DaemonLabel) :
    Reported d (τ ++ [l]) hash := by
  rcases h with ⟨id, bytes, hmem, heq⟩ | ⟨id, job, payments, hmem, hsettled⟩
  · exact Or.inl ⟨id, bytes, List.mem_append_left _ hmem, heq⟩
  · exact Or.inr ⟨id, job, payments, List.mem_append_left _ hmem, hsettled⟩

theorem Created.extend (h : Created τ hash p) (l : DaemonLabel) : Created (τ ++ [l]) hash p := by
  obtain ⟨id, body, amountMsat, createdAt, token, ans, hmem, hlater⟩ := h
  exact ⟨id, body, amountMsat, createdAt, token, ans, List.mem_append_left _ hmem, hlater⟩

theorem Created.later (h : Created τ hash p) (hlater : p.Later q) : Created τ hash q := by
  obtain ⟨id, body, amountMsat, createdAt, token, ans, hmem, hfirst⟩ := h
  rw [← hlater.slug] at hmem hfirst
  exact ⟨id, body, amountMsat, createdAt, token, ans, hmem, hfirst.trans hlater⟩

theorem Origin.extend (h : Origin d st₀ τ hash p) (l : DaemonLabel) :
    Origin d st₀ (τ ++ [l]) hash p :=
  ⟨h.source.imp_right fun hcreated => hcreated.extend l,
    fun hpaid => (h.payment hpaid).imp_right fun hreported => hreported.extend l⟩

/-- Setting the flag after a report of the node keeps the origin. -/
theorem Origin.setPaid (h : Origin d st₀ τ hash p) (hreported : Reported d τ hash) :
    Origin d st₀ τ hash { p with paid := true } := by
  refine ⟨?_, fun _ => Or.inr hreported⟩
  rcases h.source with ⟨p₀, hp₀, hlater⟩ | hcreated
  · exact Or.inl ⟨p₀, hp₀, hlater.trans p.later_paid⟩
  · exact Or.inr (hcreated.later p.later_paid)

end Origin

/-- Every purchase in the ledger has an origin. -/
def Accounted (d : Daemon) (st₀ : Persisted) (τ : List DaemonLabel) (state : Persisted) : Prop :=
  ∀ hash p, state.purchases.lookup hash = some p → Origin d st₀ τ hash p

section Runs

variable {d : Daemon} {s₀ : Shared} {τ : List DaemonLabel} {w : DaemonWorld}

/-- The three writers of the ledger keep its purchases accounted for, through failures
    and restarts. -/
theorem DaemonRun.accounted (hopened : Opened d s₀) (hrun : DaemonRun d s₀ τ w)
    (hjson : .restart ∈ τ → d.lib.Lossless) :
    Kept d (Accounted d s₀.store.state) τ w.shared := by
  have hbase : DaemonRun d s₀ [] (World.initial s₀) := .refl
  refine Kept.run hopened hbase (Kept.opened hopened ?_) ?_ ?_ hrun hjson
  · intro hash p hp
    exact ⟨Or.inl ⟨p, hp, .refl p⟩, fun hpaid => Or.inl ⟨p, hp, hpaid⟩⟩
  · intro τ state l hacc hash p hp
    exact (hacc hash p hp).extend l
  · intro τ w id job h op k m state ans hr hacc hthread hjust hop hchange hash q hq
    have htraced : Thread.Traced (system d) τ id ⟨job, h, .call op k⟩ := hr.traced _ _ hthread
    rcases Mutation.lookup_of_change hchange hq with
      hsame | ⟨slug, amountMsat, createdAt, token, rfl, rfl⟩ | ⟨rfl, p, hp, rfl⟩
    · exact (hacc hash q hsame).extend _
    · cases op with
      | createPurchase hash' slug' amountMsat' createdAt' token' =>
        cases hop
        obtain ⟨⟨body, rfl⟩, -⟩ := hjust
        refine ⟨Or.inr ⟨id, body, amountMsat, createdAt, token, ans, ?_, .refl _⟩, ?_⟩
        · exact List.mem_concat_self
        · intro hpaid
          cases hpaid
      | _ => cases hop
    · cases op with
      | markPaid hash' =>
        cases hop
        refine ((hacc hash p hp).setPaid ?_).extend _
        rcases hjust with ⟨bytes, rfl, rfl⟩ | ⟨payments, hmem, hsettled⟩
        · exact Or.inl ⟨id, bytes, htraced.started, rfl⟩
        · exact Or.inr ⟨id, job, payments, htraced.called _ hmem, settledOnNode_iff.mp hsettled⟩
      | _ => cases hop

end Runs

/-! ### Fresh hashes and tokens -/

/-- The payment hash that a sale gets from the node. -/
def obtainedHash (lib : Crates) : DaemonLabel → Option String
  | .call _ (.postInvoice ..) ⟨.receive .., .ok invoice⟩ =>
    some (lib.hexEncode invoice.paymentHash)
  | .call _ (.postInvoice ..) ⟨.receiveViaJitChannel .., .ok invoice⟩ =>
    some (lib.hexEncode invoice.paymentHash)
  | _ => none

/-- The claim token that a sale draws. -/
def obtainedToken (lib : Crates) : DaemonLabel → Option String
  | .call _ (.postInvoice ..) ⟨.fillRandom _, .ok bytes⟩ => some (lib.hexEncode bytes)
  | _ => none

/-- No sale gets a payment hash or a claim token that another one got or that the
    ledger already had at the start. -/
structure Fresh (lib : Crates) (st₀ : Persisted) (τ : List DaemonLabel) : Prop where
  hashes : (τ.filterMap (obtainedHash lib)).Nodup
  tokens : (τ.filterMap (obtainedToken lib)).Nodup
  newHash : ∀ l ∈ τ, ∀ hash, obtainedHash lib l = some hash → hash ∉ st₀.purchases
  newToken : ∀ l ∈ τ, ∀ token, obtainedToken lib l = some token →
    ∀ hash p, st₀.purchases.lookup hash = some p → p.claimToken ≠ some token

section Fresh

variable {d : Daemon} {lib : Crates} {st₀ : Persisted} {s₀ : Shared} {τ τ' : List DaemonLabel}
variable {w : DaemonWorld}

theorem Fresh.of_append (h : Fresh lib st₀ (τ ++ τ')) : Fresh lib st₀ τ := by
  have hhashes := h.hashes
  have htokens := h.tokens
  rw [List.filterMap_append] at hhashes htokens
  exact ⟨hhashes.of_append_left, htokens.of_append_left,
    fun l hl => h.newHash l (List.mem_append_left _ hl),
    fun l hl => h.newToken l (List.mem_append_left _ hl)⟩

/-- Labels that obtain nothing keep it. -/
theorem Fresh.append (h : Fresh lib st₀ τ)
    (hnone : ∀ l ∈ τ', obtainedHash lib l = none ∧ obtainedToken lib l = none) :
    Fresh lib st₀ (τ ++ τ') := by
  have hhashes : τ'.filterMap (obtainedHash lib) = [] :=
    List.filterMap_eq_nil_iff.mpr fun l hl => (hnone l hl).1
  have htokens : τ'.filterMap (obtainedToken lib) = [] :=
    List.filterMap_eq_nil_iff.mpr fun l hl => (hnone l hl).2
  refine ⟨?_, ?_, ?_, ?_⟩
  · rw [List.filterMap_append, hhashes, List.append_nil]
    exact h.hashes
  · rw [List.filterMap_append, htokens, List.append_nil]
    exact h.tokens
  · intro l hl hash hobtained
    rcases List.mem_append.mp hl with hl | hl
    · exact h.newHash l hl hash hobtained
    · cases (hnone l hl).1.symm.trans hobtained
  · intro l hl token hobtained
    rcases List.mem_append.mp hl with hl | hl
    · exact h.newToken l hl token hobtained
    · cases (hnone l hl).2.symm.trans hobtained

/-- Serving a request for anything but a sale keeps it. -/
theorem Fresh.append_served (h : Fresh lib st₀ τ) {id : Nat} {job : Job} {calls : List DaemonCall}
    {resp : Response} (hjob : ∀ slug body, job ≠ .postInvoice slug body) :
    Fresh lib st₀ (τ ++ served id job calls resp) := by
  apply h.append
  intro l hl
  simp only [served, List.cons_append, List.mem_cons, List.mem_append, List.mem_map,
    List.not_mem_nil, or_false] at hl
  rcases hl with rfl | ⟨c, -, rfl⟩ | rfl
  · exact ⟨rfl, rfl⟩
  · cases job with
    | postInvoice slug body => exact absurd rfl (hjob slug body)
    | _ => exact ⟨rfl, rfl⟩
  · exact ⟨rfl, rfl⟩

theorem ObtainedHash.label {h : List DaemonCall} {hash : String} (hh : ObtainedHash lib h hash) :
    ∃ c ∈ h, ∀ id slug body,
      obtainedHash lib (.call id (.postInvoice slug body) c) = some hash := by
  obtain ⟨inv, amountMsat, desc, expiry, rfl, hmem | hmem⟩ := hh
  · exact ⟨_, hmem, fun _ _ _ => rfl⟩
  · exact ⟨_, hmem, fun _ _ _ => rfl⟩

theorem ObtainedToken.label {h : List DaemonCall} {token : String}
    (hh : ObtainedToken lib h token) :
    ∃ c ∈ h, ∀ id slug body,
      obtainedToken lib (.call id (.postInvoice slug body) c) = some token := by
  obtain ⟨bytes, rfl, hmem⟩ := hh
  exact ⟨_, hmem, fun _ _ _ => rfl⟩

/-- A sale that is about to record its purchase shares neither its hash nor its token
    with any purchase recorded before: the two would have been obtained in one call,
    and a sale records only once. -/
theorem DaemonRun.create_differs (hrun : DaemonRun d s₀ τ w) (hfresh : Fresh d.lib st₀ τ)
    {id : Nat} {job : Job} {h : List DaemonCall} {hash slug token : String}
    {amountMsat createdAt : UInt64} {k : Option (Except String Unit) → Handler Response}
    (hthread : w.threads id =
      some ⟨job, h, .call (.createPurchase hash slug amountMsat createdAt token) k⟩)
    {id' : Nat} {body' : Option Gate.InvoiceRequest} {hash' slug' token' : String}
    {amountMsat' createdAt' : UInt64} {ans : Option (Except String Unit)}
    (hcall : .call id' (.postInvoice slug' body')
      ⟨.createPurchase hash' slug' amountMsat' createdAt' token', ans⟩ ∈ τ) :
    hash' ≠ hash ∧ token' ≠ token := by
  have htraced := hrun.traced _ _ hthread
  have hjust : Justified d job h (.createPurchase hash slug amountMsat createdAt token) :=
    (handle_guarded d job).pending htraced.reaches
  obtain ⟨⟨body, rfl⟩, -, hhash, htoken, hnone⟩ := hjust
  obtain ⟨h', ⟨-, -, hhash', htoken', -⟩, hcalled'⟩ := hrun.justified hcall
  -- the recorded purchase is not one of this thread's own
  have hother : id' ≠ id := by
    rintro rfl
    have hmem := hrun.history_complete _ _ hthread _ _ hcall
    exact absurd (hnone _ hmem) (by simp [Op.isCreatePurchase])
  constructor
  · rintro rfl
    obtain ⟨c, hc, hobtained⟩ := hhash.label
    obtain ⟨c', hc', hobtained'⟩ := hhash'.label
    have hlabel := eq_of_nodup_filterMap hfresh.hashes (hcalled' c' hc') (htraced.called c hc)
      (hobtained' id' slug' body') (hobtained id slug body)
    exact hother (Label.call.inj hlabel).1
  · rintro rfl
    obtain ⟨c, hc, hobtained⟩ := htoken.label
    obtain ⟨c', hc', hobtained'⟩ := htoken'.label
    have hlabel := eq_of_nodup_filterMap hfresh.tokens (hcalled' c' hc') (htraced.called c hc)
      (hobtained' id' slug' body') (hobtained id slug body)
    exact hother (Label.call.inj hlabel).1

/-- The payment hash under which a step records a purchase. -/
def recordedHash : DaemonLabel → Option String
  | .call _ _ ⟨.createPurchase hash .., _⟩ => some hash
  | _ => none

/-- The payment hashes under which purchases have been recorded, once for each call. -/
def recordedHashes (τ : List DaemonLabel) : List String := τ.filterMap recordedHash

theorem mem_recordedHashes {hash : String} : hash ∈ recordedHashes τ ↔
    ∃ id job slug amountMsat createdAt token ans,
      .call id job ⟨.createPurchase hash slug amountMsat createdAt token, ans⟩ ∈ τ := by
  unfold recordedHashes
  rw [List.mem_filterMap]
  constructor
  · rintro ⟨l, hl, hhash⟩
    unfold recordedHash at hhash
    split at hhash
    · cases hhash
      exact ⟨_, _, _, _, _, _, _, hl⟩
    · cases hhash
  · rintro ⟨id, job, slug, amountMsat, createdAt, token, ans, hl⟩
    exact ⟨_, hl, rfl⟩

/-- No two calls record a purchase under the same hash. -/
theorem DaemonRun.recordedHashes_nodup (hrun : DaemonRun d s₀ τ w) (hfresh : Fresh d.lib st₀ τ) :
    (recordedHashes τ).Nodup := by
  revert hfresh
  refine Run.induct (I := fun τ _ => Fresh d.lib st₀ τ → (recordedHashes τ).Nodup)
    (fun _ => List.nodup_nil) (fun {τ w l w'} (hr : DaemonRun d s₀ τ w) ih hs hfresh => ?_) hrun
  have hbefore := ih hfresh.of_append
  have happend : recordedHashes (τ ++ [l]) = recordedHashes τ ++ recordedHashes [l] :=
    List.filterMap_append
  rw [happend]
  rcases hlast : recordedHash l with _ | hash
  · have hnil : recordedHashes [l] = [] := by simp [recordedHashes, hlast]
    rw [hnil, List.append_nil]
    exact hbefore
  · have hone : recordedHashes [l] = [hash] := by simp [recordedHashes, hlast]
    rw [hone]
    refine List.nodup_append.mpr ⟨hbefore, List.nodup_singleton hash, ?_⟩
    rintro hash' hmem hash'' hhash rfl
    obtain rfl := List.mem_singleton.mp hhash
    -- an earlier call under this hash would have obtained it once more
    obtain ⟨id', job', slug', amountMsat', createdAt', token', ans', hearlier⟩ :=
      mem_recordedHashes.mp hmem
    obtain ⟨h', ⟨⟨body', rfl⟩, -⟩, -⟩ := hr.justified hearlier
    unfold recordedHash at hlast
    split at hlast
    · cases hlast
      obtain ⟨hist, k, hthread⟩ := hs.caller
      exact (hr.create_differs hfresh.of_append hthread hearlier).1 rfl
    · cases hlast

/-- What a sale is about to record under is not in the ledger yet. -/
theorem DaemonRun.unused (hopened : Opened d s₀) (hrun : DaemonRun d s₀ τ w)
    (hjson : .restart ∈ τ → d.lib.Lossless) (hfresh : Fresh d.lib s₀.store.state τ)
    {id : Nat} {job : Job} {h : List DaemonCall} {hash slug token : String}
    {amountMsat createdAt : UInt64} {k : Option (Except String Unit) → Handler Response}
    (hthread : w.threads id =
      some ⟨job, h, .call (.createPurchase hash slug amountMsat createdAt token) k⟩) :
    hash ∉ w.shared.store.state.purchases ∧
      ∀ hash' p, w.shared.store.state.purchases.lookup hash' = some p →
        p.claimToken ≠ some token := by
  have hacc := (hrun.accounted hopened hjson).memory
  have htraced := hrun.traced _ _ hthread
  have hjust : Justified d job h (.createPurchase hash slug amountMsat createdAt token) :=
    (handle_guarded d job).pending htraced.reaches
  obtain ⟨⟨body, rfl⟩, -, hhash, htoken, -⟩ := hjust
  constructor
  · intro hmem
    obtain ⟨p, hp⟩ := Finmap.mem_iff.mp hmem
    rcases (hacc hash p hp).source with ⟨p₀, hp₀, -⟩ | ⟨id', body', _, _, _, ans, hcall, -⟩
    · obtain ⟨c, hc, hobtained⟩ := hhash.label
      exact hfresh.newHash _ (htraced.called c hc) hash (hobtained id slug body)
        (Finmap.mem_of_lookup_eq_some hp₀)
    · exact (hrun.create_differs hfresh hthread hcall).1 rfl
  · intro hash' p hp hsame
    rcases (hacc hash' p hp).source with
      ⟨p₀, hp₀, hlater⟩ | ⟨id', body', _, _, token', ans, hcall, hlater⟩
    · obtain ⟨c, hc, hobtained⟩ := htoken.label
      rw [hlater.claimToken] at hsame
      exact hfresh.newToken _ (htraced.called c hc) token (hobtained id slug body) hash' p₀ hp₀
        hsame
    · rw [hlater.claimToken] at hsame
      exact (hrun.create_differs hfresh hthread hcall).2 (Option.some.inj hsame)

end Fresh

/-! ### Nothing is lost within one lifetime -/

/-- The ledger has only grown since any running thread looked at it. -/
def Seen (w : DaemonWorld) : Prop :=
  ∀ id t, w.threads id = some t → ∀ l, ⟨.lock, some l⟩ ∈ t.history →
    l.store.state.Grows w.shared.store.state

theorem act_grows {d : Daemon} {s s' : Shared} {op : Op} {ans : Answer op}
    (h : act d s op ans s')
    (hadm : ∀ m, op.mutation = some m → m.Admissible s.store.state) :
    s.store.state.Grows s'.store.state := by
  rcases act_cases h with rfl | ⟨m, io, hop, rfl⟩ | ⟨path, contents, written, -, rfl⟩
  · exact .refl _
  · rcases m.run_cases d.lib.toSerdeJson io s.store s.files with ⟨-, hrun⟩ | ⟨state, hsome, hrun⟩
    · simp only [Shared.mutate, hrun]
      exact .refl _
    · simp only [Shared.mutate, hrun]
      exact Mutation.grows_of_change hsome (hadm m hop)
  · exact .refl _

section Lifetime

variable {d : Daemon} {s₀ : Shared} {τ : List DaemonLabel} {w w' : DaemonWorld}

theorem Seen.admissible (hseen : Seen w) (hopened : Opened d s₀) (hrun : DaemonRun d s₀ τ w)
    (hjson : .restart ∈ τ → d.lib.Lossless) (hfresh : Fresh d.lib s₀.store.state τ) {id : Nat}
    {job : Job} {h : List DaemonCall} {op : Op} {k : Answer op → Handler Response}
    (hthread : w.threads id = some ⟨job, h, .call op k⟩) {m : Mutation}
    (hop : op.mutation = some m) : m.Admissible w.shared.store.state := by
  cases op with
  | createPurchase hash slug amountMsat createdAt token =>
    cases hop
    have htraced := hrun.traced _ _ hthread
    have hjust : Justified d job h (.createPurchase hash slug amountMsat createdAt token) :=
      (handle_guarded d job).pending htraced.reaches
    obtain ⟨-, ⟨l, p, hl, hp⟩, -⟩ := hjust
    obtain ⟨hhash, htoken⟩ := hrun.unused hopened hjson hfresh hthread
    have hproduct : slug ∈ l.store.state.products := Finmap.mem_of_lookup_eq_some hp
    exact ⟨hhash, (hseen _ _ hthread l hl).products slug hproduct, htoken⟩
  | upsertProduct record =>
    cases hop
    trivial
  | markPaid hash =>
    cases hop
    trivial
  | _ => cases hop

/-- A step other than a restart only lets the ledger grow. -/
theorem Seen.grows (hseen : Seen w) (hopened : Opened d s₀) (hrun : DaemonRun d s₀ τ w)
    (hjson : .restart ∈ τ → d.lib.Lossless) (hfresh : Fresh d.lib s₀.store.state τ)
    {l : DaemonLabel} (hs : Step (system d) w l w') (hl : l ≠ .restart) :
    w.shared.store.state.Grows w'.shared.store.state := by
  cases hs with
  | start job => exact .refl _
  | call thread act =>
    have hgrows := act_grows act fun m hop =>
      hseen.admissible hopened hrun hjson hfresh thread hop
    exact hgrows
  | answer thread => exact .refl _
  | env act =>
    simp only [(env_files act).1]
    exact .refl _
  | restart act => exact absurd rfl hl

theorem DaemonRun.seen (hopened : Opened d s₀) (hrun : DaemonRun d s₀ τ w)
    (hjson : .restart ∈ τ → d.lib.Lossless) (hfresh : Fresh d.lib s₀.store.state τ) : Seen w := by
  revert hjson hfresh
  refine Run.induct (I := fun τ w => (.restart ∈ τ → d.lib.Lossless) →
    Fresh d.lib s₀.store.state τ → Seen w) ?_ (fun {τ w l w'} hr ih hs hjson hfresh => ?_) hrun
  · intro _ _ id t ht
    simp [World.initial] at ht
  have hjson' : .restart ∈ τ → d.lib.Lossless := fun hmem => hjson (List.mem_append_left _ hmem)
  have hseen := ih hjson' hfresh.of_append
  have hgrows : l ≠ .restart → w.shared.store.state.Grows w'.shared.store.state :=
    hseen.grows hopened hr hjson' hfresh.of_append hs
  intro id t ht snapshot hsnapshot
  cases hs with
  | start job =>
    rcases World.set_threads_cases ht with ⟨-, hu⟩ | ⟨-, hold⟩
    · obtain rfl := Option.some.inj hu
      cases hsnapshot
    · exact hseen id t hold snapshot hsnapshot
  | @call id' job h op k ans s' thread act =>
    have hgrows := hgrows (by intro hl; cases hl)
    rcases World.set_threads_cases ht with ⟨-, hu⟩ | ⟨-, hold⟩
    · obtain rfl := Option.some.inj hu
      rcases List.mem_append.mp hsnapshot with hearlier | hnow
      · exact (hseen _ _ thread snapshot hearlier).trans hgrows
      · simp only [List.mem_singleton] at hnow
        cases hnow
        have hsame := act_lock (d := d) act
        rw [hsame]
        exact hgrows
    · exact (hseen id t hold snapshot hsnapshot).trans hgrows
  | answer thread =>
    rcases World.set_threads_cases ht with ⟨-, hu⟩ | ⟨-, hold⟩
    · cases hu
    · exact hseen id t hold snapshot hsnapshot
  | env act =>
    have hgrows := hgrows (by intro hl; cases hl)
    exact (hseen id t ht snapshot hsnapshot).trans hgrows
  | restart act => cases ht

/-- The ledger stays consistent, also across restarts. -/
theorem DaemonRun.ledgerInv (hopened : Opened d s₀) (hinv : LedgerInv s₀.store.state)
    (hrun : DaemonRun d s₀ τ w) (hjson : .restart ∈ τ → d.lib.Lossless)
    (hfresh : Fresh d.lib s₀.store.state τ) : LedgerInv w.shared.store.state := by
  have hbase : DaemonRun d s₀ [] (World.initial s₀) := .refl
  have hkept : Kept d (fun τ state => (.restart ∈ τ → d.lib.Lossless) →
      Fresh d.lib s₀.store.state τ → LedgerInv state) τ w.shared := by
    refine Kept.run hopened hbase (Kept.opened hopened fun _ _ => hinv) ?_ ?_ hrun hjson
    · intro τ state l hkept hjson hfresh
      exact hkept (fun hmem => hjson (List.mem_append_left _ hmem)) hfresh.of_append
    · intro τ w id job h op k m state ans hr hkept hthread _ hop hchange hjson hfresh
      have hjson' : .restart ∈ τ → d.lib.Lossless :=
        fun hmem => hjson (List.mem_append_left _ hmem)
      have hseen : Seen w := DaemonRun.seen hopened hr hjson' hfresh.of_append
      have hadm := hseen.admissible hopened hr hjson' hfresh.of_append hthread hop
      exact (hkept hjson' hfresh.of_append).change hchange hadm
  exact hkept.memory hjson hfresh

end Lifetime

/-! ### A sale from start to end -/

theorem LedgerInv.empty : LedgerInv default := by
  refine ⟨?_, ?_, ?_, ?_⟩
  · intro slug p hp
    cases (Finmap.lookup_empty slug).symm.trans hp
  · intro hash p hp
    cases (Finmap.lookup_empty hash).symm.trans hp
  · intro hash p hp
    cases (Finmap.lookup_empty hash).symm.trans hp
  · intro hash hash' p p' token hp
    cases (Finmap.lookup_empty hash).symm.trans hp

/-- On a ledger without purchases every hash and every token is new. -/
theorem Fresh.of_empty {lib : Crates} {st₀ : Persisted} {τ : List DaemonLabel}
    (hempty : st₀.purchases = ∅) (hashes : (τ.filterMap (obtainedHash lib)).Nodup)
    (tokens : (τ.filterMap (obtainedToken lib)).Nodup) : Fresh lib st₀ τ := by
  refine ⟨hashes, tokens, ?_, ?_⟩
  · intro l _ hash _
    rw [hempty]
    exact Finmap.notMem_empty
  · intro l _ token _ hash p hp
    rw [hempty] at hp
    cases (Finmap.lookup_empty hash).symm.trans hp

namespace Sample

/-- The track is registered, its artifact is in place and nothing has been sold. -/
def onSale : Shared where
  store := store
  files := files.write "/data/products/midnight.flac" body
  poisoned := false
  payments := []

/-- The artifact beside the index makes no difference to opening. -/
theorem opened_listing {d : Daemon} (hdata : d.dataDir = dataDir)
    (h : Store.open d.lib.toSerdeJson none files dataDir = .ok store) : Opened d onSale := by
  refine ⟨?_, rfl⟩
  have hne : joinPath (joinPath dataDir "products") "index.json" ≠
      "/data/products/midnight.flac" := by decide
  have hindex : files.write "/data/products/midnight.flac" body
        (joinPath (joinPath dataDir "products") "index.json") =
      files (joinPath (joinPath dataDir "products") "index.json") := Files.write_other hne
  rw [hdata]
  exact (Store.open_congr hindex).trans h

theorem opened_onSale (header : SignedHeader) : Opened (daemon header) onSale :=
  opened_listing rfl open_files

/-- The store after the sale, as a section under the lock finds it. -/
def soldLocked : Locked := ⟨⟨dir, sold⟩, [sale], rfl⟩

def saleRequest : Job := .postInvoice "midnight" (some ⟨none⟩)

def issued : PurchaseInvoice := ⟨"lnbcrt1example", hash, 5000, Gate.INVOICE_EXPIRY_SECS, token⟩

def saleAnswer : Response := .purchaseInvoice issued

/-- The calls of the sale at the track's price. -/
def saleDone : List DaemonCall := saleCalls midnight (5000 * 1000)

/-- The state after the sale. -/
def afterSale : Shared where
  store := ⟨dir, sold⟩
  files := (createSale.run json ⟨0, none⟩ store onSale.files).2.2
  poisoned := false
  payments := []

theorem encode_paymentHash : Hex.encode paymentHash = hash := by decide

theorem encode_tokenBytes : Hex.encode tokenBytes = token := by decide

theorem sale_served :
    Reaches (handle (daemon upload) saleRequest) saleDone (.done saleAnswer) ∧
      Performs (system (daemon upload)) onSale saleDone afterSale := by
  have hreaches := sale_reaches (p := midnight) rfl rfl
    (show Gate.resolveAmount 5000 none none = .ok 5000 from rfl) (by decide) (by decide)
  rw [encode_paymentHash, encode_tokenBytes] at hreaches
  refine ⟨hreaches, ?_⟩
  have hlock : act (daemon upload) onSale .lock (some (locked midnight)) onSale :=
    act_lock_healthy rfl rfl
  have hcreate : act (daemon upload) onSale
      (.createPurchase (Hex.encode paymentHash) "midnight" (5000 * 1000) 1700000000
        (Hex.encode tokenBytes)) (some (.ok ())) afterSale := by
    rw [encode_paymentHash, encode_tokenBytes]
    exact Or.inr ⟨rfl, ⟨0, none⟩, rfl, rfl⟩
  exact ⟨onSale, hlock, onSale, rfl, onSale, rfl, onSale, rfl, onSale, rfl, afterSale, hcreate, rfl⟩

/-- The trace of the sale. -/
def saleTrace : List DaemonLabel := served 0 saleRequest saleDone saleAnswer

theorem sale_run : ∃ w, DaemonRun (daemon upload) onSale saleTrace w ∧ w.shared = afterSale ∧
    w.next = 1 := by
  have hinitial : DaemonRun (daemon upload) onSale [] (World.initial onSale) := .refl
  exact hinitial.serve sale_served.1 sale_served.2

theorem fresh_sale : Fresh (daemon upload).lib onSale.store.state saleTrace :=
  .of_empty rfl (List.nodup_singleton (Hex.encode paymentHash))
    (List.nodup_singleton (Hex.encode tokenBytes))

end Sample

/-! ### The ledger invariant -/

/-- From any loaded index in which it holds, the ledger invariant holds in every state
    of every run, and then a claim token finds the same purchase in any iteration order;
    every step but a restart only lets the ledger grow. Within one lifetime nothing is
    assumed of the serialization. -/
theorem ledger_invariant {d : Daemon} {s₀ : Shared} {τ : List DaemonLabel} {w : DaemonWorld}
    (hopened : Opened d s₀) (hinv : LedgerInv s₀.store.state) (hrun : DaemonRun d s₀ τ w)
    (hjson : .restart ∈ τ → d.lib.Lossless) (hfresh : Fresh d.lib s₀.store.state τ) :
    LedgerInv w.shared.store.state ∧
      (∀ (l l' : Locked) (token : String), l.store = w.shared.store →
        l'.store = w.shared.store → l.getPurchaseByClaim token = l'.getPurchaseByClaim token) ∧
      ∀ l w', Step (system d) w l w' → l ≠ .restart →
        w.shared.store.state.Grows w'.shared.store.state := by
  have hinv' := hrun.ledgerInv hopened hinv hjson hfresh
  refine ⟨hinv', ?_, ?_⟩
  · intro l l' token hl hl'
    have hlocked : LedgerInv l.store.state := by
      rw [hl]
      exact hinv'
    exact hlocked.getPurchaseByClaim_congr (hl'.trans hl.symm) token
  · intro l w' hs hl
    have hseen := hrun.seen hopened hjson hfresh
    exact hseen.grows hopened hrun hjson hfresh hs hl

namespace Sample

/-- The payment hash and the token of a second buyer. -/
def laterHashBytes : ByteArray := ⟨(List.replicate 32 3).toArray⟩

def laterTokenBytes : ByteArray := ⟨(List.replicate 32 4).toArray⟩

def laterHash : String := "0303030303030303030303030303030303030303030303030303030303030303"

def laterToken : String := "0404040404040404040404040404040404040404040404040404040404040404"

theorem encode_laterHashBytes : Hex.encode laterHashBytes = laterHash := by decide

theorem encode_laterTokenBytes : Hex.encode laterTokenBytes = laterToken := by decide

def laterSale : PurchaseRecord := newPurchase laterHash "midnight" 5000000 1700000060 laterToken

def soldTwice : Persisted := sold.createPurchase laterSale

/-- The index with both purchases, from the flag of the first one on. -/
def laterTail : String :=
  ",\n      \"created_at\": 1700000000,\n      \"claim_token\": \"" ++ token ++
  "\"\n    \x7d,\n    \"" ++ laterHash ++ "\": \x7b\n      \"payment_hash\": \"" ++ laterHash ++
  "\",\n      \"slug\": \"midnight\",\n      \"amount_msat\": 5000000,\n" ++
  "      \"paid\": false,\n      \"created_at\": 1700000060,\n      \"claim_token\": \"" ++
  laterToken ++ "\"\n    \x7d\n  \x7d"

def laterText : String := "\x7b\n" ++ (saleHead ++ ("false" ++ laterTail))

/-- The daemon with an index of up to two sales. -/
def resale : Daemon :=
  { daemon upload with lib := { crates upload with
      toSerdeJson := .ofTable [(listed, indexText "\x7b\x7d"),
        (sold, indexText (saleText "false")), (soldTwice, indexText laterText)] } }

theorem resale_lossless : resale.lib.Lossless := by
  have hsale : saleText "false" ≠ laterText := by
    unfold saleText laterText
    rw [Ne, String.append_right_inj, String.append_right_inj, String.append_right_inj]
    decide
  have hempty : "\x7b\x7d" ≠ laterText := by
    intro h
    have hchars := congrArg String.toList h
    simp [laterText] at hchars
  apply SerdeJson.lossless_ofTable
  simp only [List.map_cons, List.map_nil, List.nodup_cons, List.mem_cons, indexText_inj,
    saleText_ne_empty, hsale, hempty]
  decide

theorem opened_resale : Opened resale onSale :=
  opened_listing rfl (Store.open_of_index files_index (resale_lossless 0 listed _ rfl))

def laterInvoice : Bolt11Invoice := ⟨"lnbcrt2example", laterHashBytes⟩

/-- What a sale finds and does, on the snapshot that it takes. -/
def resaleCalls (l : Locked) (invoice : Bolt11Invoice) (bytes : ByteArray) (now : UInt64) :
    List DaemonCall :=
  saleHistory resale.lib "midnight" (5000 * 1000) description l [wideChannel] invoice bytes now

theorem resale_reaches {l : Locked} (hp : l.store.getProduct "midnight" = some midnight)
    (invoice : Bolt11Invoice) (bytes : ByteArray) (now : UInt64) :
    Reaches ((system resale).program saleRequest) (resaleCalls l invoice bytes now)
      (.done (.purchaseInvoice ⟨invoice.bolt11, Hex.encode invoice.paymentHash, 5000,
        Gate.INVOICE_EXPIRY_SECS, Hex.encode bytes⟩)) := by
  have hamount : Gate.resolveAmount midnight.priceSats midnight.floorSats
      ((some (⟨none⟩ : Gate.InvoiceRequest)).bind (·.amountSats)) = .ok 5000 := rfl
  have hdesc : resale.lib.descriptionNew (Gate.saleDescription resale.gateState midnight.title) =
      some description := by decide
  exact postInvoice_reaches hp hamount (by decide) hdesc (by decide)

/-- The state after the first sale. -/
def resaleOnce : Shared where
  store := ⟨dir, sold⟩
  files := (createSale.run resale.lib.toSerdeJson ⟨0, none⟩ store onSale.files).2.2
  poisoned := false
  payments := []

def createLater : Mutation := .createPurchase laterHash "midnight" 5000000 1700000060 laterToken

/-- The state after the second sale. -/
def resaleTwice : Shared where
  store := ⟨dir, soldTwice⟩
  files := (createLater.run resale.lib.toSerdeJson ⟨0, none⟩ ⟨dir, sold⟩ resaleOnce.files).2.2
  poisoned := false
  payments := []

theorem resaleOnce_performs : Performs (system resale) onSale
    (resaleCalls (locked midnight) invoice tokenBytes 1700000000) resaleOnce := by
  have hlock : act resale onSale .lock (some (locked midnight)) onSale := act_lock_healthy rfl rfl
  have hcreate : act resale onSale (.createPurchase (Hex.encode paymentHash) "midnight"
      (5000 * 1000) 1700000000 (Hex.encode tokenBytes)) (some (.ok ())) resaleOnce := by
    rw [encode_paymentHash, encode_tokenBytes]
    exact Or.inr ⟨rfl, ⟨0, none⟩, rfl, rfl⟩
  exact ⟨onSale, hlock, onSale, rfl, onSale, rfl, onSale, rfl, onSale, rfl, _, hcreate, rfl⟩

theorem resaleTwice_performs : Performs (system resale) resaleOnce
    (resaleCalls soldLocked laterInvoice laterTokenBytes 1700000060) resaleTwice := by
  have hlock : act resale resaleOnce .lock (some soldLocked) resaleOnce := act_lock_healthy rfl rfl
  have hcreate : act resale resaleOnce (.createPurchase (Hex.encode laterHashBytes) "midnight"
      (5000 * 1000) 1700000060 (Hex.encode laterTokenBytes)) (some (.ok ())) resaleTwice := by
    rw [encode_laterHashBytes, encode_laterTokenBytes]
    exact Or.inr ⟨rfl, ⟨0, none⟩, rfl, rfl⟩
  exact ⟨_, hlock, _, rfl, _, rfl, _, rfl, _, rfl, _, hcreate, rfl⟩

/-- The process that comes up after the first sale finds it in the index. -/
theorem reopened_resaleOnce : (system resale).restart resaleOnce resaleOnce := by
  have hchange : createSale.change store.state = some sold := rfl
  have hok : (createSale.run resale.lib.toSerdeJson ⟨0, none⟩ store onSale.files).1 = .ok true :=
    rfl
  have hdir : store.dir = joinPath dataDir "products" := by decide
  exact ⟨⟨dir, sold⟩, (Mutation.open_run_ok resale_lossless hdir hchange hok).2, rfl⟩

/-- A sale, a restart and a second sale. -/
def resaleTrace : List DaemonLabel :=
  served 0 saleRequest (resaleCalls (locked midnight) invoice tokenBytes 1700000000) saleAnswer ++
    [.restart] ++
  served 1 saleRequest (resaleCalls soldLocked laterInvoice laterTokenBytes 1700000060)
    (.purchaseInvoice ⟨"lnbcrt2example", laterHash, 5000, Gate.INVOICE_EXPIRY_SECS, laterToken⟩)

theorem resale_run : ∃ w, DaemonRun resale onSale resaleTrace w ∧ w.shared = resaleTwice := by
  have hinitial : DaemonRun resale onSale [] (World.initial onSale) := .refl
  have hfirst := resale_reaches (l := locked midnight) rfl invoice tokenBytes 1700000000
  obtain ⟨w₁, hrun₁, hshared₁, hnext₁⟩ := hinitial.serve hfirst resaleOnce_performs
  have hreopen : (system resale).restart w₁.shared resaleOnce := by
    rw [hshared₁]
    exact reopened_resaleOnce
  have hsecond := resale_reaches (l := soldLocked) rfl laterInvoice laterTokenBytes 1700000060
  obtain ⟨w₂, hrun₂, hshared₂, -⟩ :=
    (hrun₁.snoc (.restart hreopen)).serve hsecond resaleTwice_performs
  have hnext : w₁.next = 1 := hnext₁
  simp only [hnext, encode_laterHashBytes, encode_laterTokenBytes, encode_paymentHash,
    encode_tokenBytes, laterInvoice, invoice] at hrun₂
  exact ⟨w₂, hrun₂, hshared₂⟩

theorem fresh_resale : Fresh resale.lib onSale.store.state resaleTrace := by
  have hhashes : [Hex.encode paymentHash, Hex.encode laterHashBytes].Nodup := by
    rw [encode_paymentHash, encode_laterHashBytes]
    decide
  have htokens : [Hex.encode tokenBytes, Hex.encode laterTokenBytes].Nodup := by
    rw [encode_tokenBytes, encode_laterTokenBytes]
    decide
  exact .of_empty rfl hhashes htokens

end Sample

/-- After two sales with a restart between them. -/
theorem ledger_invariant_sale : LedgerInv Sample.soldTwice := by
  have hlisted : LedgerInv Sample.listed :=
    LedgerInv.empty.change (m := .upsertProduct Sample.midnight) rfl trivial
  obtain ⟨w, hrun, hshared⟩ := Sample.resale_run
  have hsold := (ledger_invariant Sample.opened_resale hlisted hrun
    (fun _ => Sample.resale_lossless) Sample.fresh_resale).1
  rwa [hshared] at hsold

end ArtistNode
