import ArtistNode.Daemon

/-!
# What the sales handlers answer

Outcome rules: an answer of a handler, read back to the calls its thread made. An
issued invoice was asked for and recorded with one amount; a delivered artifact
was paid for, as the thread saw it.
-/

namespace ArtistNode

open Base

/-- No call is ruled out. -/
abbrev AnyCall : List DaemonCall → Op → Prop := fun _ _ => True

/-- The amount of an invoice that an operation asks the node for. -/
def Op.asked : Op → Option UInt64
  | .receive amountMsat _ _ => some amountMsat
  | .receiveViaJitChannel amountMsat _ _ => some amountMsat
  | _ => none

/-- The amount of a purchase that an operation records. -/
def Op.recorded : Op → Option UInt64
  | .createPurchase _ _ amountMsat _ _ => some amountMsat
  | _ => none

/-! ### Invoices -/

/-- An operation of the part of `post_invoice` that follows the price check. -/
def SaleOp (slug : String) (amountMsat : UInt64) : Op → Prop
  | .createPurchase _ slug' amountMsat' _ _ => slug' = slug ∧ amountMsat' = amountMsat
  | .receive amountMsat' _ _ => amountMsat' = amountMsat
  | .receiveViaJitChannel amountMsat' _ _ => amountMsat' = amountMsat
  | .listChannels => True
  | .fillRandom _ => True
  | .nowSecs => True
  | _ => False

def SaleCalls (slug : String) (amountMsat : UInt64) (calls : List DaemonCall) : Prop :=
  ∀ c ∈ calls, SaleOp slug amountMsat c.1

theorem SaleCalls.snoc {slug : String} {amountMsat : UInt64} {calls : List DaemonCall}
    (h : SaleCalls slug amountMsat calls) {op : Op} (hop : SaleOp slug amountMsat op)
    (ans : Answer op) : SaleCalls slug amountMsat (calls ++ [⟨op, ans⟩]) := by
  intro c hc
  rcases List.mem_append.mp hc with hc | hc
  · exact h c hc
  · simp only [List.mem_singleton] at hc
    subst hc
    exact hop

theorem requestInvoice_outcome (slug : String) {amountMsat : UInt64} {desc : InvoiceDescription}
    {h : List DaemonCall} :
    Guarded AnyCall (fun h' r => ∃ calls, h' = h ++ calls ∧ SaleCalls slug amountMsat calls ∧
      ∀ inv, r = .ok inv → ∃ c ∈ calls, c.1.asked = some amountMsat) h
      (Gate.requestInvoice amountMsat desc) := by
  have hempty : SaleCalls slug amountMsat [] := by
    intro c hc
    cases hc
  have hlist : SaleOp slug amountMsat .listChannels := trivial
  have hask : SaleOp slug amountMsat (.receive amountMsat desc Gate.INVOICE_EXPIRY_SECS) := rfl
  have hjit : SaleOp slug amountMsat
      (.receiveViaJitChannel amountMsat desc Gate.INVOICE_EXPIRY_SECS) := rfl
  unfold Gate.requestInvoice
  simp only [perform_bind, guarded_call]
  refine ⟨trivial, fun channels => ?_⟩
  split
  · refine ⟨trivial, fun r => ⟨[_, _], by simp only [List.append_assoc]; rfl,
      (hempty.snoc hlist channels).snoc hask r, ?_⟩⟩
    intro inv _
    exact ⟨⟨.receive amountMsat desc Gate.INVOICE_EXPIRY_SECS, r⟩, by simp, rfl⟩
  · refine ⟨trivial, fun r => ?_⟩
    rcases r with e | inv
    · refine ⟨trivial, fun r => ⟨[_, _, _], by simp only [List.append_assoc]; rfl,
        ((hempty.snoc hlist channels).snoc hjit (.error e)).snoc hask r, ?_⟩⟩
      intro inv _
      exact ⟨⟨.receive amountMsat desc Gate.INVOICE_EXPIRY_SECS, r⟩, by simp, rfl⟩
    · refine ⟨[_, _], by simp only [List.append_assoc]; rfl,
        (hempty.snoc hlist channels).snoc hjit (.ok inv), ?_⟩
      intro inv' _
      exact ⟨⟨.receiveViaJitChannel amountMsat desc Gate.INVOICE_EXPIRY_SECS, .ok inv⟩, by simp,
        rfl⟩

/-- What the calls of a sale say once an invoice has been issued. -/
structure Sold (slug : String) (amountMsat : UInt64) (inv : PurchaseInvoice)
    (calls : List DaemonCall) : Prop where
  ops : SaleCalls slug amountMsat calls
  asked : ∃ c ∈ calls, c.1.asked = some amountMsat
  recorded : ∃ createdAt, ⟨.createPurchase inv.paymentHash slug amountMsat createdAt
    inv.claimToken, some (.ok ())⟩ ∈ calls

theorem sell_outcome {lib : Crates} {slug : String} {amountSats amountMsat : UInt64}
    {desc : InvoiceDescription} {h : List DaemonCall} :
    Guarded AnyCall (fun h' resp => ∀ inv, resp = .purchaseInvoice inv →
      inv.amountSats = amountSats ∧ ∃ calls, h' = h ++ calls ∧ Sold slug amountMsat inv calls) h
      (Gate.sell lib slug amountSats amountMsat desc) := by
  unfold Gate.sell
  apply (requestInvoice_outcome slug).bind
  intro h₁ r hr
  obtain ⟨calls, rfl, hcalls, hasked⟩ := hr
  rcases r with e | invoice
  · intro inv hinv
    cases hinv
  obtain ⟨c, hc, hask⟩ := hasked invoice rfl
  simp only [Gate.newClaimToken, perform_bind, guarded_call, Process.call_bind]
  refine ⟨trivial, fun r => ?_⟩
  rcases r with e | bytes
  · intro inv hinv
    cases hinv
  simp only [Process.pure_eq_done, Process.done_bind, guarded_call]
  refine ⟨trivial, fun now => ⟨trivial, fun r => ?_⟩⟩
  rcases r with _ | (e | ⟨⟩)
  · intro inv hinv
    cases hinv
  · intro inv hinv
    cases hinv
  · intro inv hinv
    obtain rfl := Response.purchaseInvoice.inj hinv
    have hrandom : SaleOp slug amountMsat (.fillRandom 32) := trivial
    have hclock : SaleOp slug amountMsat .nowSecs := trivial
    have hcreate : SaleOp slug amountMsat (.createPurchase (lib.hexEncode invoice.paymentHash)
      slug amountMsat now (lib.hexEncode bytes)) := ⟨rfl, rfl⟩
    refine ⟨rfl, _, by simp only [List.append_assoc]; rfl, ?_⟩
    simp only [← List.append_assoc]
    exact {
      ops := ((hcalls.snoc hrandom _).snoc hclock now).snoc hcreate _
      asked := ⟨c, List.mem_append_left _ (List.mem_append_left _ (List.mem_append_left _ hc)),
        hask⟩
      recorded := ⟨now, List.mem_concat_self⟩ }

/-- An invoice that `post_invoice` issued: the product it read, the price check it
    passed, and the calls of the sale. -/
theorem postInvoice_outcome (lib : Crates) (st : Gate.GateState) (slug : String)
    (body : Option Gate.InvoiceRequest) :
    Guarded AnyCall (fun h resp => ∀ inv, resp = .purchaseInvoice inv →
      ∃ l p calls, h = ⟨.lock, some l⟩ :: calls ∧ l.store.getProduct slug = some p ∧
        Gate.resolveAmount p.priceSats p.floorSats (body.bind (·.amountSats)) =
          .ok inv.amountSats ∧
        inv.amountSats ≠ 0 ∧ Sold slug (inv.amountSats * 1000) inv calls) []
      (Gate.postInvoice lib st slug body) := by
  unfold Gate.postInvoice
  simp only [perform_bind, guarded_call]
  refine ⟨trivial, ?_⟩
  rintro (_ | l)
  · intro inv hinv
    cases hinv
  simp only
  rcases hp : l.store.getProduct slug with _ | p
  · intro inv hinv
    cases hinv
  simp only
  split
  · intro inv hinv
    cases hinv
  rename_i amountSats hamount
  split
  · intro inv hinv
    cases hinv
  rename_i hpositive
  split
  · intro inv hinv
    cases hinv
  apply sell_outcome.mono
  intro h resp hresp inv hinv
  obtain ⟨rfl, calls, rfl, hsold⟩ := hresp inv hinv
  exact ⟨l, p, calls, rfl, hp, hamount, hpositive, hsold⟩

/-! ### Deliveries -/

theorem paidOrSettled_outcome {lib : Crates} {paid : Bool} {paymentHash : String}
    {h : List DaemonCall} :
    Guarded AnyCall (fun h' r => h <+: h' ∧ (r = true → paid = true ∨
      ∃ payments, ⟨.listPayments, payments⟩ ∈ h' ∧
        Gate.settledOnNode lib payments paymentHash = true)) h
      (Gate.paidOrSettled lib paid paymentHash) := by
  apply Guarded.extends (List.prefix_refl h)
  unfold Gate.paidOrSettled
  split
  · rename_i hpaid
    exact fun _ => Or.inl hpaid
  simp only [perform_bind, guarded_call]
  refine ⟨trivial, fun payments => ?_⟩
  split
  · rename_i hsettled
    refine ⟨trivial, fun _ _ => Or.inr ⟨payments, ?_, hsettled⟩⟩
    exact List.mem_append_left _ List.mem_concat_self
  · intro hfalse
    cases hfalse

/-- The text of a preimage parameter stands for these 32 bytes: it is their hex, with blanks
    around it at most. -/
def IsPreimage (lib : Crates) (text : String) (bytes : ByteArray) : Prop :=
  lib.hexDecode (trim text) = some bytes ∧ bytes.size = 32

/-- The handler takes every preimage, and nothing else. -/
theorem preimageBytes_iff {lib : Crates} {text : String} {bytes : ByteArray} :
    Gate.preimageBytes lib text = some bytes ↔ IsPreimage lib text bytes := by
  unfold Gate.preimageBytes IsPreimage
  rcases lib.hexDecode (trim text) with _ | b
  · simp
  · by_cases hsize : b.size = 32
    · simp only [if_pos hsize, Option.some.injEq]
      constructor
      · rintro rfl
        exact ⟨rfl, hsize⟩
      · exact fun h => h.1
    · simp only [if_neg hsize, reduceCtorEq, Option.some.injEq, false_iff]
      rintro ⟨rfl, hbytes⟩
      exact hsize hbytes

/-- The hash that a download's credential stands for, as the thread worked it out. -/
def Credential (lib : Crates) (params : Gate.DownloadParams) (h : List DaemonCall)
    (paymentHash : String) : Prop :=
  match params.preimage with
  | some preimage => ∃ bytes, IsPreimage lib preimage bytes ∧
      paymentHash = lib.hexEncode (lib.sha256 bytes)
  | none => ∃ claim l p, params.claim = some claim ∧ ⟨.lock, some l⟩ ∈ h ∧
      l.getPurchaseByClaim claim = some p ∧ paymentHash = p.paymentHash

theorem Credential.extend {lib : Crates} {params : Gate.DownloadParams} {h h' : List DaemonCall}
    {paymentHash : String} (hcred : Credential lib params h paymentHash) (hpre : h <+: h') :
    Credential lib params h' paymentHash := by
  unfold Credential at hcred ⊢
  rcases hparams : params.preimage with _ | preimage
  · simp only [hparams] at hcred
    obtain ⟨claim, l, p, hclaim, hl, hp, hhash⟩ := hcred
    exact ⟨claim, l, p, hclaim, hpre.subset hl, hp, hhash⟩
  · simpa only [hparams] using hcred

/-- What is known when the credential has been resolved: the hash, or a refusal. -/
def CredentialOutcome (lib : Crates) (params : Gate.DownloadParams) (h : List DaemonCall) :
    Except Response String → Prop
  | .ok paymentHash => Credential lib params h paymentHash
  | .error resp => resp.status ≠ .ok

theorem credentialHash_outcome {lib : Crates} {params : Gate.DownloadParams} :
    Guarded AnyCall (CredentialOutcome lib params) [] (Gate.credentialHash lib params) := by
  have hrefused : ∀ {h status e}, status ≠ .ok →
      CredentialOutcome lib params h (.error (.err status e)) := fun hstatus => hstatus
  unfold Gate.credentialHash
  rcases hpre : params.preimage with _ | preimage
  · rcases hclaim : params.claim with _ | claim
    · exact hrefused (by decide)
    simp only [perform_bind, guarded_call]
    refine ⟨trivial, ?_⟩
    rintro (_ | l)
    · exact hrefused (by decide)
    simp only
    rcases hp : l.getPurchaseByClaim claim with _ | p
    · exact hrefused (by decide)
    · have hfound : Credential lib params [⟨.lock, some l⟩] p.paymentHash := by
        unfold Credential
        rw [hpre]
        exact ⟨claim, l, p, hclaim, List.mem_singleton_self _, hp, rfl⟩
      exact hfound
  · simp only
    rcases hbytes : Gate.preimageBytes lib preimage with _ | bytes
    · exact hrefused (by decide)
    · have hhash : Credential lib params [] (lib.hexEncode (lib.sha256 bytes)) := by
        unfold Credential
        rw [hpre]
        exact ⟨bytes, preimageBytes_iff.mp hbytes, rfl⟩
      exact hhash

/-- What a thread has seen when it delivers the artifact of `slug`: a credential for
    a payment hash, a purchase of `slug` under that hash, and its payment. -/
structure Delivered (lib : Crates) (slug : String) (params : Gate.DownloadParams)
    (h : List DaemonCall) (paymentHash : String) : Prop where
  credential : Credential lib params h paymentHash
  purchase : ∃ l purchase, ⟨.lock, some l⟩ ∈ h ∧
    l.store.getPurchase paymentHash = some purchase ∧ purchase.slug = slug ∧
    (purchase.paid = true ∨ ∃ payments, ⟨.listPayments, payments⟩ ∈ h ∧
      Gate.settledOnNode lib payments paymentHash = true)

theorem getDownload_outcome (lib : Crates) (slug : String) (params : Gate.DownloadParams) :
    Guarded AnyCall (fun h resp => resp.status = .ok →
      ∃ paymentHash, Delivered lib slug params h paymentHash) []
      (Gate.getDownload lib slug params) := by
  unfold Gate.getDownload
  apply credentialHash_outcome.bind
  intro h r hr
  rcases r with resp | paymentHash
  · have hrefused : resp.status ≠ .ok := hr
    exact fun hstatus => absurd hstatus hrefused
  have hcred : Credential lib params h paymentHash := hr
  simp only [perform_bind, guarded_call]
  refine ⟨trivial, ?_⟩
  rintro (_ | l)
  · exact fun hstatus => by cases hstatus
  simp only
  rcases hpurchase : l.store.getPurchase paymentHash with _ | purchase
  · exact fun hstatus => by cases hstatus
  simp only
  split
  · exact fun hstatus => by cases hstatus
  rename_i hslug
  split
  · exact fun hstatus => by cases hstatus
  apply paidOrSettled_outcome.bind
  intro h₁ paid hpaid
  obtain ⟨hpre, hpaid⟩ := hpaid
  rcases paid with _ | _
  · exact fun hstatus => by cases hstatus
  -- from here on the thread only opens the file
  have hdelivered : Delivered lib slug params h₁ paymentHash := {
    credential := hcred.extend ((List.prefix_append _ _).trans hpre)
    purchase := ⟨l, purchase, hpre.subset List.mem_concat_self, hpurchase, not_not.mp hslug,
      hpaid rfl⟩ }
  have hlater : ∀ h₂, h₁ <+: h₂ → Delivered lib slug params h₂ paymentHash := by
    intro h₂ hpre₂
    obtain ⟨l, purchase, hl, hp, hs, hsettled⟩ := hdelivered.purchase
    refine ⟨hdelivered.credential.extend hpre₂, l, purchase, hpre₂.subset hl, hp, hs, ?_⟩
    rcases hsettled with hpaid | ⟨payments, hmem, hsettled⟩
    · exact Or.inl hpaid
    · exact Or.inr ⟨payments, hpre₂.subset hmem, hsettled⟩
  simp only [Bool.not_true, Bool.false_eq_true, if_false, Gate.serveArtifact, perform_bind,
    guarded_call]
  refine ⟨trivial, fun r => ?_⟩
  rcases r with _ | l'
  · exact fun hstatus => by cases hstatus
  simp only [guarded_call]
  refine ⟨trivial, fun r => ?_⟩
  rcases r with e | contents
  · exact fun hstatus => by cases hstatus
  simp only
  split
  · exact fun _ => ⟨paymentHash, hlater _
      ((List.prefix_append _ _).trans (List.prefix_append _ _))⟩
  · exact fun hstatus => by cases hstatus

end ArtistNode
