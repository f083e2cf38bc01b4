import ArtistNode.Base.Maps
import ArtistNode.Base.Simulation
import ArtistNode.Footprint
import ArtistNode.PoisonedLock

/-!
# Renaming claim tokens

A claim token is drawn at random, handed to the buyer with the invoice, and from then on
only compared with what requests present. So its name does not matter: with other names for
the tokens, in the draws, in the ledger and in the requests, every handler goes on alike,
call by call.
-/

namespace ArtistNode

open Base

/-! ### Renaming tokens -/

section Renaming

variable (ρ : String → String)

def PurchaseRecord.rename (p : PurchaseRecord) : PurchaseRecord :=
  { p with claimToken := p.claimToken.map ρ }

def Persisted.rename (state : Persisted) : Persisted :=
  { state with purchases := mapValues (PurchaseRecord.rename ρ) state.purchases }

def Store.rename (s : Store) : Store := { s with state := s.state.rename ρ }

def Locked.rename (l : Locked) : Locked where
  store := l.store.rename ρ
  values := l.values.map (PurchaseRecord.rename ρ)
  values_eq := by
    rw [← Multiset.map_coe, l.values_eq]
    exact (values_mapValues _ _).symm

/-- The token that a request presents. -/
def Job.rename : Job → Job
  | .getStatus slug claim => .getStatus slug (ρ claim)
  | .getDownload slug params => .getDownload slug { params with claim := params.claim.map ρ }
  | job => job

/-- The token that an invoice is handed out with. -/
def Response.rename : Response → Response
  | .purchaseInvoice sold => .purchaseInvoice { sold with claimToken := ρ sold.claimToken }
  | resp => resp

/-- The token that a purchase is recorded with. -/
def Op.rename : Op → Op
  | .createPurchase paymentHash slug amountMsat createdAt claimToken =>
    .createPurchase paymentHash slug amountMsat createdAt (ρ claimToken)
  | op => op

end Renaming

/-- The operations in which tokens show. -/
def Op.showsTokens : Op → Bool
  | .lock => true
  | .createPurchase .. => true
  | .fillRandom _ => true
  | _ => false

/-- A call, and the same call after the renaming: the store that it sees is renamed, so is
    the token that it records, and what it draws is drawn for the renamed token. -/
inductive CallRenamed (lib : Crates) (ρ : String → String) : DaemonCall → DaemonCall → Prop
  | poisoned : CallRenamed lib ρ ⟨.lock, none⟩ ⟨.lock, none⟩
  | locked (l : Locked) : CallRenamed lib ρ ⟨.lock, some l⟩ ⟨.lock, some (l.rename ρ)⟩
  | recorded (paymentHash slug : String) (amountMsat createdAt : UInt64) (claimToken : String)
      (result : Option (Except String Unit)) : CallRenamed lib ρ
        ⟨.createPurchase paymentHash slug amountMsat createdAt claimToken, result⟩
        ⟨.createPurchase paymentHash slug amountMsat createdAt (ρ claimToken), result⟩
  | undrawn (length : Nat) (e : String) :
      CallRenamed lib ρ ⟨.fillRandom length, .error e⟩ ⟨.fillRandom length, .error e⟩
  | drawn (length : Nat) (bytes bytes' : ByteArray) (hsize : bytes'.size = bytes.size)
      (htoken : lib.hexEncode bytes' = ρ (lib.hexEncode bytes)) :
      CallRenamed lib ρ ⟨.fillRandom length, .ok bytes⟩ ⟨.fillRandom length, .ok bytes'⟩
  | same (op : Op) (ans : Answer op) (hop : op.showsTokens = false) :
      CallRenamed lib ρ ⟨op, ans⟩ ⟨op, ans⟩

/-- The states differ in the names of tokens, in memory and in the index. -/
structure SharedRenamed (d : Daemon) (ρ : String → String) (s s' : Shared) : Prop where
  store : s'.store = s.store.rename ρ
  poisoned : s'.poisoned = s.poisoned
  payments : s'.payments = s.payments
  files : ∀ path, path ≠ joinPath d.productsDir "index.json" →
    path ≠ joinPath d.productsDir "index.json.tmp" → s'.files path = s.files path
  disk : ∀ store, Store.open d.lib.toSerdeJson none s.files d.dataDir = .ok store →
    Store.open d.lib.toSerdeJson none s'.files d.dataDir = .ok (store.rename ρ)

/-- The daemon before and after the renaming. -/
def tokenRenaming (d : Daemon) (ρ : String → String) :
    Correspondence Answer Answer Job Job Response Response Shared Shared EnvEvent EnvEvent where
  op op op' := op' = op.rename ρ
  call := CallRenamed d.lib ρ
  job job job' := job' = job.rename ρ
  result resp resp' := resp' = resp.rename ρ
  event e e' := e' = e
  shared := SharedRenamed d ρ

section Lookups

variable (ρ : String → String)

@[simp] theorem Locked.rename_getProduct (l : Locked) (slug : String) :
    (l.rename ρ).store.getProduct slug = l.store.getProduct slug := rfl

@[simp] theorem Locked.rename_getPurchase (l : Locked) (paymentHash : String) :
    (l.rename ρ).store.getPurchase paymentHash =
      (l.store.getPurchase paymentHash).map (PurchaseRecord.rename ρ) :=
  lookup_mapValues _ _ _

/-- A renamed token finds the renamed purchase. -/
theorem Locked.rename_getPurchaseByClaim {ρ : String → String} (hρ : Function.Injective ρ)
    (l : Locked) (claim : String) : (l.rename ρ).getPurchaseByClaim (ρ claim) =
      (l.getPurchaseByClaim claim).map (PurchaseRecord.rename ρ) := by
  unfold Locked.getPurchaseByClaim Locked.rename
  rw [List.find?_map]
  congr 2
  funext p
  have hiff : (p.rename ρ).claimToken = some (ρ claim) ↔ p.claimToken = some claim := by
    unfold PurchaseRecord.rename
    constructor
    · intro h
      obtain ⟨token, htoken, heq⟩ := Option.map_eq_some_iff.mp h
      rw [htoken, hρ heq]
    · intro h
      simp only [h, Option.map_some]
  exact Bool.eq_iff_iff.mpr (by simpa using hiff)

end Lookups

/-! ### Every handler treats tokens as names -/

/-- The processes go on alike, but for the names of tokens. -/
abbrev Alike {α β : Type} (lib : Crates) (ρ : String → String) (R : α → β → Prop)
    (p : Handler α) (p' : Handler β) : Prop :=
  Related (fun op op' => op' = op.rename ρ) (CallRenamed lib ρ) R p p'

section Handlers

variable {α β : Type} {R : α → β → Prop} {d : Daemon} {lib : Crates} {ρ : String → String}

theorem Op.rename_same {op : Op} (hop : op.showsTokens = false) : op.rename ρ = op := by
  cases op with
  | createPurchase paymentHash slug amountMsat createdAt claimToken => cases hop
  | _ => rfl

theorem CallRenamed.same_of {c c' : DaemonCall} (h : CallRenamed lib ρ c c')
    (hop : c.1.showsTokens = false) : c' = c := by
  cases h with
  | same op ans hop' => rfl
  | _ => cases hop

/-- An operation in which no token shows. -/
theorem alike_same {op : Op} {k : Answer op → Handler α} {k' : Answer op → Handler β}
    (hop : op.showsTokens = false) (h : ∀ ans, Alike lib ρ R (k ans) (k' ans)) :
    Alike lib ρ R (.call op k) (.call op k') := by
  refine ⟨(Op.rename_same hop).symm, ?_⟩
  intro ans ans' hcall
  obtain rfl : ans' = ans := eq_of_heq (Sigma.mk.inj (hcall.same_of hop)).2
  exact h ans'

/-- A look at the store. -/
theorem alike_lock {k : Option Locked → Handler α} {k' : Option Locked → Handler β}
    (hpoisoned : Alike lib ρ R (k none) (k' none))
    (hlocked : ∀ l, Alike lib ρ R (k (some l)) (k' (some (l.rename ρ)))) :
    Alike lib ρ R (.call .lock k) (.call .lock k') := by
  refine ⟨rfl, ?_⟩
  intro ans ans' hcall
  cases hcall with
  | poisoned => exact hpoisoned
  | locked l => exact hlocked l
  | same _ _ hop => cases hop

theorem CallRenamed.of_recorded {paymentHash slug claimToken : String}
    {amountMsat createdAt : UInt64} {result : Option (Except String Unit)} {c' : DaemonCall}
    (h : CallRenamed lib ρ
      ⟨.createPurchase paymentHash slug amountMsat createdAt claimToken, result⟩ c') :
    c' = ⟨.createPurchase paymentHash slug amountMsat createdAt (ρ claimToken), result⟩ := by
  cases h with
  | recorded _ _ _ _ _ _ => rfl
  | same _ _ hop => cases hop

/-- The recording of a purchase. -/
theorem alike_record {paymentHash slug claimToken : String} {amountMsat createdAt : UInt64}
    {k : Option (Except String Unit) → Handler α} {k' : Option (Except String Unit) → Handler β}
    (h : ∀ result, Alike lib ρ R (k result) (k' result)) : Alike lib ρ R
      (.call (.createPurchase paymentHash slug amountMsat createdAt claimToken) k)
      (.call (.createPurchase paymentHash slug amountMsat createdAt (ρ claimToken)) k') := by
  refine ⟨rfl, ?_⟩
  intro result result' hcall
  obtain rfl : result' = result := eq_of_heq (Sigma.mk.inj hcall.of_recorded).2
  exact h result'

theorem storeUpload_alike (slug : String) (params : Gate.UploadParams) (body : ByteArray) :
    Alike lib ρ (fun resp resp' => resp' = resp.rename ρ) (Gate.storeUpload slug params body)
      (Gate.storeUpload slug params body) := by
  unfold Gate.storeUpload
  simp only [perform_bind]
  apply alike_lock
  · exact rfl
  intro l
  apply alike_same rfl
  intro written
  rcases written with e | ⟨⟩
  · exact rfl
  apply alike_same rfl
  intro registered
  rcases registered with _ | (e | ⟨⟩)
  all_goals exact rfl

theorem putProduct_alike (st : Gate.GateState) (slug : String) (params : Gate.UploadParams)
    (auth : Option String) (body : ByteArray) :
    Alike lib ρ (fun resp resp' => resp' = resp.rename ρ)
      (Gate.putProduct lib st slug params auth body)
      (Gate.putProduct lib st slug params auth body) := by
  unfold Gate.putProduct
  rcases st.artistPubkey with _ | key
  · exact rfl
  simp only
  by_cases hslug : (!validSlug slug) = true
  · rw [if_pos hslug]
    exact rfl
  rw [if_neg hslug]
  by_cases hformat : (!validFormat params.format) = true
  · rw [if_pos hformat]
    exact rfl
  rw [if_neg hformat]
  by_cases hbody : body.size = 0
  · rw [if_pos hbody]
    exact rfl
  rw [if_neg hbody]
  by_cases hprice : params.priceSats = 0 ∧ params.floorSats = none
  · rw [if_pos hprice]
    exact rfl
  rw [if_neg hprice]
  rcases auth with _ | auth
  · exact rfl
  simp only [perform_bind]
  apply alike_same rfl
  intro now
  rcases Nip98.verify lib.toNostrCrates auth "PUT" (Gate.uploadUrl st slug)
    (some (lib.hexEncode (lib.sha256 body))) key now with e | signer
  · exact rfl
  · exact storeUpload_alike slug params body

theorem getProduct_alike (slug : String) :
    Alike lib ρ (fun resp resp' => resp' = resp.rename ρ) (Gate.getProduct slug)
      (Gate.getProduct slug) := by
  unfold Gate.getProduct
  simp only [perform_bind]
  apply alike_lock
  · exact rfl
  intro l
  simp only [Locked.rename_getProduct]
  rcases l.store.getProduct slug with _ | p
  all_goals exact rfl

theorem saleInvoice_alike (amountMsat : UInt64) (desc : InvoiceDescription) :
    Alike lib ρ (fun r r' => r' = r) (Gate.requestInvoice amountMsat desc)
      (Gate.requestInvoice amountMsat desc) := by
  unfold Gate.requestInvoice
  simp only [perform_bind]
  apply alike_same rfl
  intro channels
  by_cases hcapacity : Gate.inboundMsat channels ≥ amountMsat
  · simp only [if_pos hcapacity]
    exact alike_same rfl fun _ => rfl
  · simp only [if_neg hcapacity]
    apply alike_same rfl
    intro r
    rcases r with e | inv
    · exact alike_same rfl fun _ => rfl
    · exact rfl

theorem newClaimToken_alike : Alike lib ρ (fun r r' => r' = r.map ρ) (Gate.newClaimToken lib)
    (Gate.newClaimToken lib) := by
  refine ⟨rfl, ?_⟩
  intro ans ans' hcall
  cases hcall with
  | undrawn length e => exact rfl
  | drawn length bytes bytes' hsize htoken => exact congrArg Except.ok htoken
  | same op ans hop => cases hop

theorem sell_alike (slug : String) (amountSats amountMsat : UInt64) (desc : InvoiceDescription) :
    Alike lib ρ (fun resp resp' => resp' = resp.rename ρ)
      (Gate.sell lib slug amountSats amountMsat desc)
      (Gate.sell lib slug amountSats amountMsat desc) := by
  unfold Gate.sell
  refine Related.bind ?_ (saleInvoice_alike amountMsat desc)
  rintro _ r rfl
  rcases r with e | inv
  · exact rfl
  refine Related.bind ?_ newClaimToken_alike
  rintro r _ rfl
  rcases r with e | claimToken
  · exact rfl
  apply alike_same rfl
  intro now
  apply alike_record
  intro result
  rcases result with _ | (e | ⟨⟩)
  all_goals exact rfl

theorem postInvoice_alike (st : Gate.GateState) (slug : String)
    (body : Option Gate.InvoiceRequest) :
    Alike lib ρ (fun resp resp' => resp' = resp.rename ρ) (Gate.postInvoice lib st slug body)
      (Gate.postInvoice lib st slug body) := by
  unfold Gate.postInvoice
  simp only [perform_bind]
  apply alike_lock
  · exact rfl
  intro l
  simp only [Locked.rename_getProduct]
  rcases l.store.getProduct slug with _ | p
  · exact rfl
  simp only
  rcases Gate.resolveAmount p.priceSats p.floorSats (body.bind (·.amountSats)) with e | amountSats
  · exact rfl
  by_cases hzero : amountSats = 0
  · simp only [if_pos hzero]
    exact rfl
  simp only [if_neg hzero]
  rcases lib.descriptionNew (Gate.saleDescription st p.title) with _ | desc
  · exact rfl
  · exact sell_alike slug amountSats (amountSats * 1000) (.direct desc)

theorem paidOrSettled_alike (paid : Bool) (paymentHash : String) :
    Alike lib ρ (fun r r' => r' = r) (Gate.paidOrSettled lib paid paymentHash)
      (Gate.paidOrSettled lib paid paymentHash) := by
  unfold Gate.paidOrSettled
  rcases paid with _ | _
  · simp only [Bool.false_eq_true, if_false, perform_bind]
    apply alike_same rfl
    intro payments
    rcases Gate.settledOnNode lib payments paymentHash with _ | _
    · exact rfl
    · exact alike_same rfl fun _ => rfl
  · exact rfl

theorem getStatus_alike (hρ : Function.Injective ρ) (slug claim : String) :
    Alike lib ρ (fun resp resp' => resp' = resp.rename ρ) (Gate.getStatus lib slug claim)
      (Gate.getStatus lib slug (ρ claim)) := by
  unfold Gate.getStatus
  simp only [perform_bind]
  apply alike_lock
  · exact rfl
  intro l
  simp only [Locked.rename_getPurchaseByClaim hρ]
  rcases l.getPurchaseByClaim claim with _ | p
  · exact rfl
  simp only [Option.map_some]
  -- slug, flag and hash of a purchase are not renamed
  have hslug : (p.rename ρ).slug = p.slug := rfl
  by_cases heq : p.slug = slug
  · rw [hslug, if_pos heq, if_pos heq]
    refine Related.bind ?_ (paidOrSettled_alike p.paid p.paymentHash)
    rintro _ paid rfl
    exact rfl
  · rw [hslug, if_neg heq, if_neg heq]
    exact rfl

theorem credentialHash_alike (hρ : Function.Injective ρ) (params : Gate.DownloadParams) :
    Alike lib ρ (fun r r' => r' = r ∧ Refuses r) (Gate.credentialHash lib params)
      (Gate.credentialHash lib { params with claim := params.claim.map ρ }) := by
  obtain ⟨preimage, claim⟩ := params
  unfold Gate.credentialHash
  rcases preimage with _ | preimage
  · rcases claim with _ | claim
    · exact ⟨rfl, Refuses.of_err _ _⟩
    simp only [Option.map_some, perform_bind]
    apply alike_lock
    · exact ⟨rfl, Refuses.of_err _ _⟩
    intro l
    simp only [Locked.rename_getPurchaseByClaim hρ]
    rcases l.getPurchaseByClaim claim with _ | p
    · exact ⟨rfl, Refuses.of_err _ _⟩
    · exact ⟨rfl, Refuses.of_ok _⟩
  · simp only
    rcases Gate.preimageBytes lib preimage with _ | bytes
    · exact ⟨rfl, Refuses.of_err _ _⟩
    · exact ⟨rfl, Refuses.of_ok _⟩

theorem serveArtifact_alike (slug : String) (p : ProductRecord) :
    Alike lib ρ (fun resp resp' => resp' = resp.rename ρ) (Gate.serveArtifact lib slug p)
      (Gate.serveArtifact lib slug p) := by
  unfold Gate.serveArtifact
  simp only [perform_bind]
  apply alike_lock
  · exact rfl
  intro l
  apply alike_same rfl
  intro contents
  rcases contents with e | contents
  · exact rfl
  simp only
  rcases lib.headerValueOk (Gate.contentDisposition slug p.format) with _ | _
  all_goals exact rfl

theorem getDownload_alike (hρ : Function.Injective ρ) (slug : String)
    (params : Gate.DownloadParams) :
    Alike lib ρ (fun resp resp' => resp' = resp.rename ρ) (Gate.getDownload lib slug params)
      (Gate.getDownload lib slug { params with claim := params.claim.map ρ }) := by
  unfold Gate.getDownload
  refine Related.bind ?_ (credentialHash_alike hρ params)
  rintro _ r ⟨rfl, hrefuses⟩
  rcases r with resp | paymentHash
  · obtain ⟨status, e, rfl⟩ := hrefuses resp rfl
    exact rfl
  simp only [perform_bind]
  apply alike_lock
  · exact rfl
  intro l
  simp only [Locked.rename_getPurchase, Locked.rename_getProduct]
  rcases l.store.getPurchase paymentHash with _ | purchase
  · exact rfl
  simp only [Option.map_some]
  have hslug : (purchase.rename ρ).slug = purchase.slug := rfl
  by_cases heq : purchase.slug ≠ slug
  · rw [hslug, if_pos heq, if_pos heq]
    exact rfl
  rw [hslug, if_neg heq, if_neg heq]
  rcases l.store.getProduct slug with _ | product
  · exact rfl
  refine Related.bind ?_ (paidOrSettled_alike purchase.paid paymentHash)
  rintro _ paid rfl
  rcases paid with _ | _
  · exact rfl
  · exact serveArtifact_alike slug product

/-! The requests that leave the store alone, and the event loop. -/

theorem showsTokens_of_uses {job : Job} {op : Op} (hjob : job.isStorefront = false)
    (hop : job.uses op = true) : op.showsTokens = false := by
  have hstorefront : op.showsTokens = true → job.isStorefront = true := by
    intro hshows
    cases op with
    | lock => cases job <;> first | rfl | cases hop
    | createPurchase paymentHash slug amountMsat createdAt claimToken =>
      cases job <;> first | rfl | cases hop
    | fillRandom length => cases job <;> first | rfl | cases hop
    | _ => cases hshows
  by_contra hshows
  cases (hstorefront (Bool.not_eq_false _ ▸ hshows)).symm.trans hjob

theorem rename_of_answers {job : Job} {resp : Response} (hjob : job.isStorefront = false)
    (hanswers : job.answers resp = true) : resp.rename ρ = resp := by
  cases resp with
  | purchaseInvoice sold =>
    have hstorefront : job.isStorefront = true := by
      cases job <;> first | rfl | cases hanswers
    cases hstorefront.symm.trans hjob
  | _ => rfl

theorem Within.alike {job : Job} (hjob : job.isStorefront = false) {h : List DaemonCall}
    {p : Handler Response} (hwithin : Within job h p) :
    Alike lib ρ (fun resp resp' => resp' = resp.rename ρ) p p := by
  refine Guarded.related_self ?_ ?_ ?_ hwithin
  · intro h op hop
    exact (Op.rename_same (showsTokens_of_uses hjob hop)).symm
  · intro h op ans ans' hop hcall
    exact eq_of_heq (Sigma.mk.inj (hcall.same_of (showsTokens_of_uses hjob hop))).2
  · intro h resp hanswers
    exact (rename_of_answers hjob hanswers).symm

end Handlers

/-- Every handler goes on alike after the renaming. -/
theorem handle_alike {ρ : String → String} (hρ : Function.Injective ρ) (d : Daemon) (job : Job) :
    Alike d.lib ρ (fun resp resp' => resp' = resp.rename ρ) (handle d job)
      (handle d (job.rename ρ)) := by
  cases job with
  | putProduct slug params auth body => exact putProduct_alike _ slug params auth body
  | getProduct slug => exact getProduct_alike slug
  | postInvoice slug body => exact postInvoice_alike _ slug body
  | getStatus slug claim => exact getStatus_alike hρ slug claim
  | getDownload slug params => exact getDownload_alike hρ slug params
  | _ => exact Within.alike rfl (handle_within d _)

end ArtistNode
