import ArtistNode.Effects

/-!
# The purchase gate

`gate.rs`: the handlers of the public sales interface, as processes over the
daemon's operations. Extraction of paths, queries and JSON bodies is done by the
web framework before a handler runs, so a handler takes the extracted values;
`authorization` is the `Authorization` header when it is visible ASCII.
-/

namespace ArtistNode

open Base

namespace Gate

def INVOICE_EXPIRY_SECS : UInt32 := 3600

structure GateState where
  artistName : String
  /-- Signer allowed to upload artifacts. Uploads are disabled when unset. -/
  artistPubkey : Option PublicKey
  /-- External base URL of this daemon; must match NIP-98 `u` tags. -/
  publicUrl : String

/-- Usable inbound capacity across the live channels; `sum` wraps. -/
def inboundMsat (channels : List ChannelDetails) : UInt64 :=
  ((channels.filter (·.isUsable)).map (·.inboundCapacityMsat)).sum

def trimSlashes (url : String) : String := trimEndMatches (· == '/') url

def poisoned : Response := .err .internalServerError "Store lock poisoned"

/-! ### Upload (artist, NIP-98) -/

structure UploadParams where
  title : String
  priceSats : UInt64
  floorSats : Option UInt64
  format : String
deriving DecidableEq

def uploadUrl (st : GateState) (slug : String) : String :=
  trimSlashes st.publicUrl ++ "/products/" ++ slug

def fileNameOf (slug format : String) : String := slug ++ "." ++ format

/-- The record an accepted upload registers. -/
def uploadRecord (slug : String) (params : UploadParams) (body : ByteArray) : ProductRecord where
  slug := slug
  title := params.title
  priceSats := params.priceSats
  floorSats := params.floorSats
  format := params.format
  fileName := fileNameOf slug params.format
  sizeBytes := UInt64.ofNat body.size

/-- The part of `put_product` after the authorization check. -/
def storeUpload (slug : String) (params : UploadParams) (body : ByteArray) :
    Handler Response := do
  match ← Effect.lock with
  | none => return poisoned
  | some l =>
    match ← Effect.writeFile (joinPath l.store.dir (fileNameOf slug params.format)) body with
    | .error e => return .err .internalServerError s!"Failed to store artifact: {e}"
    | .ok () =>
      match ← Effect.upsertProduct (uploadRecord slug params body) with
      | none => return poisoned
      | some (.error e) => return .err .internalServerError e
      | some (.ok ()) => return .productCreated slug

def putProduct (lib : Crates) (st : GateState) (slug : String) (params : UploadParams)
    (authorization : Option String) (body : ByteArray) : Handler Response :=
  match st.artistPubkey with
  | none => return .err .serviceUnavailable "Uploads disabled: ARTIST_PUBKEY not configured"
  | some artistPk =>
    if !validSlug slug then return .err .badRequest "Invalid slug"
    else if !validFormat params.format then return .err .badRequest "Unsupported format"
    else if body.size = 0 then return .err .badRequest "Empty artifact body"
    else if params.priceSats = 0 ∧ params.floorSats = none then
      return .err .badRequest "Price must be > 0 or set a floor"
    else
      match authorization with
      | none => return .err .unauthorized "Missing Authorization header"
      | some auth => do
        let bodyHash := lib.hexEncode (lib.sha256 body)
        let now ← Effect.nowSecs
        match Nip98.verify lib.toNostrCrates auth "PUT" (uploadUrl st slug) (some bodyHash)
            artistPk now with
        | .error e => return .err .unauthorized s!"NIP-98: {e}"
        | .ok _ => storeUpload slug params body

/-! ### Public metadata -/

def productMeta (p : ProductRecord) : ProductMeta where
  slug := p.slug
  title := p.title
  priceSats := p.priceSats
  floorSats := p.floorSats
  format := p.format
  sizeBytes := p.sizeBytes

def getProduct (slug : String) : Handler Response := do
  match ← Effect.lock with
  | none => return poisoned
  | some l =>
    match l.store.getProduct slug with
    | some p => return .product (productMeta p)
    | none => return .err .notFound "No such product"

/-! ### Invoice (buyer) -/

structure InvoiceRequest where
  /-- Buyer-chosen amount for name-your-price listings; defaults to the price. -/
  amountSats : Option UInt64
deriving DecidableEq

/-- Validate the buyer's amount against price and floor. -/
def resolveAmount (priceSats : UInt64) (floorSats requested : Option UInt64) :
    Except String UInt64 :=
  match floorSats, requested with
  | none, none => .ok priceSats
  | none, some a =>
    if a = priceSats then .ok priceSats else .error "This listing has a fixed price"
  | some floor, none => .ok (max priceSats floor)
  | some floor, some a =>
    if a ≥ floor then .ok a else .error s!"Amount below the {floor} sat minimum"

/-- A plain invoice when usable inbound capacity holds the payment; otherwise a
    just-in-time channel, falling back to a plain invoice. -/
def requestInvoice (amountMsat : UInt64) (description : InvoiceDescription) :
    Handler (Except String Bolt11Invoice) := do
  let channels ← Effect.listChannels
  if inboundMsat channels ≥ amountMsat then
    Effect.receive amountMsat description INVOICE_EXPIRY_SECS
  else
    match ← Effect.receiveViaJitChannel amountMsat description INVOICE_EXPIRY_SECS with
    | .ok inv => return .ok inv
    | .error _ => Effect.receive amountMsat description INVOICE_EXPIRY_SECS

/-- Random 32-byte hex claim token. -/
def newClaimToken (lib : Crates) : Handler (Except String String) := do
  match ← Effect.fillRandom 32 with
  | .error e => return .error s!"RNG failure: {e}"
  | .ok bytes => return .ok (lib.hexEncode bytes)

/-- The part of `post_invoice` that obtains an invoice and records the purchase. -/
def sell (lib : Crates) (slug : String) (amountSats amountMsat : UInt64)
    (description : InvoiceDescription) : Handler Response := do
  match ← requestInvoice amountMsat description with
  | .error e => return .err .internalServerError s!"Failed to create invoice: {e}"
  | .ok invoice =>
    let paymentHash := lib.hexEncode invoice.paymentHash
    match ← newClaimToken lib with
    | .error e => return .err .internalServerError e
    | .ok claimToken =>
      let now ← Effect.nowSecs
      match ← Effect.createPurchase paymentHash slug amountMsat now claimToken with
      | none => return poisoned
      | some (.error e) => return .err .internalServerError e
      | some (.ok ()) =>
        return .purchaseInvoice ⟨invoice.bolt11, paymentHash, amountSats, INVOICE_EXPIRY_SECS,
          claimToken⟩

def saleDescription (st : GateState) (title : String) : String :=
  s!"Lightning FM — {title} ({st.artistName})"

def postInvoice (lib : Crates) (st : GateState) (slug : String)
    (body : Option InvoiceRequest) : Handler Response := do
  let requested := body.bind (·.amountSats)
  match ← Effect.lock with
  | none => return poisoned
  | some l =>
    match l.store.getProduct slug with
    | none => return .err .notFound "No such product"
    | some p =>
      match resolveAmount p.priceSats p.floorSats requested with
      | .error e => return .err .badRequest e
      | .ok amountSats =>
        if amountSats = 0 then return .err .badRequest "Amount must be > 0"
        else
          -- wraps in the release build
          let amountMsat := amountSats * 1000
          match lib.descriptionNew (saleDescription st p.title) with
          | none => return .err .internalServerError "Invalid description"
          | some desc => sell lib slug amountSats amountMsat (.direct desc)

/-! ### Settlement -/

/-- `settled_on_node`, on the answer of `list_payments`. -/
def settledOnNode (lib : Crates) (payments : List PaymentDetails) (paymentHashHex : String) :
    Bool :=
  payments.any fun p =>
    let hash := match p.kind with
      | .bolt11 hash => some hash
      | .bolt11Jit hash => some hash
      | _ => none
    hash.map lib.hexEncode == some paymentHashHex && p.status == .succeeded

/-- The node-store fallback that status and download share: a purchase not yet
    marked paid counts as paid when the node has it settled, and is then marked.
    The outcome of marking is ignored. -/
def paidOrSettled (lib : Crates) (paid : Bool) (paymentHash : String) : Handler Bool := do
  if paid then return true
  else
    let payments ← Effect.listPayments
    if settledOnNode lib payments paymentHash then
      let _ ← Effect.markPaid paymentHash
      return true
    else return false

/-! ### Status (buyer polling) -/

def getStatus (lib : Crates) (slug claim : String) : Handler Response := do
  match ← Effect.lock with
  | none => return poisoned
  | some l =>
    match l.getPurchaseByClaim claim with
    | none => return .err .notFound "No purchase for this claim"
    | some p =>
      if p.slug = slug then
        let paid ← paidOrSettled lib p.paid p.paymentHash
        return .paid paid
      else return .err .notFound "No purchase for this claim"

/-! ### Download (buyer, by preimage or claim) -/

structure DownloadParams where
  /-- Cryptographic receipt: its SHA-256 must be the payment hash. -/
  preimage : Option String
  /-- Session credential from invoice issuance (web-buyer path). -/
  claim : Option String
deriving DecidableEq

/-- The 32 bytes a preimage parameter stands for. -/
def preimageBytes (lib : Crates) (preimage : String) : Option ByteArray :=
  match lib.hexDecode (trim preimage) with
  | some b => if b.size = 32 then some b else none
  | none => none

/-- Resolve the payment hash from whichever credential was presented. -/
def credentialHash (lib : Crates) (params : DownloadParams) :
    Handler (Except Response String) :=
  match params.preimage, params.claim with
  | some preimage, _ =>
    match preimageBytes lib preimage with
    | none => return .error (.err .badRequest "Preimage must be 32 bytes of hex")
    | some bytes => return .ok (lib.hexEncode (lib.sha256 bytes))
  | none, some claim => do
    match ← Effect.lock with
    | none => return .error poisoned
    | some l =>
      match l.getPurchaseByClaim claim with
      | some p => return .ok p.paymentHash
      | none => return .error (.err .notFound "No purchase for this claim")
  | none, none => return .error (.err .badRequest "Provide a preimage or claim token")

def contentDisposition (slug format : String) : String :=
  s!"attachment; filename=\"{slug}.{format}\""

/-- Open and stream the artifact of a settled purchase. The body is what the
    file held when it was opened: the source reads on from the open file, and a
    write that comes after the opening does not show here. -/
def serveArtifact (lib : Crates) (slug : String) (product : ProductRecord) :
    Handler Response := do
  match ← Effect.lock with
  | none => return poisoned
  | some l =>
    match ← Effect.openFile (joinPath l.store.dir product.fileName) with
    | .error e => return .err .internalServerError s!"Artifact missing on disk: {e}"
    | .ok contents =>
      let disposition := contentDisposition slug product.format
      if lib.headerValueOk disposition then
        return .artifact product.sizeBytes disposition contents
      else return .err .internalServerError "Failed to build response"

def getDownload (lib : Crates) (slug : String) (params : DownloadParams) :
    Handler Response := do
  match ← credentialHash lib params with
  | .error resp => return resp
  | .ok paymentHash =>
    match ← Effect.lock with
    | none => return poisoned
    | some l =>
      match l.store.getPurchase paymentHash with
      | none => return .err .notFound "No purchase for this preimage"
      | some purchase =>
        if purchase.slug ≠ slug then
          return .err .notFound "Purchase is for a different product"
        else
          match l.store.getProduct slug with
          | none => return .err .notFound "Product no longer exists"
          | some product =>
            let paid ← paidOrSettled lib purchase.paid paymentHash
            if !paid then return .err .paymentRequired "Payment not settled yet"
            else serveArtifact lib slug product

end Gate

end ArtistNode
