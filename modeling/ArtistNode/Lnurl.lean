import ArtistNode.Gate

/-!
# LNURL-pay and the node's public endpoints

`lnurl.rs` and the HTTP handlers of `main.rs`. None of them touches the store.
-/

namespace ArtistNode

open Base

namespace Lnurl

def INVOICE_EXPIRY_SECS : UInt32 := 3600

/-- LUD-06 allows 1 msat, but sub-satoshi amounts are not routable in practice. -/
def MIN_SENDABLE_MSAT : UInt64 := 1000

/-- Ceiling when the node has no usable inbound capacity. -/
def FALLBACK_MAX_SENDABLE_MSAT : UInt64 := 1000000000

structure LnurlState where
  artistName : String
  /-- Lightning address this node answers for. -/
  address : String
  publicUrl : String

structure CallbackParams where
  /-- Amount in millisatoshis; absent means metadata. -/
  amount : Option UInt64
  comment : Option String
deriving DecidableEq

def metadataString (lib : Crates) (artistName address : String) : String :=
  lib.jsonPairs [("text/plain", s!"Pay {artistName} on Lightning FM"),
    ("text/identifier", address)]

def maxSendableMsat (inbound : UInt64) : UInt64 :=
  if inbound ≥ MIN_SENDABLE_MSAT then inbound else FALLBACK_MAX_SENDABLE_MSAT

/-- `split('@').next()`: everything before the first `@`. -/
def localPart (address : String) : String :=
  String.ofList (address.toList.takeWhile (· != '@'))

def callbackUrl (st : LnurlState) : String :=
  Gate.trimSlashes st.publicUrl ++ "/.well-known/lnurlp/" ++ localPart st.address

def metadataResponse (lib : Crates) (st : LnurlState) : Handler Response := do
  let channels ← Effect.listChannels
  return .payRequest ⟨callbackUrl st, MIN_SENDABLE_MSAT,
    maxSendableMsat (Gate.inboundMsat channels), metadataString lib st.artistName st.address, 0⟩

def requestInvoice (inbound amountMsat : UInt64) (description : InvoiceDescription) :
    Handler (Except String Bolt11Invoice) := do
  if inbound ≥ amountMsat then
    Effect.receive amountMsat description INVOICE_EXPIRY_SECS
  else
    match ← Effect.receiveViaJitChannel amountMsat description INVOICE_EXPIRY_SECS with
    | .ok inv => return .ok inv
    | .error _ => Effect.receive amountMsat description INVOICE_EXPIRY_SECS

/-- A comment is accepted and ignored: it cannot be bound into the description
    hash. -/
def invoiceResponse (lib : Crates) (st : LnurlState) (amountMsat : UInt64) :
    Handler Response := do
  let channels ← Effect.listChannels
  let inbound := Gate.inboundMsat channels
  let maxSendable := maxSendableMsat inbound
  if amountMsat < MIN_SENDABLE_MSAT then
    return .lnurlError s!"Amount below minimum of {MIN_SENDABLE_MSAT} msat"
  else if amountMsat > maxSendable then
    return .lnurlError
      s!"Amount above maximum of {maxSendable} msat — receiving capacity is limited"
  else
    let metadata := metadataString lib st.artistName st.address
    let invoiceDesc := InvoiceDescription.hash (lib.sha256 metadata.toUTF8)
    match ← requestInvoice inbound amountMsat invoiceDesc with
    | .ok inv => return .lnurlInvoice inv.bolt11
    | .error _ => return .lnurlError "Could not create invoice"

def lnurlp (lib : Crates) (st : LnurlState) (name : String) (params : CallbackParams) :
    Handler Response :=
  if !eqIgnoreAsciiCase name (localPart st.address) then
    return .lnurlError "Unknown user"
  else
    match params.amount with
    | none => metadataResponse lib st
    | some amountMsat => invoiceResponse lib st amountMsat

end Lnurl

/-! ### The management endpoints of `main.rs` -/

namespace App

structure AppState where
  artistName : String
  network : Network

def health (st : AppState) : Handler Response := do
  let nodeId ← Effect.nodeId
  let channels ← Effect.listChannels
  let peers ← Effect.listPeers
  return .health ⟨st.artistName, nodeId, st.network.name, channels.length, peers.length⟩

def getNodeId (st : AppState) : Handler Response := do
  let nodeId ← Effect.nodeId
  return .nodeInfo nodeId st.artistName

def createInvoice (lib : Crates) (st : AppState) (amountSats : Option UInt64) :
    Handler Response := do
  let amountSats := amountSats.getD 50000
  let amountMsat := amountSats * 1000
  let expirySecs : UInt32 := 3600
  match lib.descriptionNew s!"Lightning FM — {st.artistName} bootstrap" with
  | none => return .invoiceError "Invalid description"
  | some desc =>
    match ← Effect.receive amountMsat (.direct desc) expirySecs with
    | .ok invoice => return .invoice invoice.bolt11 amountSats expirySecs
    | .error e => return .invoiceError s!"Failed to create invoice: {e}"

end App

end ArtistNode
