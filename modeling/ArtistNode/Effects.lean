import ArtistNode.Base.Process
import ArtistNode.Nip98
import ArtistNode.Store

/-!
# What the daemon does besides computing

The operations of the handlers, with the type of each answer: sections under the
store lock, the file system, the Lightning node, the LSPS1 provider's HTTP
interface, the clock and the random number generator. Everything between two
operations is computed by the handlers themselves. The pure functions of other
crates are collected in `Crates`.
-/

namespace ArtistNode

open Base

/-! ### Data of the Lightning node -/

inductive Network where
  | bitcoin
  | testnet
  | signet
  | regtest
deriving DecidableEq

/-- `Network`'s `Display`. -/
def Network.name : Network → String
  | .bitcoin => "bitcoin"
  | .testnet => "testnet"
  | .signet => "signet"
  | .regtest => "regtest"

structure ChannelDetails where
  isUsable : Bool
  inboundCapacityMsat : UInt64
deriving DecidableEq

inductive InvoiceDescription where
  | direct (description : String)
  | hash (sha256 : ByteArray)
deriving DecidableEq

structure Bolt11Invoice where
  bolt11 : String
  paymentHash : ByteArray
deriving DecidableEq

inductive PaymentKind where
  | onchain
  | bolt11 (hash : ByteArray)
  | bolt11Jit (hash : ByteArray)
  | bolt12Offer (hash : Option ByteArray)
  | bolt12Refund (hash : Option ByteArray)
  | spontaneous (hash : ByteArray)
deriving DecidableEq

inductive PaymentDirection where
  | inbound
  | outbound
deriving DecidableEq

inductive PaymentStatus where
  | pending
  | succeeded
  | failed
deriving DecidableEq

structure PaymentDetails where
  kind : PaymentKind
  direction : PaymentDirection
  status : PaymentStatus
deriving DecidableEq

structure BalanceDetails where
  spendableOnchainBalanceSats : UInt64
  totalOnchainBalanceSats : UInt64
  totalLightningBalanceSats : UInt64
deriving DecidableEq

structure NodePublicKey where
  text : String
deriving DecidableEq

structure SocketAddress where
  text : String
deriving DecidableEq

structure UncheckedAddress where
  text : String
deriving DecidableEq

structure Address where
  text : String
deriving DecidableEq

/-! ### Data of the admin interface -/

structure ConnectRequest where
  uri : String
deriving DecidableEq

structure SendOnchainRequest where
  address : String
  amountSats : UInt64
deriving DecidableEq

structure Lsps1OrderRequest where
  lspBalanceSat : UInt64
  channelExpiryBlocks : Option UInt32
deriving DecidableEq

/-- The bLIP-51 `create_order` body. -/
structure CreateOrderBody where
  publicKey : String
  lspBalanceSat : String
  clientBalanceSat : String
  requiredChannelConfirmations : UInt32
  fundingConfirmsWithinBlocks : UInt32
  channelExpiryBlocks : UInt32
  announceChannel : Bool
deriving DecidableEq

/-- What the LSPS1 provider answered: the status line, and the JSON value or why
    the body is not JSON. -/
structure Lsps1Response where
  status : String
  isSuccess : Bool
  json : Except String String

/-! ### Operations -/

inductive Op where
  -- sections under the store lock; reading sections see a snapshot of the store
  | lock
  | upsertProduct (record : ProductRecord)
  | createPurchase (paymentHash slug : String) (amountMsat createdAt : UInt64)
      (claimToken : String)
  | markPaid (paymentHash : String)
  -- artifact files
  | writeFile (path : String) (contents : ByteArray)
  | openFile (path : String)
  -- the Lightning node
  | nodeId
  | listChannels
  | listPeers
  | listPayments
  | listBalances
  | receive (amountMsat : UInt64) (description : InvoiceDescription) (expirySecs : UInt32)
  | receiveViaJitChannel (amountMsat : UInt64) (description : InvoiceDescription)
      (expirySecs : UInt32)
  | newAddress
  | sendToAddress (address : Address) (amountSats : UInt64)
  | connect (nodeId : NodePublicKey) (address : SocketAddress) (persist : Bool)
  | eventHandled
  -- the LSPS1 provider
  | lsps1Post (url : String) (body : CreateOrderBody)
  | lsps1Get (url : String)
  -- clock and randomness
  | nowSecs
  | fillRandom (length : Nat)
deriving DecidableEq

/-- The answer to each operation. For sections under the store lock, `none` is a
    poisoned lock; errors are carried as the text they are displayed with. -/
@[reducible] def Answer : Op → Type
  | .lock => Option Locked
  | .upsertProduct _ => Option (Except String Unit)
  | .createPurchase .. => Option (Except String Unit)
  | .markPaid _ => Option (Except String Bool)
  | .writeFile .. => Except String Unit
  | .openFile _ => Except String ByteArray
  | .nodeId => String
  | .listChannels => List ChannelDetails
  | .listPeers => List NodePublicKey
  | .listPayments => List PaymentDetails
  | .listBalances => BalanceDetails
  | .receive .. => Except String Bolt11Invoice
  | .receiveViaJitChannel .. => Except String Bolt11Invoice
  | .newAddress => Except String String
  | .sendToAddress .. => Except String String
  | .connect .. => Except String (Except String Unit)
  | .eventHandled => Except String Unit
  | .lsps1Post .. => Except String Lsps1Response
  | .lsps1Get _ => Except String Lsps1Response
  | .nowSecs => UInt64
  | .fillRandom _ => Except String ByteArray

abbrev DaemonCall := Call Answer

/-- A handler: a process over the daemon's operations. -/
abbrev Handler := Process Answer

@[reducible] def Op.perform (op : Op) : Handler (Answer op) := Base.perform op

namespace Effect

/-! Each operation as a handler, with its answer's type spelled out. -/

@[reducible] def lock : Handler (Option Locked) := Op.lock.perform

@[reducible] def upsertProduct (record : ProductRecord) :
    Handler (Option (Except String Unit)) := (Op.upsertProduct record).perform

@[reducible] def createPurchase (paymentHash slug : String) (amountMsat createdAt : UInt64)
    (claimToken : String) : Handler (Option (Except String Unit)) :=
  (Op.createPurchase paymentHash slug amountMsat createdAt claimToken).perform

@[reducible] def markPaid (paymentHash : String) : Handler (Option (Except String Bool)) :=
  (Op.markPaid paymentHash).perform

@[reducible] def writeFile (path : String) (contents : ByteArray) :
    Handler (Except String Unit) := (Op.writeFile path contents).perform

@[reducible] def openFile (path : String) : Handler (Except String ByteArray) :=
  (Op.openFile path).perform

@[reducible] def nodeId : Handler String := Op.nodeId.perform

@[reducible] def listChannels : Handler (List ChannelDetails) := Op.listChannels.perform

@[reducible] def listPeers : Handler (List NodePublicKey) := Op.listPeers.perform

@[reducible] def listPayments : Handler (List PaymentDetails) := Op.listPayments.perform

@[reducible] def listBalances : Handler BalanceDetails := Op.listBalances.perform

@[reducible] def receive (amountMsat : UInt64) (description : InvoiceDescription)
    (expirySecs : UInt32) : Handler (Except String Bolt11Invoice) :=
  (Op.receive amountMsat description expirySecs).perform

@[reducible] def receiveViaJitChannel (amountMsat : UInt64) (description : InvoiceDescription)
    (expirySecs : UInt32) : Handler (Except String Bolt11Invoice) :=
  (Op.receiveViaJitChannel amountMsat description expirySecs).perform

@[reducible] def newAddress : Handler (Except String String) := Op.newAddress.perform

@[reducible] def sendToAddress (address : Address) (amountSats : UInt64) :
    Handler (Except String String) := (Op.sendToAddress address amountSats).perform

/-- The outer error is a failed blocking task. -/
@[reducible] def connect (nodeId : NodePublicKey) (address : SocketAddress) (persist : Bool) :
    Handler (Except String (Except String Unit)) := (Op.connect nodeId address persist).perform

@[reducible] def eventHandled : Handler (Except String Unit) := Op.eventHandled.perform

@[reducible] def lsps1Post (url : String) (body : CreateOrderBody) :
    Handler (Except String Lsps1Response) := (Op.lsps1Post url body).perform

@[reducible] def lsps1Get (url : String) : Handler (Except String Lsps1Response) :=
  (Op.lsps1Get url).perform

@[reducible] def nowSecs : Handler UInt64 := Op.nowSecs.perform

@[reducible] def fillRandom (length : Nat) : Handler (Except String ByteArray) :=
  (Op.fillRandom length).perform

end Effect

/-! ### Functions of other crates -/

structure Crates extends SerdeJson, NostrCrates where
  sha256 : ByteArray → ByteArray
  hexEncode : ByteArray → String
  hexDecode : String → Option ByteArray
  /-- `lightning_invoice::Description::new`. -/
  descriptionNew : String → Option String
  /-- Whether `http` accepts a text as a header value. -/
  headerValueOk : String → Bool
  connectRequestFromSlice : ByteArray → Except String ConnectRequest
  sendOnchainRequestFromSlice : ByteArray → Except String SendOnchainRequest
  lsps1OrderRequestFromSlice : ByteArray → Except String Lsps1OrderRequest
  nodePublicKeyFromStr : String → Except String NodePublicKey
  socketAddressFromStr : String → Option SocketAddress
  addressFromStr : String → Except String UncheckedAddress
  requireNetwork : UncheckedAddress → Network → Option Address
  /-- `serde_json::Value::to_string` on an array of pairs of texts. -/
  jsonPairs : List (String × String) → String

/-! ### Responses -/

inductive StatusCode where
  | ok
  | created
  | badRequest
  | unauthorized
  | paymentRequired
  | notFound
  | internalServerError
  | badGateway
  | serviceUnavailable
deriving DecidableEq

structure ProductMeta where
  slug : String
  title : String
  priceSats : UInt64
  floorSats : Option UInt64
  format : String
  sizeBytes : UInt64
deriving DecidableEq

structure PurchaseInvoice where
  bolt11 : String
  paymentHash : String
  amountSats : UInt64
  expirySecs : UInt32
  claimToken : String
deriving DecidableEq

structure AdminBalance where
  spendableOnchainSats : UInt64
  totalOnchainSats : UInt64
  lightningSats : UInt64
  inboundCapacitySats : UInt64
  channels : Nat
deriving DecidableEq

structure PayRequest where
  callback : String
  minSendable : UInt64
  maxSendable : UInt64
  metadata : String
  commentAllowed : Nat
deriving DecidableEq

structure HealthResponse where
  artist : String
  nodeId : String
  network : String
  channels : Nat
  peers : Nat
deriving DecidableEq

inductive Response where
  /-- A status with an `error` message. -/
  | err (status : StatusCode) (error : String)
  | productCreated (slug : String)
  | product (productMeta : ProductMeta)
  | purchaseInvoice (invoice : PurchaseInvoice)
  | paid (paid : Bool)
  | artifact (contentLength : UInt64) (contentDisposition : String) (body : ByteArray)
  | address (address : String)
  | balance (balance : AdminBalance)
  | connected
  | txid (txid : String)
  | lsps1 (json : String)
  | payRequest (request : PayRequest)
  | lnurlInvoice (pr : String)
  | lnurlError (reason : String)
  | health (health : HealthResponse)
  | nodeInfo (nodeId artist : String)
  | invoice (bolt11 : String) (amountSats : UInt64) (expirySecs : UInt32)
  | invoiceError (error : String)
  /-- The event loop acknowledged an event, or stopped. -/
  | eventLoop (running : Bool)
deriving DecidableEq

def Response.status : Response → StatusCode
  | .err status _ => status
  | .productCreated _ => .created
  | _ => .ok

end ArtistNode
