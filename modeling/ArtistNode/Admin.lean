import ArtistNode.Gate

/-!
# The operator interface

`admin.rs`: funding addresses, balances, peer connections, on-chain sends and
LSPS1 orders. Each handler authorizes its request before anything else, with the
method and the path written out by hand.
-/

namespace ArtistNode

open Base

namespace Admin

structure AdminState where
  /-- Operator key authorized for admin actions. -/
  adminPubkey : Option PublicKey
  publicUrl : String
  network : Network
  /-- LSPS1 REST base. -/
  lsps1ApiUrl : Option String

def authUrl (st : AdminState) (path : String) : String :=
  Gate.trimSlashes st.publicUrl ++ path

/-- Verify the NIP-98 header of an admin request. The body hash is enforced
    whenever a body is present. -/
def authorize (lib : Crates) (st : AdminState) (authorization : Option String)
    (method path : String) (body : Option ByteArray) : Handler (Except Response Unit) :=
  match st.adminPubkey with
  | none =>
    return .error (.err .serviceUnavailable "Admin API disabled: ADMIN_PUBKEY not configured")
  | some adminPk =>
    match authorization with
    | none => return .error (.err .unauthorized "Missing Authorization header")
    | some auth => do
      let bodyHash := body.map fun b => lib.hexEncode (lib.sha256 b)
      let now ← Effect.nowSecs
      match Nip98.verify lib.toNostrCrates auth method (authUrl st path) bodyHash adminPk
          now with
      | .error e => return .error (.err .unauthorized s!"NIP-98: {e}")
      | .ok _ => return .ok ()

/-- Parse `pubkey@host:port`. -/
def parseNodeUri (lib : Crates) (uri : String) :
    Except String (NodePublicKey × SocketAddress) :=
  match splitOnce '@' uri with
  | none => .error "Node URI must be pubkey@host:port"
  | some (pk, addr) =>
    match lib.nodePublicKeyFromStr pk with
    | .error e => .error s!"Invalid pubkey: {e}"
    | .ok nodeId =>
      match lib.socketAddressFromStr addr with
      | none => .error s!"Invalid address: {addr}"
      | some address => .ok (nodeId, address)

/-- Build the bLIP-51 `create_order` request body. -/
def buildCreateOrderBody (nodeId : String) (lspBalanceSat : UInt64)
    (channelExpiryBlocks : UInt32) : CreateOrderBody where
  publicKey := nodeId
  lspBalanceSat := toString lspBalanceSat
  clientBalanceSat := "0"
  requiredChannelConfirmations := 0
  fundingConfirmsWithinBlocks := 6
  channelExpiryBlocks := channelExpiryBlocks
  announceChannel := false

/-! ### Handlers -/

def getAddress (lib : Crates) (st : AdminState) (authorization : Option String) :
    Handler Response := do
  match ← authorize lib st authorization "GET" "/admin/address" none with
  | .error resp => return resp
  | .ok () =>
    match ← Effect.newAddress with
    | .ok addr => return .address addr
    | .error e => return .err .internalServerError e

def getBalance (lib : Crates) (st : AdminState) (authorization : Option String) :
    Handler Response := do
  match ← authorize lib st authorization "GET" "/admin/balance" none with
  | .error resp => return resp
  | .ok () =>
    let b ← Effect.listBalances
    let channels ← Effect.listChannels
    let inbound := Gate.inboundMsat channels
    let channelsNow ← Effect.listChannels
    return .balance ⟨b.spendableOnchainBalanceSats, b.totalOnchainBalanceSats,
      b.totalLightningBalanceSats, inbound / 1000, channelsNow.length⟩

def postConnect (lib : Crates) (st : AdminState) (authorization : Option String)
    (body : ByteArray) : Handler Response := do
  match ← authorize lib st authorization "POST" "/admin/connect" (some body) with
  | .error resp => return resp
  | .ok () =>
    match lib.connectRequestFromSlice body with
    | .error e => return .err .badRequest s!"Invalid body: {e}"
    | .ok req =>
      match parseNodeUri lib req.uri with
      | .error e => return .err .badRequest e
      | .ok (nodeId, address) =>
        match ← Effect.connect nodeId address true with
        | .ok (.ok ()) => return .connected
        | .ok (.error e) => return .err .badGateway s!"Connect failed: {e}"
        | .error e => return .err .internalServerError s!"Task failed: {e}"

/-- Parse an address and require it to belong to the node's network. -/
def checkedAddress (lib : Crates) (network : Network) (text : String) :
    Except String Address :=
  match lib.addressFromStr text with
  | .error e => .error s!"Invalid address: {e}"
  | .ok a =>
    match lib.requireNetwork a network with
    | none => .error s!"Address is not valid for {network.name}"
    | some address => .ok address

def postSendOnchain (lib : Crates) (st : AdminState) (authorization : Option String)
    (body : ByteArray) : Handler Response := do
  match ← authorize lib st authorization "POST" "/admin/send-onchain" (some body) with
  | .error resp => return resp
  | .ok () =>
    match lib.sendOnchainRequestFromSlice body with
    | .error e => return .err .badRequest s!"Invalid body: {e}"
    | .ok req =>
      match checkedAddress lib st.network req.address with
      | .error e => return .err .badRequest e
      | .ok address =>
        match ← Effect.sendToAddress address req.amountSats with
        | .ok txid => return .txid txid
        | .error e => return .err .internalServerError s!"Send failed: {e}"

def createOrderUrl (api : String) : String := Gate.trimSlashes api ++ "/create_order"

/-- Create an LSPS1 order with the configured provider and return its raw JSON. -/
def postLsps1Order (lib : Crates) (st : AdminState) (authorization : Option String)
    (body : ByteArray) : Handler Response := do
  match ← authorize lib st authorization "POST" "/admin/lsps1-order" (some body) with
  | .error resp => return resp
  | .ok () =>
    match st.lsps1ApiUrl with
    | none => return .err .serviceUnavailable "LSPS1_API_URL not configured"
    | some api =>
      match lib.lsps1OrderRequestFromSlice body with
      | .error e => return .err .badRequest s!"Invalid body: {e}"
      | .ok req =>
        let nodeId ← Effect.nodeId
        let orderBody := buildCreateOrderBody nodeId req.lspBalanceSat
          (req.channelExpiryBlocks.getD 13000)
        match ← Effect.lsps1Post (createOrderUrl api) orderBody with
        | .error e => return .err .badGateway s!"LSPS1 unreachable: {e}"
        | .ok resp =>
          match resp.json with
          | .error e => return .err .badGateway s!"LSPS1 bad response: {e}"
          | .ok json =>
            if !resp.isSuccess then
              return .err .badGateway s!"LSPS1 create_order {resp.status}: {json}"
            else return .lsps1 json

def getOrderUrl (api orderId : String) : String :=
  Gate.trimSlashes api ++ "/get_order?order_id=" ++ orderId

/-- Fetch an order's status from the LSPS1 provider. -/
def getLsps1Order (lib : Crates) (st : AdminState) (orderId : String)
    (authorization : Option String) : Handler Response := do
  let path := "/admin/lsps1-order/" ++ orderId
  match ← authorize lib st authorization "GET" path none with
  | .error resp => return resp
  | .ok () =>
    match st.lsps1ApiUrl with
    | none => return .err .serviceUnavailable "LSPS1_API_URL not configured"
    | some api =>
      match ← Effect.lsps1Get (getOrderUrl api orderId) with
      | .error e => return .err .badGateway s!"LSPS1 unreachable: {e}"
      | .ok resp =>
        match resp.json with
        | .ok json =>
          if resp.isSuccess then return .lsps1 json
          else return .err .badGateway s!"LSPS1 get_order {resp.status}: {json}"
        | .error e => return .err .badGateway s!"LSPS1 bad response: {e}"

end Admin

end ArtistNode
