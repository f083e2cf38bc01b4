import ArtistNode.Admin
import ArtistNode.Base.Pool
import ArtistNode.Lnurl

/-!
# The daemon

`main.rs`: the router, the event loop and the state that all handlers share. The
daemon is a pool of handlers; a section under the store lock is one atomic
operation. A crash in the middle of a write is the same write failing part-way,
followed by a restart before any thread moves on.
-/

namespace ArtistNode

open Base

/-- What `main` resolves from the configuration before it serves requests. -/
structure Daemon where
  lib : Crates
  dataDir : String
  artistName : String
  artistPubkey : Option PublicKey
  adminPubkey : Option PublicKey
  publicUrl : String
  network : Network
  lsps1ApiUrl : Option String
  lnurlAddress : String

namespace Daemon

def gateState (d : Daemon) : Gate.GateState := ⟨d.artistName, d.artistPubkey, d.publicUrl⟩

def adminState (d : Daemon) : Admin.AdminState :=
  ⟨d.adminPubkey, d.publicUrl, d.network, d.lsps1ApiUrl⟩

def lnurlState (d : Daemon) : Lnurl.LnurlState := ⟨d.artistName, d.lnurlAddress, d.publicUrl⟩

def appState (d : Daemon) : App.AppState := ⟨d.artistName, d.network⟩

end Daemon

/-! ### Jobs -/

/-- What a thread of the daemon works on: one HTTP request, or one
    `PaymentReceived` event. -/
inductive Job where
  | putProduct (slug : String) (params : Gate.UploadParams) (authorization : Option String)
      (body : ByteArray)
  | getProduct (slug : String)
  | postInvoice (slug : String) (body : Option Gate.InvoiceRequest)
  | getStatus (slug claim : String)
  | getDownload (slug : String) (params : Gate.DownloadParams)
  | getAddress (authorization : Option String)
  | getBalance (authorization : Option String)
  | postConnect (authorization : Option String) (body : ByteArray)
  | postSendOnchain (authorization : Option String) (body : ByteArray)
  | postLsps1Order (authorization : Option String) (body : ByteArray)
  | getLsps1Order (orderId : String) (authorization : Option String)
  | lnurlp (name : String) (params : Lnurl.CallbackParams)
  | health
  | getNodeId
  | createInvoice (amountSats : Option UInt64)
  | paymentReceived (paymentHash : ByteArray)
deriving DecidableEq

/-- The router of `main`: the method and the path, below `PUBLIC_URL`, of the request
    that reaches each handler. -/
def Job.route : Job → Option (String × String)
  | .putProduct slug .. => some ("PUT", "/products/" ++ slug)
  | .getProduct slug => some ("GET", "/products/" ++ slug)
  | .postInvoice slug _ => some ("POST", "/products/" ++ slug ++ "/invoice")
  | .getStatus slug _ => some ("GET", "/products/" ++ slug ++ "/status")
  | .getDownload slug _ => some ("GET", "/products/" ++ slug ++ "/download")
  | .getAddress _ => some ("GET", "/admin/address")
  | .getBalance _ => some ("GET", "/admin/balance")
  | .postConnect .. => some ("POST", "/admin/connect")
  | .postSendOnchain .. => some ("POST", "/admin/send-onchain")
  | .postLsps1Order .. => some ("POST", "/admin/lsps1-order")
  | .getLsps1Order orderId _ => some ("GET", "/admin/lsps1-order/" ++ orderId)
  | .lnurlp name _ => some ("GET", "/.well-known/lnurlp/" ++ name)
  | .health => some ("GET", "/health")
  | .getNodeId => some ("GET", "/node-id")
  | .createInvoice _ => some ("GET", "/invoice")
  | .paymentReceived _ => none

/-- The `PaymentReceived` arm of `run_event_loop`: settle any pending purchase
    carrying this hash, log, and acknowledge the event whatever came of it. -/
def onPaymentReceived (lib : Crates) (paymentHash : ByteArray) : Handler Response := do
  let _ ← Effect.markPaid (lib.hexEncode paymentHash)
  match ← Effect.eventHandled with
  | .ok () => return .eventLoop true
  | .error _ => return .eventLoop false

def handle (d : Daemon) : Job → Handler Response
  | .putProduct slug params auth body => Gate.putProduct d.lib d.gateState slug params auth body
  | .getProduct slug => Gate.getProduct slug
  | .postInvoice slug body => Gate.postInvoice d.lib d.gateState slug body
  | .getStatus slug claim => Gate.getStatus d.lib slug claim
  | .getDownload slug params => Gate.getDownload d.lib slug params
  | .getAddress auth => Admin.getAddress d.lib d.adminState auth
  | .getBalance auth => Admin.getBalance d.lib d.adminState auth
  | .postConnect auth body => Admin.postConnect d.lib d.adminState auth body
  | .postSendOnchain auth body => Admin.postSendOnchain d.lib d.adminState auth body
  | .postLsps1Order auth body => Admin.postLsps1Order d.lib d.adminState auth body
  | .getLsps1Order orderId auth => Admin.getLsps1Order d.lib d.adminState orderId auth
  | .lnurlp name params => Lnurl.lnurlp d.lib d.lnurlState name params
  | .health => App.health d.appState
  | .getNodeId => App.getNodeId d.appState
  | .createInvoice amountSats => App.createInvoice d.lib d.appState amountSats
  | .paymentReceived paymentHash => onPaymentReceived d.lib paymentHash

/-! ### The shared state -/

structure Shared where
  store : Store
  files : Files
  /-- A thread panicked while it held the store lock. -/
  poisoned : Bool
  /-- The node's payment store. -/
  payments : List PaymentDetails

/-- A mutating section under the store lock. -/
def Shared.section {β : Type} (s : Shared)
    (run : PersistIo → Except String β × Store × Files) (ans : Option (Except String β))
    (s' : Shared) : Prop :=
  (s.poisoned = true ∧ ans = none ∧ s' = s) ∨
    s.poisoned = false ∧ ∃ io, ans = some (run io).1 ∧
      s' = { s with store := (run io).2.1, files := (run io).2.2 }

/-- The atomic effect of each operation on the shared state. Operations that do
    not read it may answer anything. A write to a file is one step, which may end
    part-way: two writes to one file come one after the other. -/
def act (d : Daemon) (s : Shared) : (op : Op) → Answer op → Shared → Prop
  | .lock, ans, s' => s' = s ∧
      ((s.poisoned = true ∧ ans = none) ∨
        s.poisoned = false ∧ ∃ l, ans = some l ∧ l.store = s.store)
  | .upsertProduct record, ans, s' =>
      s.section (fun io => s.store.upsertProduct d.lib.toSerdeJson io s.files record) ans s'
  | .createPurchase paymentHash slug amountMsat createdAt claimToken, ans, s' =>
      s.section (fun io => s.store.createPurchase d.lib.toSerdeJson io s.files paymentHash slug
        amountMsat createdAt claimToken) ans s'
  | .markPaid paymentHash, ans, s' =>
      s.section (fun io => s.store.markPaid d.lib.toSerdeJson io s.files paymentHash) ans s'
  | .writeFile path contents, ans, s' =>
      (ans = .ok () ∧ s' = { s with files := s.files.write path contents }) ∨
        ∃ e, ans = .error e ∧
          (s' = s ∨ ∃ written, s' =
            { s with files := s.files.write path (contents.extract 0 written) })
  | .openFile path, ans, s' => s' = s ∧ ∀ contents, ans = .ok contents →
      s.files path = some contents
  | .listPayments, ans, s' => s' = s ∧ ans = s.payments
  | _, _, s' => s' = s

/-- Steps of the environment: the node's payment store changes, or the store lock
    is poisoned. -/
inductive EnvEvent where
  | payments (payments : List PaymentDetails)
  | poison

def envStep (s : Shared) : EnvEvent → Shared → Prop
  | .payments payments, s' => s' = { s with payments := payments }
  | .poison, s' => s' = { s with poisoned := true }

/-- The process comes up on the index it finds. -/
def reopened (d : Daemon) (s s' : Shared) : Prop :=
  ∃ store, Store.open d.lib.toSerdeJson none s.files d.dataDir = .ok store ∧
    s' = { s with store := store, poisoned := false }

/-- The daemon as a pool of handlers. -/
def system (d : Daemon) : System Answer Job Response Shared EnvEvent where
  program := handle d
  act := act d
  env := envStep
  restart := reopened d

abbrev DaemonWorld := World Answer Job Response Shared

abbrev DaemonLabel := Label Answer Job Response EnvEvent

/-- The daemon has just opened its store. -/
def Opened (d : Daemon) (s : Shared) : Prop :=
  Store.open d.lib.toSerdeJson none s.files d.dataDir = .ok s.store ∧ s.poisoned = false

/-- `DaemonRun d s τ w`: from the freshly opened state `s`, the trace `τ` leads to
    the world `w`. -/
abbrev DaemonRun (d : Daemon) (s : Shared) (τ : List DaemonLabel) (w : DaemonWorld) : Prop :=
  Run (system d) (World.initial s) τ w

end ArtistNode
