import ArtistNode.Base.Text
import Mathlib.Data.Finmap
import Mathlib.Logic.Function.Basic

/-!
# The product registry and the purchase ledger

`store.rs`: two hash maps, kept in memory and written to `index.json` after each
change. The maps are finite maps up to the order of their entries; where the
iteration order of a Rust `HashMap` shows, it is an argument. The file system is
a function from paths to contents, and what it does to one call is an argument
as well.
-/

namespace ArtistNode

open Base

structure ProductRecord where
  slug : String
  title : String
  priceSats : UInt64
  /-- `some _` is name-your-price with this minimum. -/
  floorSats : Option UInt64
  format : String
  /-- File name inside the products directory. -/
  fileName : String
  sizeBytes : UInt64
deriving DecidableEq

structure PurchaseRecord where
  /-- Hex payment hash of the invoice issued for this purchase. -/
  paymentHash : String
  slug : String
  amountMsat : UInt64
  paid : Bool
  createdAt : UInt64
  /-- Session secret of the invoice requester; absent on old records. -/
  claimToken : Option String
deriving DecidableEq

structure Persisted where
  products : Finmap fun _ : String => ProductRecord
  purchases : Finmap fun _ : String => PurchaseRecord
deriving DecidableEq

instance : Inhabited Persisted := ⟨∅, ∅⟩

/-! ### Files -/

/-- The file system as the daemon sees it: the contents of each path. -/
abbrev Files := String → Option ByteArray

/-- `Path::join` on Unix. -/
def joinPath (dir name : String) : String :=
  if name.toList.head? = some '/' then name
  else if dir.toList = [] ∨ dir.toList.getLast? = some '/' then dir ++ name
  else dir ++ "/" ++ name

def Files.write (files : Files) (path : String) (contents : ByteArray) : Files :=
  Function.update files path (some contents)

/-- `rename(2)`: the target is replaced and the source name is gone. -/
def Files.rename (files : Files) (source target : String) : Files :=
  Function.update (Function.update files target (files source)) source none

/-! ### Serialization -/

/-- `serde_json` on the persisted state. The text depends on the order in which
    the two hash maps happen to be iterated. -/
structure SerdeJson where
  toStringPretty : (order : Nat) → Persisted → Except String String
  fromStr : String → Except String Persisted

/-- `serde_json` decodes what it encoded. -/
def SerdeJson.Lossless (json : SerdeJson) : Prop :=
  ∀ order state raw, json.toStringPretty order state = .ok raw → json.fromStr raw = .ok state

/-! ### Opening and persisting -/

structure Store where
  dir : String
  state : Persisted
deriving DecidableEq

def Store.indexPath (s : Store) : String := joinPath s.dir "index.json"

def Store.tmpPath (s : Store) : String := joinPath s.dir "index.json.tmp"

/-- How opening the store can fail outside the daemon's control. -/
inductive OpenFault where
  | createDir (e : String)
  | read (e : String)

/-- `Store::open`. -/
def Store.open (json : SerdeJson) (fault : Option OpenFault) (files : Files)
    (dataDir : String) : Except String Store :=
  let dir := joinPath dataDir "products"
  match fault with
  | some (.createDir e) => .error s!"Failed to create products dir: {e}"
  | _ =>
    match files (joinPath dir "index.json") with
    | none => .ok ⟨dir, default⟩
    | some contents =>
      match fault, String.fromUTF8? contents with
      | some (.read e), _ => .error s!"Failed to read product index: {e}"
      | _, none => .error "Failed to read product index: stream did not contain valid UTF-8"
      | _, some raw =>
        match json.fromStr raw with
        | .error e => .error s!"Corrupt product index: {e}"
        | .ok state => .ok ⟨dir, state⟩

/-- How `persist` can fail after serialization: the temporary file cannot be
    opened, the write stops after `written` bytes, or the rename is refused. -/
inductive PersistFault where
  | create (e : String)
  | write (written : Nat) (e : String)
  | rename (e : String)

/-- What the outside contributes to one call of `persist`. -/
structure PersistIo where
  order : Nat
  fault : Option PersistFault

/-- `Store::persist`: the result and the files afterwards. -/
def Store.persist (json : SerdeJson) (io : PersistIo) (s : Store) (files : Files) :
    Except String Unit × Files :=
  match json.toStringPretty io.order s.state with
  | .error e => (.error s!"Failed to serialize product index: {e}", files)
  | .ok raw =>
    match io.fault with
    | some (.create e) => (.error s!"Failed to write index: {e}", files)
    | some (.write written e) =>
      (.error s!"Failed to write index: {e}",
        files.write s.tmpPath (raw.toUTF8.extract 0 written))
    | some (.rename e) =>
      (.error s!"Failed to commit index: {e}", files.write s.tmpPath raw.toUTF8)
    | none => (.ok (), (files.write s.tmpPath raw.toUTF8).rename s.tmpPath s.indexPath)

/-! ### Queries -/

def Store.artifactPath (s : Store) (product : ProductRecord) : String :=
  joinPath s.dir product.fileName

def Store.getProduct (s : Store) (slug : String) : Option ProductRecord :=
  s.state.products.lookup slug

def Store.getPurchase (s : Store) (paymentHash : String) : Option PurchaseRecord :=
  s.state.purchases.lookup paymentHash

/-- A locked store, with the order in which `purchases.values()` iterates. -/
structure Locked where
  store : Store
  values : List PurchaseRecord
  values_eq : (values : Multiset PurchaseRecord) = store.state.purchases.entries.map Sigma.snd

/-- Look up a purchase by its claim token (web-buyer path). -/
def Locked.getPurchaseByClaim (l : Locked) (claimToken : String) : Option PurchaseRecord :=
  l.values.find? fun p => p.claimToken == some claimToken

/-! ### Mutators -/

def Persisted.upsertProduct (state : Persisted) (record : ProductRecord) : Persisted :=
  { state with products := state.products.insert record.slug record }

/-- `Store::upsert_product`. -/
def Store.upsertProduct (json : SerdeJson) (io : PersistIo) (s : Store) (files : Files)
    (record : ProductRecord) : Except String Unit × Store × Files :=
  let s := { s with state := s.state.upsertProduct record }
  let (result, files) := s.persist json io files
  (result, s, files)

def newPurchase (paymentHash slug : String) (amountMsat createdAt : UInt64)
    (claimToken : String) : PurchaseRecord where
  paymentHash := paymentHash
  slug := slug
  amountMsat := amountMsat
  paid := false
  createdAt := createdAt
  claimToken := some claimToken

def Persisted.createPurchase (state : Persisted) (p : PurchaseRecord) : Persisted :=
  { state with purchases := state.purchases.insert p.paymentHash p }

/-- `Store::create_purchase`. -/
def Store.createPurchase (json : SerdeJson) (io : PersistIo) (s : Store) (files : Files)
    (paymentHash slug : String) (amountMsat createdAt : UInt64) (claimToken : String) :
    Except String Unit × Store × Files :=
  let p := newPurchase paymentHash slug amountMsat createdAt claimToken
  let s := { s with state := s.state.createPurchase p }
  let (result, files) := s.persist json io files
  (result, s, files)

def Persisted.setPaid (state : Persisted) (paymentHash : String) (p : PurchaseRecord) :
    Persisted :=
  { state with purchases := state.purchases.insert paymentHash { p with paid := true } }

/-- `Store::mark_paid`: returns whether a purchase matched. -/
def Store.markPaid (json : SerdeJson) (io : PersistIo) (s : Store) (files : Files)
    (paymentHash : String) : Except String Bool × Store × Files :=
  match s.state.purchases.lookup paymentHash with
  | some p =>
    if !p.paid then
      let s := { s with state := s.state.setPaid paymentHash p }
      match s.persist json io files with
      | (.error e, files) => (.error e, s, files)
      | (.ok (), files) => (.ok true, s, files)
    else (.ok true, s, files)
  | none => (.ok false, s, files)

/-! ### Validation -/

/-- `valid_slug`: rejects anything that could traverse paths. -/
def validSlug (slug : String) : Bool :=
  slug ≠ "" && slug.utf8ByteSize ≤ 128 &&
    slug.toList.all fun c => c.isLower || c.isDigit || c == '-'

/-- `valid_format`. -/
def validFormat (format : String) : Bool :=
  ["flac", "wav", "aiff", "alac", "mp3", "ogg", "m4a", "aac", "opus", "zip"].contains format

end ArtistNode
