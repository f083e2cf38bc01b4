import ArtistNode.Store

/-!
# What the store keeps across a reopening

A mutator changes memory first and then commits the whole state by writing a
temporary file and renaming it over `index.json`. The lemmas of the first two
sections say what one call of `persist` leaves behind; the two main results say
when a success is durable and when a failure leaves no trace in memory.
-/

namespace ArtistNode

open Base

/-! ### Paths and files -/

theorem joinPath_inj {dir a b : String} (ha : a.toList.head? ≠ some '/')
    (hb : b.toList.head? ≠ some '/') : joinPath dir a = joinPath dir b ↔ a = b := by
  unfold joinPath
  rw [if_neg ha, if_neg hb]
  split <;> simp

theorem Store.tmpPath_ne_indexPath (s : Store) : s.tmpPath ≠ s.indexPath := by
  unfold Store.tmpPath Store.indexPath
  rw [Ne, joinPath_inj (by decide) (by decide)]
  decide

@[simp] theorem Files.write_same (files : Files) (path : String) (contents : ByteArray) :
    files.write path contents path = some contents := by
  simp [Files.write]

theorem Files.write_other {files : Files} {path path' : String} {contents : ByteArray}
    (h : path' ≠ path) : files.write path contents path' = files path' := by
  simp [Files.write, Function.update_of_ne h]

theorem Files.rename_target {files : Files} {source target : String} (h : source ≠ target) :
    files.rename source target target = files source := by
  simp [Files.rename, Function.update_of_ne h.symm]

theorem Files.rename_other {files : Files} {source target path : String} (hs : path ≠ source)
    (ht : path ≠ target) : files.rename source target path = files path := by
  simp [Files.rename, Function.update_of_ne hs, Function.update_of_ne ht]

/-! ### One call of `persist` -/

section Calls

variable {json : SerdeJson} {io : PersistIo} {s : Store} {files : Files} {dataDir : String}

theorem Store.persist_ok (h : (s.persist json io files).1 = .ok ()) :
    ∃ raw, json.toStringPretty io.order s.state = .ok raw ∧
      (s.persist json io files).2 =
        (files.write s.tmpPath raw.toUTF8).rename s.tmpPath s.indexPath := by
  unfold Store.persist at h ⊢
  cases hraw : json.toStringPretty io.order s.state with
  | error e => simp [hraw] at h
  | ok raw =>
    simp only [hraw] at h ⊢
    refine ⟨raw, rfl, ?_⟩
    rcases hf : io.fault with _ | (e | ⟨written, e⟩ | e)
    · rfl
    all_goals simp [hf] at h

/-- A failed `persist` leaves the index as it was. -/
theorem Store.persist_error {e : String} (h : (s.persist json io files).1 = .error e) :
    (s.persist json io files).2 s.indexPath = files s.indexPath := by
  have hne := s.tmpPath_ne_indexPath.symm
  unfold Store.persist at h ⊢
  cases hraw : json.toStringPretty io.order s.state with
  | error e' => rfl
  | ok raw =>
    simp only [hraw] at h ⊢
    rcases hf : io.fault with _ | (e' | ⟨written, e'⟩ | e')
    · simp [hf] at h
    · rfl
    · exact Files.write_other hne
    · exact Files.write_other hne

/-- `persist` touches no file but the index and its temporary file. -/
theorem Store.persist_other {path : String} (ht : path ≠ s.tmpPath) (hi : path ≠ s.indexPath) :
    (s.persist json io files).2 path = files path := by
  unfold Store.persist
  cases json.toStringPretty io.order s.state with
  | error e => rfl
  | ok raw =>
    rcases io.fault with _ | (e | ⟨written, e⟩ | e)
    · exact (Files.rename_other ht hi).trans (Files.write_other ht)
    · rfl
    · exact Files.write_other ht
    · exact Files.write_other ht

/-- Opening reads nothing but the index. -/
theorem Store.open_congr {files' : Files}
    (h : files' (joinPath (joinPath dataDir "products") "index.json") =
      files (joinPath (joinPath dataDir "products") "index.json")) :
    Store.open json none files' dataDir = Store.open json none files dataDir := by
  unfold Store.open
  simp only [h]

theorem Store.open_dir (h : Store.open json none files dataDir = .ok s) :
    s.dir = joinPath dataDir "products" := by
  unfold Store.open at h
  simp only at h
  split at h
  · cases h
    rfl
  · split at h
    · contradiction
    · cases h
    · split at h
      · cases h
      · cases h
        rfl

theorem Store.open_of_index {raw : String} {state : Persisted}
    (hindex : files (joinPath (joinPath dataDir "products") "index.json") = some raw.toUTF8)
    (hjson : json.fromStr raw = .ok state) :
    Store.open json none files dataDir = .ok ⟨joinPath dataDir "products", state⟩ := by
  unfold Store.open
  simp only [hindex, fromUTF8_toUTF8, hjson]

/-- After a successful `persist`, reopening yields the state in memory. -/
theorem Store.open_persist_ok (hjson : json.Lossless)
    (hdir : s.dir = joinPath dataDir "products")
    (h : (s.persist json io files).1 = .ok ()) :
    Store.open json none (s.persist json io files).2 dataDir = .ok s := by
  obtain ⟨raw, hraw, hfiles⟩ := Store.persist_ok h
  have hindex : (s.persist json io files).2 s.indexPath = some raw.toUTF8 := by
    rw [hfiles, Files.rename_target s.tmpPath_ne_indexPath, Files.write_same]
  rw [Store.indexPath, hdir] at hindex
  rw [Store.open_of_index hindex (hjson _ _ _ hraw), ← hdir]

/-- After a failed `persist`, reopening yields what it did before. -/
theorem Store.open_persist_error {e : String} (hdir : s.dir = joinPath dataDir "products")
    (h : (s.persist json io files).1 = .error e) :
    Store.open json none (s.persist json io files).2 dataDir =
      Store.open json none files dataDir := by
  apply Store.open_congr
  have hindex := Store.persist_error h
  rwa [Store.indexPath, hdir] at hindex

/-! ### The mutators as one family -/

/-- A call of one of the three mutators. -/
inductive Mutation where
  | upsertProduct (record : ProductRecord)
  | createPurchase (paymentHash slug : String) (amountMsat createdAt : UInt64)
      (claimToken : String)
  | markPaid (paymentHash : String)
deriving DecidableEq

namespace Mutation

/-- What a call changes in memory before it persists; `none` when it returns
    without persisting. -/
def change (state : Persisted) : Mutation → Option Persisted
  | .upsertProduct record => some (state.upsertProduct record)
  | .createPurchase paymentHash slug amountMsat createdAt claimToken =>
    some (state.createPurchase (newPurchase paymentHash slug amountMsat createdAt claimToken))
  | .markPaid paymentHash =>
    match state.purchases.lookup paymentHash with
    | some p => if p.paid then none else some (state.setPaid paymentHash p)
    | none => none

/-- The answer of a call that returns without persisting. -/
def found (state : Persisted) : Mutation → Bool
  | .markPaid paymentHash => (state.purchases.lookup paymentHash).isSome
  | _ => true

/-- The call itself. `Ok(())` counts as `Ok(true)`. -/
def run (json : SerdeJson) (io : PersistIo) (s : Store) (files : Files) :
    Mutation → Except String Bool × Store × Files
  | .upsertProduct record =>
    let r := s.upsertProduct json io files record
    (r.1.map fun _ => true, r.2)
  | .createPurchase paymentHash slug amountMsat createdAt claimToken =>
    let r := s.createPurchase json io files paymentHash slug amountMsat createdAt claimToken
    (r.1.map fun _ => true, r.2)
  | .markPaid paymentHash => s.markPaid json io files paymentHash

/-- Every mutator either returns at once or changes memory and then persists all
    of it, and answers as `persist` does. -/
theorem run_cases (json : SerdeJson) (io : PersistIo) (s : Store) (files : Files)
    (m : Mutation) :
    (m.change s.state = none ∧ m.run json io s files = (.ok (m.found s.state), s, files)) ∨
      ∃ state, m.change s.state = some state ∧
        m.run json io s files =
          ((({ s with state := state } : Store).persist json io files).1.map fun _ => true,
            { s with state := state },
            (({ s with state := state } : Store).persist json io files).2) := by
  cases m with
  | upsertProduct record => exact Or.inr ⟨_, rfl, rfl⟩
  | createPurchase paymentHash slug amountMsat createdAt claimToken => exact Or.inr ⟨_, rfl, rfl⟩
  | markPaid paymentHash =>
    simp only [change, run, found, Store.markPaid]
    rcases hp : s.state.purchases.lookup paymentHash with _ | p
    · exact Or.inl ⟨rfl, by simp⟩
    · rcases hpaid : p.paid with _ | _
      · refine Or.inr ⟨s.state.setPaid paymentHash p, by simp [hpaid], ?_⟩
        simp only [hpaid, Bool.not_false, if_true]
        rcases hr : ({ s with state := s.state.setPaid paymentHash p } : Store).persist json io
          files with ⟨_ | ⟨⟨⟩⟩, files'⟩ <;> rfl
      · exact Or.inl ⟨by simp [hpaid], by simp [hpaid]⟩

theorem change_markPaid_eq_none {state : Persisted} {paymentHash : String}
    (h : (Mutation.markPaid paymentHash).change state = none) :
    ∀ p, state.purchases.lookup paymentHash = some p → p.paid = true := by
  intro p hp
  by_contra hpaid
  simp [change, hp, hpaid] at h

theorem run_dir (json : SerdeJson) (io : PersistIo) (s : Store) (files : Files)
    (m : Mutation) : (m.run json io s files).2.1.dir = s.dir := by
  rcases m.run_cases json io s files with ⟨-, hrun⟩ | ⟨state, -, hrun⟩ <;> rw [hrun]

/-- A call touches no file but the index and its temporary file. -/
theorem run_other (json : SerdeJson) (io : PersistIo) (s : Store) (files : Files) (m : Mutation)
    {path : String} (ht : path ≠ s.tmpPath) (hi : path ≠ s.indexPath) :
    (m.run json io s files).2.2 path = files path := by
  rcases m.run_cases json io s files with ⟨-, hrun⟩ | ⟨state, -, hrun⟩
  · rw [hrun]
  · rw [hrun]
    exact Store.persist_other (s := { s with state := state }) ht hi

/-- A successful call that persisted: what was changed, and what a reopening
    finds. -/
theorem open_run_ok {json : SerdeJson} {io : PersistIo} {s : Store} {files : Files}
    {dataDir : String} {m : Mutation} {state : Persisted} {b : Bool} (hjson : json.Lossless)
    (hdir : s.dir = joinPath dataDir "products") (hchange : m.change s.state = some state)
    (hok : (m.run json io s files).1 = .ok b) :
    (m.run json io s files).2.1 = { s with state := state } ∧
      Store.open json none (m.run json io s files).2.2 dataDir = .ok { s with state := state } := by
  rcases m.run_cases json io s files with ⟨hnone, -⟩ | ⟨state', hsome, hrun⟩
  · rw [hchange] at hnone
    cases hnone
  · rw [hchange] at hsome
    obtain rfl := Option.some.inj hsome
    rw [hrun] at hok ⊢
    refine ⟨rfl, Store.open_persist_ok hjson hdir ?_⟩
    rcases hp : (({ s with state := state } : Store).persist json io files).1 with e | ⟨⟩
    · simp [hp, Except.map] at hok
    · rfl

/-- A failed call changed memory and left what a reopening finds. -/
theorem open_run_error {json : SerdeJson} {io : PersistIo} {s : Store} {files : Files}
    {dataDir e : String} {m : Mutation} (hdir : s.dir = joinPath dataDir "products")
    (herr : (m.run json io s files).1 = .error e) :
    (∃ state, m.change s.state = some state ∧
      (m.run json io s files).2.1 = { s with state := state }) ∧
      Store.open json none (m.run json io s files).2.2 dataDir =
        Store.open json none files dataDir := by
  rcases m.run_cases json io s files with ⟨-, hrun⟩ | ⟨state, hsome, hrun⟩
  · rw [hrun] at herr
    cases herr
  · rw [hrun] at herr ⊢
    refine ⟨⟨state, hsome, rfl⟩, ?_⟩
    rcases hp : (({ s with state := state } : Store).persist json io files).1 with e' | ⟨⟩
    · exact Store.open_persist_error hdir hp
    · simp [hp, Except.map] at herr

end Mutation

/-! ### When success is durable -/

/-- A store in use: memory, the files, and the state of the last commit. -/
structure Session where
  store : Store
  files : Files
  committed : Persisted

namespace Session

def opened (s : Store) (files : Files) : Session := ⟨s, files, s.state⟩

def call (json : SerdeJson) (σ : Session) (c : Mutation × PersistIo) : Session :=
  let r := c.1.run json c.2 σ.store σ.files
  { store := r.2.1
    files := r.2.2
    committed :=
      if (c.1.change σ.store.state).isSome && r.1.isOk then r.2.1.state else σ.committed }

def run (json : SerdeJson) (σ : Session) (calls : List (Mutation × PersistIo)) : Session :=
  calls.foldl (call json) σ

/-- Reopening finds the state of the last commit. -/
structure Sound (json : SerdeJson) (dataDir : String) (σ : Session) : Prop where
  dir : σ.store.dir = joinPath dataDir "products"
  reopens : Store.open json none σ.files dataDir = .ok ⟨σ.store.dir, σ.committed⟩

theorem Sound.of_open (h : Store.open json none files dataDir = .ok s) :
    (opened s files).Sound json dataDir :=
  ⟨Store.open_dir h, h⟩

theorem Sound.call (hjson : json.Lossless) {σ : Session} (h : σ.Sound json dataDir)
    (c : Mutation × PersistIo) : (σ.call json c).Sound json dataDir := by
  obtain ⟨m, io⟩ := c
  refine ⟨(m.run_dir json io σ.store σ.files).trans h.dir, ?_⟩
  rcases hres : (m.run json io σ.store σ.files).1 with e | b
  · obtain ⟨⟨state, -, hmem⟩, hopen⟩ := Mutation.open_run_error h.dir hres
    simp only [Session.call, hres, Except.isOk, Except.toBool, Bool.and_false, hmem]
    exact hopen.trans h.reopens
  · rcases hchange : m.change σ.store.state with _ | state
    · rcases m.run_cases json io σ.store σ.files with ⟨-, hrun⟩ | ⟨state, hsome, -⟩
      · simp only [Session.call, hrun, hchange, Option.isSome_none, Bool.false_and]
        exact h.reopens
      · rw [hchange] at hsome
        cases hsome
    · obtain ⟨hmem, hopen⟩ := Mutation.open_run_ok hjson h.dir hchange hres
      simp only [Session.call, hres, hchange, Option.isSome_some, Except.isOk, Except.toBool,
        Bool.and_self, if_true, hmem]
      exact hopen

theorem Sound.run (hjson : json.Lossless) {σ : Session} (h : σ.Sound json dataDir)
    (calls : List (Mutation × PersistIo)) : (σ.run json calls).Sound json dataDir := by
  induction calls generalizing σ with
  | nil => exact h
  | cons c calls ih => exact ih (h.call hjson c)

end Session

/-- The record that a successful call promises, in the state a reopening finds. -/
def Mutation.Recorded (before after : Persisted) : Mutation → Prop
  | .upsertProduct record => after.products.lookup record.slug = some record
  | .createPurchase paymentHash slug amountMsat createdAt claimToken =>
    after.purchases.lookup paymentHash =
      some (newPurchase paymentHash slug amountMsat createdAt claimToken)
  | .markPaid paymentHash => ∃ p, before.purchases.lookup paymentHash = some p ∧
      after.purchases.lookup paymentHash = some { p with paid := true }

/-- A call of `mark_paid` that finds the flag already set in memory finds it set
    by a change that was committed. -/
def Mutation.FlagCommitted (σ : Session) : Mutation → Prop
  | .markPaid paymentHash => ∀ p, σ.store.state.purchases.lookup paymentHash = some p →
      p.paid = true → σ.committed.purchases.lookup paymentHash = some p
  | _ => True

/-- A call of `mark_paid` that persists has found an unpaid purchase. -/
theorem Mutation.change_markPaid {before state : Persisted} {paymentHash : String}
    (h : (Mutation.markPaid paymentHash).change before = some state) :
    ∃ p, before.purchases.lookup paymentHash = some p ∧ p.paid = false ∧
      state = before.setPaid paymentHash p := by
  simp only [Mutation.change] at h
  rcases hp : before.purchases.lookup paymentHash with _ | p
  · simp [hp] at h
  · rcases hpaid : p.paid with _ | _
    · simp only [hp, hpaid, Bool.false_eq_true, if_false, Option.some.injEq] at h
      exact ⟨p, rfl, hpaid, h.symm⟩
    · simp [hp, hpaid] at h

theorem Mutation.recorded_of_change {m : Mutation} {before state : Persisted}
    (h : m.change before = some state) : m.Recorded before state := by
  cases m with
  | upsertProduct record =>
    obtain rfl := Option.some.inj h
    exact Finmap.lookup_insert _
  | createPurchase paymentHash slug amountMsat createdAt claimToken =>
    obtain rfl := Option.some.inj h
    exact Finmap.lookup_insert _
  | markPaid paymentHash =>
    obtain ⟨p, hp, -, rfl⟩ := change_markPaid h
    exact ⟨p, hp, Finmap.lookup_insert _⟩

/-- The slug whose product a call may replace. -/
def Mutation.productKey : Mutation → Option String
  | .upsertProduct record => some record.slug
  | _ => none

/-- The payment hash whose purchase a call may replace. -/
def Mutation.purchaseKey : Mutation → Option String
  | .upsertProduct _ => none
  | .createPurchase paymentHash .. => some paymentHash
  | .markPaid paymentHash => some paymentHash

theorem Mutation.products_eq {m : Mutation} {before state : Persisted}
    (h : m.change before = some state) (hkey : m.productKey = none) :
    state.products = before.products := by
  cases m with
  | upsertProduct record => cases hkey
  | createPurchase paymentHash slug amountMsat createdAt claimToken =>
    obtain rfl := Option.some.inj h
    rfl
  | markPaid paymentHash =>
    obtain ⟨p, -, -, rfl⟩ := change_markPaid h
    rfl

theorem Mutation.products_of_change (m : Mutation) {before state : Persisted} {slug : String}
    (h : m.change before = some state) (hslug : m.productKey ≠ some slug) :
    state.products.lookup slug = before.products.lookup slug := by
  cases m with
  | upsertProduct record =>
    obtain rfl := Option.some.inj h
    have hne : slug ≠ record.slug := fun heq => hslug (congrArg some heq.symm)
    exact Finmap.lookup_insert_of_ne _ hne
  | createPurchase paymentHash slug' amountMsat createdAt claimToken => rw [products_eq h rfl]
  | markPaid paymentHash => rw [products_eq h rfl]

theorem Mutation.purchases_of_change (m : Mutation) {before state : Persisted}
    {paymentHash : String} (h : m.change before = some state)
    (hhash : m.purchaseKey ≠ some paymentHash) :
    state.purchases.lookup paymentHash = before.purchases.lookup paymentHash := by
  cases m with
  | upsertProduct record =>
    obtain rfl := Option.some.inj h
    rfl
  | createPurchase paymentHash' slug amountMsat createdAt claimToken =>
    obtain rfl := Option.some.inj h
    have hne : paymentHash ≠ paymentHash' := fun heq => hhash (congrArg some heq.symm)
    exact Finmap.lookup_insert_of_ne _ hne
  | markPaid paymentHash' =>
    have hne : paymentHash ≠ paymentHash' := fun heq => hhash (congrArg some heq.symm)
    obtain ⟨p, -, -, rfl⟩ := change_markPaid h
    exact Finmap.lookup_insert_of_ne _ hne

theorem Mutation.flagCommitted_of_change {σ : Session} {m : Mutation} {state : Persisted}
    (h : m.change σ.store.state = some state) : m.FlagCommitted σ := by
  cases m with
  | upsertProduct record => trivial
  | createPurchase paymentHash slug amountMsat createdAt claimToken => trivial
  | markPaid paymentHash =>
    intro p hp hpaid
    simp [Mutation.change, hp, hpaid] at h

end Calls

/-! ### A store with one listing

The data of the examples: one product, one purchase of it, and the texts that
`serde_json` writes for the states they occur in. -/

/-- `serde_json` on a finite table of states and their texts. -/
def SerdeJson.ofTable (rows : List (Persisted × String)) : SerdeJson where
  toStringPretty _ state :=
    match rows.find? fun row => decide (row.1 = state) with
    | some row => .ok row.2
    | none => .error "not in the table"
  fromStr raw :=
    match rows.find? fun row => decide (row.2 = raw) with
    | some row => .ok row.1
    | none => .error "not in the table"

theorem SerdeJson.lossless_ofTable {rows : List (Persisted × String)}
    (h : (rows.map Prod.snd).Nodup) : (SerdeJson.ofTable rows).Lossless := by
  intro order state raw hraw
  simp only [SerdeJson.ofTable] at hraw ⊢
  rcases hrow : rows.find? fun row => decide (row.1 = state) with _ | row
  · simp [hrow] at hraw
  · simp only [hrow, Except.ok.injEq] at hraw
    have hmem : row ∈ rows := List.mem_of_find?_eq_some hrow
    have hstate : row.1 = state := by simpa using List.find?_some hrow
    rcases hrow' : rows.find? fun row => decide (row.2 = raw) with _ | row'
    · have hnone := List.find?_eq_none.mp hrow' row hmem
      simp [hraw] at hnone
    · have hraw' : row'.2 = raw := by simpa using List.find?_some hrow'
      have hsame : row' = row :=
        List.inj_on_of_nodup_map h (List.mem_of_find?_eq_some hrow') hmem (hraw'.trans hraw.symm)
      subst hsame
      simp only [hrow', hstate]

namespace Sample

def midnight : ProductRecord :=
  ⟨"midnight", "Midnight", 5000, none, "flac", "midnight.flac", 4⟩

/-- SHA-256 of the preimage that repeats the byte 7. -/
def hash : String := "4bb06f8e4e3a7715d201d573d0aa423762e55dabd61a2c02278fa56cc6d294e0"

def token : String := "0101010101010101010101010101010101010101010101010101010101010101"

def sale : PurchaseRecord := newPurchase hash "midnight" 5000000 1700000000 token

def listed : Persisted := (default : Persisted).upsertProduct midnight

def sold : Persisted := listed.createPurchase sale

def settled : Persisted := sold.setPaid hash sale

def indexHead : String :=
  "\x7b\n  \"products\": \x7b\n    \"midnight\": \x7b\n      \"slug\": \"midnight\",\n" ++
  "      \"title\": \"Midnight\",\n      \"price_sats\": 5000,\n" ++
  "      \"floor_sats\": null,\n      \"format\": \"flac\",\n" ++
  "      \"file_name\": \"midnight.flac\",\n      \"size_bytes\": 4\n    \x7d\n  \x7d,\n" ++
  "  \"purchases\": "

def indexText (purchases : String) : String := indexHead ++ (purchases ++ "\n\x7d")

def saleHead : String :=
  "    \"" ++ hash ++ "\": \x7b\n      \"payment_hash\": \"" ++ hash ++ "\",\n" ++
  "      \"slug\": \"midnight\",\n      \"amount_msat\": 5000000,\n      \"paid\": "

def saleTail : String :=
  ",\n      \"created_at\": 1700000000,\n      \"claim_token\": \"" ++ token ++
  "\"\n    \x7d\n  \x7d"

def saleText (paid : String) : String := "\x7b\n" ++ (saleHead ++ (paid ++ saleTail))

def json : SerdeJson :=
  .ofTable [(listed, indexText "\x7b\x7d"), (sold, indexText (saleText "false")),
    (settled, indexText (saleText "true"))]

theorem indexText_inj {a b : String} : indexText a = indexText b ↔ a = b := by
  unfold indexText
  rw [String.append_right_inj, String.append_left_inj]

theorem saleText_inj {a b : String} : saleText a = saleText b ↔ a = b := by
  unfold saleText
  rw [String.append_right_inj, String.append_right_inj, String.append_left_inj]

theorem saleText_ne_empty (paid : String) : "\x7b\x7d" ≠ saleText paid := by
  intro h
  have hchars := congrArg String.toList h
  simp [saleText] at hchars

theorem json_lossless : json.Lossless := by
  apply SerdeJson.lossless_ofTable
  simp only [List.map_cons, List.map_nil, List.nodup_cons, List.mem_cons, indexText_inj,
    saleText_inj, saleText_ne_empty]
  decide

theorem toStringPretty_listed (order : Nat) :
    json.toStringPretty order listed = .ok (indexText "\x7b\x7d") := rfl

theorem toStringPretty_sold (order : Nat) :
    json.toStringPretty order sold = .ok (indexText (saleText "false")) := rfl

def dataDir : String := "/data"

def dir : String := "/data/products"

/-- The index as it stands after the upload. -/
def files : Files := fun path =>
  if path = "/data/products/index.json" then some (indexText "\x7b\x7d").toUTF8 else none

def store : Store := ⟨dir, listed⟩

theorem files_index : files (joinPath (joinPath dataDir "products") "index.json") =
    some (indexText "\x7b\x7d").toUTF8 := if_pos (by decide)

theorem open_files : Store.open json none files dataDir = .ok store :=
  Store.open_of_index files_index (json_lossless 0 _ _ (toStringPretty_listed 0))

def createSale : Mutation := .createPurchase hash "midnight" 5000000 1700000000 token

def markSale : Mutation := .markPaid hash

/-- The sale has been recorded and committed. -/
def saleCreated : Session :=
  (Session.opened store files).run json [(createSale, ⟨0, none⟩)]

/-- The sale has been recorded, and marking it paid failed at the rename. -/
def markFailed : Session :=
  (Session.opened store files).run json [(createSale, ⟨0, none⟩),
    (markSale, ⟨0, some (.rename "Input/output error (os error 5)")⟩)]

end Sample

/-! ### The two results -/

/-- When does `Ok` mean durable? After any history of calls, each of which may
    have failed to persist, a call that answers `Ok(())` or `Ok(true)` has its
    record in the index unless it is a `mark_paid` whose flag is set in memory
    only. -/
theorem Session.ok_durable_iff {json : SerdeJson} {s : Store} {files : Files} {dataDir : String}
    (hjson : json.Lossless)
    (hopen : Store.open json none files dataDir = .ok s)
    (history : List (Mutation × PersistIo)) (m : Mutation) (io : PersistIo)
    (hok : (m.run json io ((opened s files).run json history).store
      ((opened s files).run json history).files).1 = .ok true) :
    (∃ reopened, Store.open json none (m.run json io ((opened s files).run json history).store
        ((opened s files).run json history).files).2.2 dataDir = .ok reopened ∧
      m.Recorded ((opened s files).run json history).store.state reopened.state) ↔
      m.FlagCommitted ((opened s files).run json history) := by
  have hsound := (Sound.of_open hopen).run hjson history
  generalize (opened s files).run json history = σ at hok hsound ⊢
  rcases m.run_cases json io σ.store σ.files with ⟨hnone, hrun⟩ | ⟨state, hsome, -⟩
  · -- nothing was persisted: the reopened state is the last commit
    rw [hrun] at hok ⊢
    cases m with
    | upsertProduct record => cases hnone
    | createPurchase paymentHash slug amountMsat createdAt claimToken => cases hnone
    | markPaid paymentHash =>
      have hfound : (σ.store.state.purchases.lookup paymentHash).isSome = true := by
        simpa [Mutation.found] using hok
      obtain ⟨p, hp⟩ := Option.isSome_iff_exists.mp hfound
      have hpaid := Mutation.change_markPaid_eq_none hnone p hp
      have hsame : { p with paid := true } = p := by
        cases p
        simp only [PurchaseRecord.mk.injEq]
        simp_all
      constructor
      · rintro ⟨reopened, hreopened, p', hp', hrecorded⟩ q hq hqpaid
        rw [hsound.reopens] at hreopened
        obtain rfl := Except.ok.inj hreopened
        rw [hp] at hp' hq
        obtain rfl := Option.some.inj hp'
        obtain rfl := Option.some.inj hq
        rwa [hsame] at hrecorded
      · intro hcommitted
        refine ⟨_, hsound.reopens, p, hp, ?_⟩
        rw [hsame]
        exact hcommitted p hp hpaid
  · obtain ⟨-, hreopen⟩ := Mutation.open_run_ok hjson hsound.dir hsome hok
    exact iff_of_true ⟨_, hreopen, Mutation.recorded_of_change hsome⟩
      (Mutation.flagCommitted_of_change hsome)

theorem Session.ok_durable_iff_markPaid :
    ∃ reopened, Store.open Sample.json none (Sample.markSale.run Sample.json ⟨0, none⟩
        Sample.saleCreated.store Sample.saleCreated.files).2.2 Sample.dataDir = .ok reopened ∧
      reopened.state.purchases.lookup Sample.hash = some { Sample.sale with paid := true } := by
  have hok : (Sample.markSale.run Sample.json ⟨0, none⟩ Sample.saleCreated.store
      Sample.saleCreated.files).1 = .ok true := rfl
  have hcommitted : Sample.markSale.FlagCommitted Sample.saleCreated := by
    intro p hp hpaid
    obtain rfl : Sample.sale = p := Option.some.inj hp
    cases hpaid
  obtain ⟨reopened, hopen, p, hp, hrecorded⟩ :=
    (Session.ok_durable_iff Sample.json_lossless Sample.open_files
      [(Sample.createSale, ⟨0, none⟩)] Sample.markSale ⟨0, none⟩ hok).mpr hcommitted
  obtain rfl : Sample.sale = p := Option.some.inj hp
  exact ⟨reopened, hopen, hrecorded⟩

/-- The rename fails while the flag is being set; a second `mark_paid` then answers
    `Ok(true)` at once, and a reopening finds the purchase unpaid. -/
theorem Session.ok_not_durable :
    Store.open Sample.json none Sample.files Sample.dataDir = .ok Sample.store ∧
      (Sample.markSale.run Sample.json ⟨0, none⟩ Sample.markFailed.store
        Sample.markFailed.files).1 = .ok true ∧
      Store.open Sample.json none (Sample.markSale.run Sample.json ⟨0, none⟩
          Sample.markFailed.store Sample.markFailed.files).2.2 Sample.dataDir =
        .ok ⟨Sample.dir, Sample.sold⟩ ∧
      Sample.sold.purchases.lookup Sample.hash = some Sample.sale ∧
      ¬ Sample.markSale.Recorded Sample.markFailed.store.state Sample.sold := by
  have hreopen : Store.open Sample.json none Sample.markFailed.files Sample.dataDir =
      .ok ⟨Sample.dir, Sample.sold⟩ :=
    ((Sound.of_open Sample.open_files).run Sample.json_lossless _).reopens
  have hsale : Sample.sold.purchases.lookup Sample.hash = some Sample.sale := rfl
  refine ⟨Sample.open_files, rfl, hreopen, hsale, ?_⟩
  rintro ⟨p, -, hrecorded⟩
  rw [hsale] at hrecorded
  have hpaid := congrArg PurchaseRecord.paid (Option.some.inj hrecorded)
  cases hpaid

/-- What an error leaves behind: the index is untouched, and in memory no record
    but the one the call names differs from before; a failed `mark_paid` alters no
    field but the flag. -/
theorem Mutation.error_frame {json : SerdeJson} {io : PersistIo} {s : Store} {files : Files}
    {m : Mutation} {e : String} (herr : (m.run json io s files).1 = .error e) :
    (m.run json io s files).2.2 s.indexPath = files s.indexPath ∧
      (∀ slug, m.productKey ≠ some slug →
        (m.run json io s files).2.1.getProduct slug = s.getProduct slug) ∧
      (∀ paymentHash, m.purchaseKey ≠ some paymentHash →
        (m.run json io s files).2.1.getPurchase paymentHash = s.getPurchase paymentHash) ∧
      (∀ paymentHash, m = .markPaid paymentHash → ∃ p, s.getPurchase paymentHash = some p ∧
        (m.run json io s files).2.1.getPurchase paymentHash = some { p with paid := true }) := by
  rcases m.run_cases json io s files with ⟨-, hrun⟩ | ⟨state, hsome, hrun⟩
  · rw [hrun] at herr
    cases herr
  · rw [hrun] at herr ⊢
    refine ⟨?_, fun slug hslug => m.products_of_change hsome hslug,
      fun paymentHash hhash => m.purchases_of_change hsome hhash, ?_⟩
    · rcases hp : (({ s with state := state } : Store).persist json io files).1 with e' | ⟨⟩
      · exact Store.persist_error hp
      · simp [hp, Except.map] at herr
    · rintro paymentHash rfl
      exact Mutation.recorded_of_change hsome

theorem Mutation.error_frame_markPaid :
    ∃ p, (⟨Sample.dir, Sample.sold⟩ : Store).getPurchase Sample.hash = some p ∧
      (Sample.markSale.run Sample.json ⟨0, some (.rename "Input/output error (os error 5)")⟩
        ⟨Sample.dir, Sample.sold⟩ Sample.files).2.1.getPurchase Sample.hash =
          some { p with paid := true } :=
  (Mutation.error_frame (e := "Failed to commit index: Input/output error (os error 5)")
    rfl).2.2.2 Sample.hash rfl

/-- The disk is full when the temporary file is created: `create_purchase` answers
    an error and the purchase is in memory all the same. -/
theorem Mutation.error_not_atomic :
    (Sample.createSale.run Sample.json ⟨0, some (.create "No space left on device (os error 28)")⟩
        Sample.store Sample.files).1 =
      .error "Failed to write index: No space left on device (os error 28)" ∧
      Sample.store.getPurchase Sample.hash = none ∧
      (Sample.createSale.run Sample.json
        ⟨0, some (.create "No space left on device (os error 28)")⟩ Sample.store
        Sample.files).2.1.getPurchase Sample.hash = some Sample.sale :=
  ⟨rfl, rfl, rfl⟩

end ArtistNode
