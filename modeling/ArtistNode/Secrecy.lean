import ArtistNode.FailedUpload
import ArtistNode.Renaming

/-!
# Claim tokens are secrets

What a claim token is called shows nowhere but in the answer to the buyer who was handed it
and in what is presented later. For every run there is another one in which two draws have
changed places, and nobody who knows neither token can tell the two apart.
-/

namespace ArtistNode

open Base

/-! ### The ledger under other names -/

section Ledger

variable {ρ : String → String} {state : Persisted}

theorem Persisted.rename_createPurchase (p : PurchaseRecord) :
    (state.createPurchase p).rename ρ = (state.rename ρ).createPurchase (p.rename ρ) := by
  unfold Persisted.createPurchase Persisted.rename
  simp only [mapValues_insert]
  rfl

theorem Persisted.rename_setPaid (paymentHash : String) (p : PurchaseRecord) :
    (state.setPaid paymentHash p).rename ρ = (state.rename ρ).setPaid paymentHash (p.rename ρ) := by
  unfold Persisted.setPaid Persisted.rename
  simp only [mapValues_insert]
  rfl

/-- Names that the ledger does not hold may be given to others. -/
theorem Persisted.rename_eq_self (h : ∀ paymentHash p, state.purchases.lookup paymentHash = some p →
    p.claimToken.map ρ = p.claimToken) : state.rename ρ = state := by
  have hsame : mapValues (PurchaseRecord.rename ρ) state.purchases = state.purchases := by
    apply mapValues_eq_self
    intro paymentHash p hp
    unfold PurchaseRecord.rename
    rw [h paymentHash p hp]
  unfold Persisted.rename
  rw [hsame]

end Ledger

/-- Whether the index can be serialized, and if not with which error, does not depend on the
    names of tokens. -/
def SerdeJson.BlindTo (json : SerdeJson) (ρ : String → String) : Prop :=
  ∀ order state, ∃ order', (json.toStringPretty order' (state.rename ρ)).map (fun _ => ()) =
    (json.toStringPretty order state).map fun _ => ()

/-! ### Each step has its match -/

section Steps

variable {d : Daemon} {ρ : String → String} {s s' t : Shared}

/-- `persist` with the same fault, on states that differ in names only. -/
theorem SharedRenamed.persist (hjson : d.lib.Lossless) (hblind : d.lib.BlindTo ρ)
    (h : SharedRenamed d ρ s t) (hdir : s.store.dir = d.productsDir) (state : Persisted)
    (io : PersistIo) : ∃ io',
      (Store.persist d.lib.toSerdeJson io' { t.store with state := state.rename ρ } t.files).1 =
        (Store.persist d.lib.toSerdeJson io { s.store with state := state } s.files).1 ∧
      SharedRenamed d ρ
        { s with
          store := { s.store with state := state }
          files := (Store.persist d.lib.toSerdeJson io { s.store with state := state } s.files).2 }
        { t with
          store := { t.store with state := state.rename ρ }
          files := (Store.persist d.lib.toSerdeJson io'
            { t.store with state := state.rename ρ } t.files).2 } := by
  obtain ⟨order', horder⟩ := hblind io.order state
  refine ⟨⟨order', io.fault⟩, ?_⟩
  have hdirs : t.store.dir = s.store.dir := by
    rw [h.store]
    rfl
  have hdir' := hdirs.trans hdir
  have hresult :
      (Store.persist d.lib.toSerdeJson ⟨order', io.fault⟩
        { t.store with state := state.rename ρ } t.files).1 =
      (Store.persist d.lib.toSerdeJson io { s.store with state := state } s.files).1 := by
    unfold Store.persist
    simp only
    rcases hraw : d.lib.toStringPretty io.order state with e | raw
    · rcases hraw' : d.lib.toStringPretty order' (state.rename ρ) with e' | raw'
      · rw [hraw, hraw'] at horder
        obtain rfl := Except.error.inj horder
        rfl
      · rw [hraw, hraw'] at horder
        cases horder
    · rcases hraw' : d.lib.toStringPretty order' (state.rename ρ) with e' | raw'
      · rw [hraw, hraw'] at horder
        cases horder
      · rcases io.fault with _ | (e | ⟨written, e⟩ | e)
        all_goals rfl
  refine ⟨hresult, ?_⟩
  constructor
  case store => simp only [Store.rename, h.store]
  case poisoned => exact h.poisoned
  case payments => exact h.payments
  case files =>
    intro path hindex htmp
    have hkept := h.files path hindex htmp
    rw [← hdir] at hindex htmp
    have hold : (Store.persist d.lib.toSerdeJson io { s.store with state := state } s.files).2 path =
        s.files path := Store.persist_other htmp hindex
    rw [hdir, ← hdir'] at hindex htmp
    have hnew : (Store.persist d.lib.toSerdeJson ⟨order', io.fault⟩
        { t.store with state := state.rename ρ } t.files).2 path = t.files path :=
      Store.persist_other htmp hindex
    simp only [hold, hnew]
    exact hkept
  case disk =>
    intro store hopen
    simp only at hopen ⊢
    rcases hold : (Store.persist d.lib.toSerdeJson io { s.store with state := state } s.files).1
      with e | ⟨⟩
    · have hkept := Store.open_persist_error (s := { s.store with state := state }) hdir hold
      have hkept' := Store.open_persist_error (s := { t.store with state := state.rename ρ }) hdir'
        (hresult.trans hold)
      exact hkept'.trans (h.disk store (hkept.symm.trans hopen))
    · have hnow := Store.open_persist_ok (s := { s.store with state := state }) hjson hdir hold
      have hnow' := Store.open_persist_ok (s := { t.store with state := state.rename ρ }) hjson hdir'
        (hresult.trans hold)
      obtain rfl := Except.ok.inj (hnow.symm.trans hopen)
      exact hnow'.trans (congrArg (fun dir => Except.ok (Store.mk dir (state.rename ρ))) hdirs)

/-- A section under the store lock, where the work under it has its match. -/
theorem SharedRenamed.section {β : Type} {run run' : PersistIo → Except String β × Store × Files}
    {result : Option (Except String β)} (h : SharedRenamed d ρ s t)
    (hrun : ∀ io, ∃ io', (run' io').1 = (run io).1 ∧
      SharedRenamed d ρ { s with store := (run io).2.1, files := (run io).2.2 }
        { t with store := (run' io').2.1, files := (run' io').2.2 })
    (hact : s.section run result s') :
    ∃ t', t.section run' result t' ∧ SharedRenamed d ρ s' t' := by
  rcases hact with ⟨hpoisoned, rfl, rfl⟩ | ⟨hhealthy, io, rfl, rfl⟩
  · exact ⟨t, Or.inl ⟨h.poisoned.trans hpoisoned, rfl, rfl⟩, h⟩
  · obtain ⟨io', hresult, hafter⟩ := hrun io
    exact ⟨_, Or.inr ⟨h.poisoned.trans hhealthy, io', by rw [hresult], rfl⟩, hafter⟩

theorem SharedRenamed.upsertProduct (hjson : d.lib.Lossless) (hblind : d.lib.BlindTo ρ)
    (h : SharedRenamed d ρ s t) (hdir : s.store.dir = d.productsDir) {record : ProductRecord}
    {result : Option (Except String Unit)} (hact : act d s (.upsertProduct record) result s') :
    ∃ t', act d t (.upsertProduct record) result t' ∧ SharedRenamed d ρ s' t' := by
  refine h.section (fun io => ?_) hact
  have hstate : t.store.state.upsertProduct record = (s.store.state.upsertProduct record).rename ρ := by
    rw [h.store]
    rfl
  simp only [Store.upsertProduct, hstate]
  exact h.persist hjson hblind hdir _ io

theorem SharedRenamed.createPurchase (hjson : d.lib.Lossless) (hblind : d.lib.BlindTo ρ)
    (h : SharedRenamed d ρ s t) (hdir : s.store.dir = d.productsDir)
    {paymentHash slug claimToken : String} {amountMsat createdAt : UInt64}
    {result : Option (Except String Unit)}
    (hact : act d s (.createPurchase paymentHash slug amountMsat createdAt claimToken) result s') :
    ∃ t', act d t (.createPurchase paymentHash slug amountMsat createdAt (ρ claimToken)) result t' ∧
      SharedRenamed d ρ s' t' := by
  refine h.section (fun io => ?_) hact
  have hstate : t.store.state.createPurchase
      (newPurchase paymentHash slug amountMsat createdAt (ρ claimToken)) =
      (s.store.state.createPurchase
        (newPurchase paymentHash slug amountMsat createdAt claimToken)).rename ρ := by
    rw [h.store, Persisted.rename_createPurchase]
    rfl
  simp only [Store.createPurchase, hstate]
  exact h.persist hjson hblind hdir _ io

theorem SharedRenamed.markPaid (hjson : d.lib.Lossless) (hblind : d.lib.BlindTo ρ)
    (h : SharedRenamed d ρ s t) (hdir : s.store.dir = d.productsDir) {paymentHash : String}
    {result : Option (Except String Bool)} (hact : act d s (.markPaid paymentHash) result s') :
    ∃ t', act d t (.markPaid paymentHash) result t' ∧ SharedRenamed d ρ s' t' := by
  refine h.section (fun io => ?_) hact
  have hlookup : t.store.state.purchases.lookup paymentHash =
      (s.store.state.purchases.lookup paymentHash).map (PurchaseRecord.rename ρ) := by
    rw [h.store]
    exact lookup_mapValues _ _ _
  simp only [Store.markPaid, hlookup]
  rcases hp : s.store.state.purchases.lookup paymentHash with _ | p
  · exact ⟨io, rfl, h⟩
  have hpaid : (p.rename ρ).paid = p.paid := rfl
  simp only [Option.map_some, hpaid]
  rcases p.paid with _ | _
  · have hstate : t.store.state.setPaid paymentHash (p.rename ρ) =
        (s.store.state.setPaid paymentHash p).rename ρ := by
      rw [h.store, Persisted.rename_setPaid]
      rfl
    obtain ⟨io', hresult, hafter⟩ :=
      h.persist hjson hblind hdir (s.store.state.setPaid paymentHash p) io
    refine ⟨io', ?_⟩
    simp only [Bool.not_false, if_true, hstate]
    rcases hold : Store.persist d.lib.toSerdeJson io
      { s.store with state := s.store.state.setPaid paymentHash p } s.files with ⟨r, files⟩
    rcases hnew : Store.persist d.lib.toSerdeJson io'
      { t.store with state := (s.store.state.setPaid paymentHash p).rename ρ } t.files with
      ⟨r', files'⟩
    rw [hold, hnew] at hresult hafter
    obtain rfl : r' = r := hresult
    rcases r' with e | ⟨⟩
    all_goals exact ⟨rfl, hafter⟩
  · exact ⟨io, rfl, h⟩

/-- Each operation can be performed with the same outcome. -/
theorem SharedRenamed.operation (hjson : d.lib.Lossless) (hblind : d.lib.BlindTo ρ)
    (hdraws : ∀ bytes, ∃ bytes', bytes'.size = bytes.size ∧
      d.lib.hexEncode bytes' = ρ (d.lib.hexEncode bytes))
    (h : SharedRenamed d ρ s t) (hdir : s.store.dir = d.productsDir) {op : Op} {ans : Answer op}
    (hpath : ∀ path, (∃ contents, op = .writeFile path contents) ∨ op = .openFile path →
      path ≠ joinPath d.productsDir "index.json" ∧ path ≠ joinPath d.productsDir "index.json.tmp")
    (hact : act d s op ans s') : ∃ ans' t', act d t (op.rename ρ) ans' t' ∧
      CallRenamed d.lib ρ ⟨op, ans⟩ ⟨op.rename ρ, ans'⟩ ∧ SharedRenamed d ρ s' t' := by
  cases op with
  | lock =>
    obtain ⟨rfl, ⟨hpoisoned, rfl⟩ | ⟨hhealthy, l, rfl, hl⟩⟩ := hact
    · exact ⟨none, t, ⟨rfl, Or.inl ⟨h.poisoned.trans hpoisoned, rfl⟩⟩, .poisoned, h⟩
    · refine ⟨some (l.rename ρ), t, act_lock_healthy (h.poisoned.trans hhealthy) ?_, .locked l, h⟩
      rw [h.store, ← hl]
      rfl
  | upsertProduct record =>
    obtain ⟨t', hact', hafter⟩ := h.upsertProduct hjson hblind hdir hact
    exact ⟨ans, t', hact', .same _ _ rfl, hafter⟩
  | createPurchase paymentHash slug amountMsat createdAt claimToken =>
    obtain ⟨t', hact', hafter⟩ := h.createPurchase hjson hblind hdir hact
    exact ⟨ans, t', hact', .recorded _ _ _ _ _ _, hafter⟩
  | markPaid paymentHash =>
    obtain ⟨t', hact', hafter⟩ := h.markPaid hjson hblind hdir hact
    exact ⟨ans, t', hact', .same _ _ rfl, hafter⟩
  | writeFile path contents =>
    obtain ⟨hindex, -⟩ := hpath path (Or.inl ⟨contents, rfl⟩)
    -- the same bytes are written
    have hwritten : ∀ bytes, SharedRenamed d ρ { s with files := s.files.write path bytes }
        { t with files := t.files.write path bytes } := by
      intro bytes
      refine ⟨h.store, h.poisoned, h.payments, ?_, ?_⟩
      · intro path' hindex' htmp'
        simp only [Files.write, Function.update_apply]
        split
        · rfl
        · exact h.files path' hindex' htmp'
      · intro store hopen
        have hold : Store.open d.lib.toSerdeJson none (s.files.write path bytes) d.dataDir =
            Store.open d.lib.toSerdeJson none s.files d.dataDir :=
          Store.open_congr (Files.write_other hindex.symm)
        have hnew : Store.open d.lib.toSerdeJson none (t.files.write path bytes) d.dataDir =
            Store.open d.lib.toSerdeJson none t.files d.dataDir :=
          Store.open_congr (Files.write_other hindex.symm)
        exact hnew.trans (h.disk store (hold.symm.trans hopen))
    rcases hact with ⟨rfl, rfl⟩ | ⟨e, rfl, rfl | ⟨written, rfl⟩⟩
    · exact ⟨.ok (), _, Or.inl ⟨rfl, rfl⟩, .same _ _ rfl, hwritten contents⟩
    · exact ⟨.error e, t, Or.inr ⟨e, rfl, Or.inl rfl⟩, .same _ _ rfl, h⟩
    · exact ⟨.error e, _, Or.inr ⟨e, rfl, Or.inr ⟨written, rfl⟩⟩, .same _ _ rfl, hwritten _⟩
  | openFile path =>
    obtain ⟨hindex, htmp⟩ := hpath path (Or.inr rfl)
    obtain ⟨rfl, hopen⟩ := hact
    refine ⟨ans, t, ⟨rfl, ?_⟩, .same _ _ rfl, h⟩
    intro contents hcontents
    exact (h.files path hindex htmp).trans (hopen contents hcontents)
  | listPayments =>
    obtain ⟨rfl, rfl⟩ := hact
    exact ⟨_, t, ⟨rfl, h.payments.symm⟩, .same _ _ rfl, h⟩
  | fillRandom length =>
    obtain rfl : s' = s := hact
    rcases ans with e | bytes
    · exact ⟨.error e, t, rfl, .undrawn length e, h⟩
    · obtain ⟨bytes', hsize, htoken⟩ := hdraws bytes
      exact ⟨.ok bytes', t, rfl, .drawn length bytes bytes' hsize htoken, h⟩
  | _ =>
    obtain rfl : s' = s := hact
    exact ⟨ans, t, rfl, .same _ _ rfl, h⟩

end Steps

/-! ### Runs under other names -/

section Runs

variable {d : Daemon} {ρ : String → String} {s₀ s₀' : Shared} {τ : List DaemonLabel}
variable {w : DaemonWorld}

/-- Only downloads open files, and those are artifacts. -/
theorem DaemonRun.opens_artifact (hopened : Opened d s₀) (hordinary : AllOrdinary s₀)
    (hjson : d.lib.Lossless) (hrun : DaemonRun d s₀ τ w) {id : Nat} {job : Job}
    {h : List DaemonCall} {path : String} {k : Answer (.openFile path) → Handler Response}
    (hthread : w.threads id = some ⟨job, h, .call (.openFile path) k⟩) :
    ∃ slug format, validSlug slug = true ∧ validFormat format = true ∧
      path = d.artifactFile slug format := by
  have htraced := hrun.traced _ _ hthread
  have hreaches : Reaches (handle d job) h (.call (.openFile path) k) := htraced.reaches
  have huses := (handle_within d job).pending hreaches
  obtain ⟨slug, params, rfl⟩ : ∃ slug params, job = .getDownload slug params := by
    cases job with
    | getDownload slug params => exact ⟨slug, params, rfl⟩
    | _ => cases huses
  obtain ⟨-, l, l', p, hread, hp, hl', rfl⟩ := (getDownload_opens d.lib slug params).pending hreaches
  obtain ⟨hpath, hprovided⟩ :=
    hrun.path_of_read hopened hordinary (fun _ => hjson) htraced (recordRead_mem hread) hl' hp
  have hown := Ordinary.of_provided hordinary hprovided
  exact ⟨slug, p.format, hown.validSlug, hown.validFormat, hpath⟩

/-- The daemon simulates itself under other names. -/
theorem simulates_renamed (hopened : Opened d s₀) (hordinary : AllOrdinary s₀)
    (hjson : d.lib.Lossless) (hblind : d.lib.BlindTo ρ) (hρ : Function.Injective ρ)
    (hdraws : ∀ bytes, ∃ bytes', bytes'.size = bytes.size ∧
      d.lib.hexEncode bytes' = ρ (d.lib.hexEncode bytes)) :
    Simulates (tokenRenaming d ρ) (system d) (system d) (World.initial s₀) := by
  constructor
  case job => exact fun job => ⟨job.rename ρ, rfl⟩
  case program =>
    rintro job _ rfl
    exact handle_alike hρ d job
  case act =>
    rintro τ w id job h op k ans s' t _ hrun hthread hact hrenamed rfl
    have hdir := (DaemonRun.housed hopened hrun).dir
    refine SharedRenamed.operation hjson hblind hdraws hrenamed hdir ?_ hact
    rintro path (⟨contents, rfl⟩ | rfl)
    · obtain ⟨slug, format, hslug, hformat, rfl⟩ := DaemonRun.writes_artifact hopened hrun hthread
      exact artifact_ne_index d.productsDir hslug hformat
    · obtain ⟨slug, format, hslug, hformat, rfl⟩ :=
        DaemonRun.opens_artifact hopened hordinary hjson hrun hthread
      exact artifact_ne_index d.productsDir hslug hformat
  case env =>
    intro s s' t e hact hrenamed
    cases e with
    | payments payments =>
      obtain rfl := hact
      exact ⟨.payments payments, _, rfl, rfl, hrenamed.store, hrenamed.poisoned, rfl,
        hrenamed.files, hrenamed.disk⟩
    | poison =>
      obtain rfl := hact
      exact ⟨.poison, _, rfl, rfl, hrenamed.store, rfl, hrenamed.payments, hrenamed.files,
        hrenamed.disk⟩
  case restart =>
    rintro s s' t ⟨store, hopen, rfl⟩ hrenamed
    exact ⟨_, ⟨store.rename ρ, hrenamed.disk store hopen, rfl⟩, rfl, rfl, hrenamed.payments,
      hrenamed.files, hrenamed.disk⟩

/-- Tokens can be renamed throughout a run. -/
theorem DaemonRun.renamed (hopened : Opened d s₀) (hordinary : AllOrdinary s₀)
    (hjson : d.lib.Lossless) (hblind : d.lib.BlindTo ρ) (hρ : Function.Injective ρ)
    (hdraws : ∀ bytes, ∃ bytes', bytes'.size = bytes.size ∧
      d.lib.hexEncode bytes' = ρ (d.lib.hexEncode bytes))
    (hrun : DaemonRun d s₀ τ w) (hstart : SharedRenamed d ρ s₀ s₀') :
    ∃ τ' w', DaemonRun d s₀' τ' w' ∧ List.Forall₂ (tokenRenaming d ρ).Labels τ τ' ∧
      SharedRenamed d ρ w.shared w'.shared := by
  obtain ⟨τ', w', hrun', hlabels, hworlds⟩ :=
    (simulates_renamed hopened hordinary hjson hblind hρ hdraws).run hrun
      (.initial (tokenRenaming d ρ) hstart)
  exact ⟨τ', w', hrun', hlabels, hworlds.shared⟩

end Runs

/-! ### The result -/

/-- The tokens of two draws change places. -/
def exchange (lib : Crates) (first second : ByteArray) : String → String :=
  Equiv.swap (lib.hexEncode first) (lib.hexEncode second)

/-- The request presents the token. -/
def Job.Presents (token : String) : Job → Prop
  | .getStatus _ claim => claim = token
  | .getDownload _ params => params.claim = some token
  | _ => False

/-- What the client of a thread sees: the request and the answer. -/
def seenBy (id : Nat) : DaemonLabel → Option (Job × Option Response)
  | .start id' job => if id' = id then some (job, none) else none
  | .answer id' job resp => if id' = id then some (job, some resp) else none
  | _ => none

/-- The client of the thread has been handed neither token. -/
def Untold (τ : List DaemonLabel) (id : Nat) (token token' : String) : Prop :=
  ∀ job sold, .answer id job (.purchaseInvoice sold) ∈ τ →
    sold.claimToken ≠ token ∧ sold.claimToken ≠ token'

section Exchange

variable {d : Daemon} {s₀ : Shared} {τ : List DaemonLabel} {w : DaemonWorld}
variable {first second : ByteArray}

theorem exchange_other {lib : Crates} {token : String} (hfirst : token ≠ lib.hexEncode first)
    (hsecond : token ≠ lib.hexEncode second) : exchange lib first second token = token :=
  Equiv.swap_apply_of_ne_of_ne hfirst hsecond

theorem exchange_involutive (lib : Crates) (first second : ByteArray) :
    Function.Involutive (exchange lib first second) := by
  intro token
  have hswap := Equiv.swap_swap (lib.hexEncode first) (lib.hexEncode second)
  exact congrArg (fun e => e token) hswap

/-- Each draw has its counterpart, of the same length. -/
theorem exchange_draws {lib : Crates} (hinj : Function.Injective lib.hexEncode)
    (hsize : first.size = second.size) (bytes : ByteArray) : ∃ bytes', bytes'.size = bytes.size ∧
      lib.hexEncode bytes' = exchange lib first second (lib.hexEncode bytes) := by
  refine ⟨Equiv.swap first second bytes, ?_, (hinj.swap_apply first second bytes).symm⟩
  rw [Equiv.swap_apply_def]
  split
  · rename_i heq
    rw [heq, hsize]
  split
  · rename_i heq
    rw [heq, hsize]
  · rfl

theorem Job.rename_eq_self {lib : Crates} {job : Job}
    (hfirst : ¬ job.Presents (lib.hexEncode first))
    (hsecond : ¬ job.Presents (lib.hexEncode second)) :
    job.rename (exchange lib first second) = job := by
  cases job with
  | getStatus slug claim =>
    have hsame : exchange lib first second claim = claim := exchange_other hfirst hsecond
    simp only [Job.rename, hsame]
  | getDownload slug params =>
    obtain ⟨preimage, claim⟩ := params
    rcases claim with _ | claim
    · rfl
    · have hne : claim ≠ lib.hexEncode first := fun heq => hfirst (congrArg some heq)
      have hne' : claim ≠ lib.hexEncode second := fun heq => hsecond (congrArg some heq)
      simp only [Job.rename, Option.map_some, exchange_other hne hne']
  | _ => rfl

/-- The start is the same under other names, where neither token is held. -/
theorem sharedRenamed_self (hopened : Opened d s₀)
    (hunheld : ∀ hash p, s₀.store.getPurchase hash = some p →
      p.claimToken ≠ some (d.lib.hexEncode first) ∧ p.claimToken ≠ some (d.lib.hexEncode second)) :
    SharedRenamed d (exchange d.lib first second) s₀ s₀ := by
  have hstate : s₀.store.state.rename (exchange d.lib first second) = s₀.store.state := by
    apply Persisted.rename_eq_self
    intro hash p hp
    obtain ⟨hfirst, hsecond⟩ := hunheld hash p hp
    rcases htoken : p.claimToken with _ | token
    · rfl
    · rw [htoken] at hfirst hsecond
      have hne : token ≠ d.lib.hexEncode first := fun heq => hfirst (congrArg some heq)
      have hne' : token ≠ d.lib.hexEncode second := fun heq => hsecond (congrArg some heq)
      rw [Option.map_some, exchange_other hne hne']
  have hstore : s₀.store.rename (exchange d.lib first second) = s₀.store := by
    unfold Store.rename
    rw [hstate]
  refine ⟨hstore.symm, rfl, rfl, fun _ _ _ => rfl, ?_⟩
  intro store hopen
  obtain rfl := Except.ok.inj (hopened.1.symm.trans hopen)
  rw [hstore]
  exact hopen

/-- The client of a thread that was handed neither token sees the same. -/
theorem seenBy_renamed {id : Nat} {l l' : DaemonLabel}
    (hlabels : (tokenRenaming d (exchange d.lib first second)).Labels l l')
    (hjob : ∀ job, (l = .start id job ∨ ∃ resp, l = .answer id job resp) →
      job.rename (exchange d.lib first second) = job)
    (huntold : ∀ job sold, l = .answer id job (.purchaseInvoice sold) →
      exchange d.lib first second sold.claimToken = sold.claimToken) :
    seenBy id l' = seenBy id l := by
  cases hlabels with
  | @start id' job job' hrenamed =>
    obtain rfl : job' = job.rename _ := hrenamed
    simp only [seenBy]
    split
    · rename_i hid
      subst hid
      rw [hjob job (Or.inl rfl)]
    · rfl
  | @answer id' job job' resp resp' hrenamed hresult =>
    obtain rfl : job' = job.rename _ := hrenamed
    obtain rfl : resp' = resp.rename _ := hresult
    simp only [seenBy]
    split
    · rename_i hid
      subst hid
      have hsame : resp.rename (exchange d.lib first second) = resp := by
        cases resp with
        | purchaseInvoice sold => simp only [Response.rename, huntold job sold rfl]
        | _ => rfl
      rw [hjob job (Or.inr ⟨resp, rfl⟩), hsame]
    · rfl
  | call hrenamed hcall => rfl
  | env hevent => rfl
  | restart => rfl

/-- A claim token is known to nobody but the buyer to whom it was handed. Take a run from a
    ledger that holds neither of two tokens, and in which no request presents either of
    them. There is a run in which the draws of the two have changed places: label by label
    it is the same but for the names of the two tokens, no client that was handed neither
    can tell it from the first, and a buyer who was handed the one is now handed the
    other. -/
theorem tokens_secret (hopened : Opened d s₀) (hordinary : AllOrdinary s₀) (hjson : d.lib.Lossless)
    (hinj : Function.Injective d.lib.hexEncode) (hsize : first.size = second.size)
    (hblind : d.lib.BlindTo (exchange d.lib first second))
    (hunheld : ∀ hash p, s₀.store.getPurchase hash = some p →
      p.claimToken ≠ some (d.lib.hexEncode first) ∧ p.claimToken ≠ some (d.lib.hexEncode second))
    (hrun : DaemonRun d s₀ τ w)
    (hunpresented : ∀ id job, .start id job ∈ τ →
      ¬ job.Presents (d.lib.hexEncode first) ∧ ¬ job.Presents (d.lib.hexEncode second)) :
    ∃ τ' w', DaemonRun d s₀ τ' w' ∧
      List.Forall₂ (tokenRenaming d (exchange d.lib first second)).Labels τ τ' ∧
      (∀ id, Untold τ id (d.lib.hexEncode first) (d.lib.hexEncode second) →
        τ'.filterMap (seenBy id) = τ.filterMap (seenBy id)) ∧
      ∀ id slug body sold, .answer id (.postInvoice slug body) (.purchaseInvoice sold) ∈ τ →
        .answer id (.postInvoice slug body) (.purchaseInvoice
          { sold with claimToken := exchange d.lib first second sold.claimToken }) ∈ τ' := by
  have hρ : Function.Injective (exchange d.lib first second) := Equiv.injective _
  obtain ⟨τ', w', hrun', hlabels, -⟩ := hrun.renamed hopened hordinary hjson hblind hρ
    (exchange_draws hinj hsize) (sharedRenamed_self hopened hunheld)
  refine ⟨τ', w', hrun', hlabels, ?_, ?_⟩
  · intro id huntold
    have hsame : ∀ l ∈ τ, ∀ l', (tokenRenaming d (exchange d.lib first second)).Labels l l' →
        seenBy id l' = seenBy id l := by
      intro l hl l' hlabel
      refine seenBy_renamed hlabel ?_ ?_
      · intro job hjob
        have hstarted : .start id job ∈ τ := by
          rcases hjob with rfl | ⟨resp, rfl⟩
          · exact hl
          · obtain ⟨hist, htraced⟩ := Run.answered hrun id job resp hl
            exact htraced.started
        obtain ⟨hfirst, hsecond⟩ := hunpresented id job hstarted
        exact Job.rename_eq_self hfirst hsecond
      · rintro job sold rfl
        obtain ⟨hfirst, hsecond⟩ := huntold job sold hl
        exact exchange_other hfirst hsecond
    exact filterMap_of_forall₂ hlabels hsame
  · intro id slug body sold hanswer
    obtain ⟨l', hmem, hlabel⟩ := exists_mem_of_forall₂ hlabels hanswer
    cases hlabel with
    | answer hrenamed hresult =>
      cases hrenamed
      cases hresult
      exact hmem

end Exchange

/-! ### A sale that nobody else can see -/

theorem Persisted.rename_rename {ρ : String → String} (hρ : Function.Involutive ρ)
    (state : Persisted) : (state.rename ρ).rename ρ = state := by
  have hback : ∀ p : PurchaseRecord, (p.rename ρ).rename ρ = p := by
    intro p
    have htoken : (p.claimToken.map ρ).map ρ = p.claimToken := by
      rw [Option.map_map, hρ.comp_self, Option.map_id_apply]
    simp only [PurchaseRecord.rename, htoken]
  have hpurchases : mapValues (PurchaseRecord.rename ρ)
      (mapValues (PurchaseRecord.rename ρ) state.purchases) = state.purchases := by
    apply Finmap.ext_lookup
    intro paymentHash
    rw [lookup_mapValues, lookup_mapValues]
    cases state.purchases.lookup paymentHash with
    | none => rfl
    | some p => exact congrArg some (hback p)
  simp only [Persisted.rename, hpurchases]

/-- `serde_json` on a table that has each of its states under the other names. -/
theorem SerdeJson.blindTo_ofTable {ρ : String → String} (hρ : Function.Involutive ρ)
    {rows : List (Persisted × String)}
    (hrows : ∀ row ∈ rows, ∃ row' ∈ rows, row'.1 = row.1.rename ρ) :
    (SerdeJson.ofTable rows).BlindTo ρ := by
  have hfound : ∀ {state : Persisted}, (∃ row ∈ rows, row.1 = state) →
      ∀ order, ((SerdeJson.ofTable rows).toStringPretty order state).map (fun _ => ()) =
        .ok () := by
    rintro state ⟨row, hrow, rfl⟩ order
    simp only [SerdeJson.ofTable]
    cases hfind : rows.find? fun row' => decide (row'.1 = row.1) with
    | none => exact absurd (decide_eq_true rfl) (List.find?_eq_none.mp hfind row hrow)
    | some row' => rfl
  have hmissing : ∀ {state : Persisted}, (¬ ∃ row ∈ rows, row.1 = state) →
      ∀ order, (SerdeJson.ofTable rows).toStringPretty order state = .error "not in the table" := by
    intro state hnone order
    have hfind : rows.find? (fun row => decide (row.1 = state)) = none := by
      apply List.find?_eq_none.mpr
      intro row hrow heq
      exact hnone ⟨row, hrow, of_decide_eq_true heq⟩
    simp only [SerdeJson.ofTable, hfind]
  intro order state
  refine ⟨order, ?_⟩
  by_cases hstate : ∃ row ∈ rows, row.1 = state
  · have hrenamed : ∃ row ∈ rows, row.1 = state.rename ρ := by
      obtain ⟨row, hrow, rfl⟩ := hstate
      exact hrows row hrow
    rw [hfound hstate, hfound hrenamed]
  · have hrenamed : ¬ ∃ row ∈ rows, row.1 = state.rename ρ := by
      rintro ⟨row, hrow, heq⟩
      obtain ⟨row', hrow', heq'⟩ := hrows row hrow
      rw [heq, Persisted.rename_rename hρ] at heq'
      exact hstate ⟨row', hrow', heq'⟩
    rw [hmissing hstate, hmissing hrenamed]

namespace Sample

/-- What the generator might as well have drawn. -/
def otherBytes : ByteArray := ⟨(List.replicate 32 2).toArray⟩

def otherToken : String := "0202020202020202020202020202020202020202020202020202020202020202"

theorem encode_otherBytes : Hex.encode otherBytes = otherToken := by decide

/-- The ledger after the sale with the other token. -/
def otherSold : Persisted := listed.createPurchase { sale with claimToken := some otherToken }

def otherTail : String :=
  ",\n      \"created_at\": 1700000000,\n      \"claim_token\": \"" ++ otherToken ++
  "\"\n    \x7d\n  \x7d"

def otherText : String := "\x7b\n" ++ (saleHead ++ ("false" ++ otherTail))

/-- The states of the sale with either token. -/
def eitherRows : List (Persisted × String) :=
  [(listed, indexText "\x7b\x7d"), (sold, indexText (saleText "false")),
    (otherSold, indexText otherText)]

/-- The daemon whose index is known with either token. -/
def discreet : Daemon :=
  { daemon upload with lib := { crates upload with toSerdeJson := .ofTable eitherRows } }

theorem discreet_lossless : discreet.lib.Lossless := by
  have hsale : saleText "false" ≠ otherText := by
    unfold saleText otherText saleTail otherTail
    rw [Ne, String.append_right_inj, String.append_right_inj, String.append_right_inj,
      String.append_left_inj, String.append_right_inj]
    decide
  have hempty : "\x7b\x7d" ≠ otherText := by
    intro h
    have hchars := congrArg String.toList h
    simp [otherText] at hchars
  apply SerdeJson.lossless_ofTable
  simp only [eitherRows, List.map_cons, List.map_nil, List.nodup_cons, List.mem_cons,
    indexText_inj, saleText_ne_empty, hsale, hempty]
  decide

theorem discreet_blind : discreet.lib.BlindTo (exchange discreet.lib tokenBytes otherBytes) := by
  have hlisted : listed.rename (exchange discreet.lib tokenBytes otherBytes) = listed := by
    apply Persisted.rename_eq_self
    intro paymentHash p hp
    cases (Finmap.lookup_empty paymentHash).symm.trans hp
  have hsale : exchange discreet.lib tokenBytes otherBytes token = otherToken := by
    rw [← encode_tokenBytes, ← encode_otherBytes]
    exact Equiv.swap_apply_left _ _
  have hsold : sold.rename (exchange discreet.lib tokenBytes otherBytes) = otherSold := by
    unfold sold otherSold
    rw [Persisted.rename_createPurchase, hlisted]
    unfold PurchaseRecord.rename sale newPurchase
    rw [Option.map_some, hsale]
  have hback : otherSold.rename (exchange discreet.lib tokenBytes otherBytes) = sold := by
    rw [← hsold]
    exact Persisted.rename_rename (exchange_involutive _ _ _) sold
  apply SerdeJson.blindTo_ofTable (exchange_involutive _ _ _)
  intro row hrow
  simp only [eitherRows, List.mem_cons, List.not_mem_nil, or_false] at hrow
  rcases hrow with rfl | rfl | rfl
  · exact ⟨_, List.mem_cons_self, hlisted.symm⟩
  · exact ⟨(otherSold, indexText otherText), by simp [eitherRows], hsold.symm⟩
  · exact ⟨(sold, indexText (saleText "false")), by simp [eitherRows], hback.symm⟩

theorem opened_discreet : Opened discreet onSale :=
  opened_listing rfl (Store.open_of_index files_index (discreet_lossless 0 listed _ rfl))

theorem ordinary_onSale : AllOrdinary onSale := by
  intro slug p hp
  have hslug : slug = "midnight" := by
    by_contra hne
    have hnone : onSale.store.getProduct slug = none :=
      (Finmap.lookup_insert_of_ne _ hne).trans (Finmap.lookup_empty slug)
    cases hnone.symm.trans hp
  subst hslug
  obtain rfl : midnight = p := Option.some.inj hp
  exact ⟨by decide, by decide, rfl⟩

/-- A sale, and then somebody asks for the track's metadata. -/
def askedTrace : List DaemonLabel :=
  saleTrace ++ served 1 (.getProduct "midnight") [⟨.lock, some soldLocked⟩]
    (.product (Gate.productMeta midnight))

theorem discreet_sale : Reaches ((system discreet).program saleRequest) saleDone
    (.done saleAnswer) := by
  have hp : (locked midnight).store.getProduct "midnight" = some midnight := rfl
  have hamount : Gate.resolveAmount midnight.priceSats midnight.floorSats
      ((some (⟨none⟩ : Gate.InvoiceRequest)).bind (·.amountSats)) = .ok 5000 := rfl
  have hdesc : discreet.lib.descriptionNew
      (Gate.saleDescription discreet.gateState midnight.title) = some description := by decide
  have hroom : Gate.inboundMsat [wideChannel] ≥ (5000 : UInt64) * 1000 := by decide
  have hreaches := @postInvoice_reaches discreet.lib discreet.gateState _ _ _ _ _ _ 1700000000
    _ invoice tokenBytes hp hamount (by decide) hdesc hroom
  have hhash : discreet.lib.hexEncode invoice.paymentHash = hash := encode_paymentHash
  have htoken : discreet.lib.hexEncode tokenBytes = token := encode_tokenBytes
  rw [hhash, htoken] at hreaches
  exact hreaches

/-- The state after the sale. -/
def afterDiscreetSale : Shared where
  store := ⟨dir, sold⟩
  files := (createSale.run (.ofTable eitherRows) ⟨0, none⟩ store onSale.files).2.2
  poisoned := false
  payments := []

theorem discreet_performs : Performs (system discreet) onSale saleDone afterDiscreetSale := by
  have hlock : act discreet onSale .lock (some (locked midnight)) onSale :=
    act_lock_healthy rfl rfl
  have hcreate : act discreet onSale
      (.createPurchase (Hex.encode paymentHash) "midnight" (5000 * 1000) 1700000000
        (Hex.encode tokenBytes)) (some (.ok ())) afterDiscreetSale := by
    rw [encode_paymentHash, encode_tokenBytes]
    exact Or.inr ⟨rfl, ⟨0, none⟩, rfl, rfl⟩
  exact ⟨onSale, hlock, onSale, rfl, onSale, rfl, onSale, rfl, onSale, rfl, _, hcreate, rfl⟩

theorem asked_run : ∃ w, DaemonRun discreet onSale askedTrace w := by
  have hinitial : DaemonRun discreet onSale [] (World.initial onSale) := .refl
  obtain ⟨w₁, hrun₁, hshared₁, hnext₁⟩ := hinitial.serve discreet_sale discreet_performs
  have hstart : Reaches ((system discreet).program (.getProduct "midnight")) [] _ := .refl
  have hasked := hstart.step (some soldLocked)
  have hlock : act discreet w₁.shared .lock (some soldLocked) afterDiscreetSale := by
    rw [hshared₁]
    exact act_lock_healthy rfl rfl
  obtain ⟨w₂, hrun₂, -⟩ := hrun₁.serve hasked ⟨_, hlock, rfl⟩
  have hfirst : (World.initial onSale : DaemonWorld).next = 0 := rfl
  rw [hnext₁, hfirst] at hrun₂
  exact ⟨w₂, hrun₂⟩

end Sample

/-- The sale might as well have been made with the other token: the buyer would hold that one,
    and whoever asks for the metadata would see what they see now. -/
theorem tokens_secret_midnight : ∃ τ' w', DaemonRun Sample.discreet Sample.onSale τ' w' ∧
    τ'.filterMap (seenBy 1) = Sample.askedTrace.filterMap (seenBy 1) ∧
    .answer 0 Sample.saleRequest
      (.purchaseInvoice { Sample.issued with claimToken := Sample.otherToken }) ∈ τ' := by
  obtain ⟨w, hrun⟩ := Sample.asked_run
  have hunheld : ∀ hash p, Sample.onSale.store.getPurchase hash = some p →
      p.claimToken ≠ some (Hex.encode Sample.tokenBytes) ∧
        p.claimToken ≠ some (Hex.encode Sample.otherBytes) := by
    intro hash p hp
    cases (Finmap.lookup_empty hash).symm.trans hp
  have hunpresented : ∀ id job, .start id job ∈ Sample.askedTrace →
      ¬ job.Presents (Hex.encode Sample.tokenBytes) ∧
        ¬ job.Presents (Hex.encode Sample.otherBytes) := by
    intro id job hmem
    simp [Sample.askedTrace, Sample.saleTrace, served] at hmem
    obtain ⟨-, rfl⟩ | ⟨-, rfl⟩ := hmem
    all_goals exact ⟨fun hpresents => hpresents.elim, fun hpresents => hpresents.elim⟩
  obtain ⟨τ', w', hrun', -, hsame, hissued⟩ := tokens_secret Sample.opened_discreet
    Sample.ordinary_onSale Sample.discreet_lossless Hex.encode_injective (by decide)
    Sample.discreet_blind hunheld hrun hunpresented
  refine ⟨τ', w', hrun', hsame 1 ?_, ?_⟩
  · intro job sold hanswer
    simp [Sample.askedTrace, Sample.saleTrace, served] at hanswer
  · have hanswer : .answer 0 Sample.saleRequest (.purchaseInvoice Sample.issued) ∈
        Sample.askedTrace := by
      simp [Sample.askedTrace, Sample.saleTrace, Sample.saleAnswer, served]
    have hother := hissued 0 _ _ _ hanswer
    have htoken : exchange Sample.discreet.lib Sample.tokenBytes Sample.otherBytes
        Sample.issued.claimToken = Sample.otherToken := by
      rw [← Sample.encode_otherBytes, Sample.issued, ← Sample.encode_tokenBytes]
      exact Equiv.swap_apply_left _ _
    rw [htoken] at hother
    exact hother

end ArtistNode
