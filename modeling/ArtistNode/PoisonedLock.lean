import ArtistNode.Ledger

/-!
# A poisoned lock

A thread that panics while it holds the store lock poisons it, and it stays poisoned
until the process restarts. Every section under the lock checks for this before it
touches the store. Here is what the checks amount to over a run: nothing is sold,
delivered, uploaded or settled any more, and memory and index stay as they are.
-/

namespace ArtistNode

open Base

section Sections

variable {d : Daemon} {s s' : Shared} {op : Op} {ans : Answer op}

/-- Only the environment poisons the lock, and only a restart heals it. -/
theorem act_poisoned (h : act d s op ans s') : s'.poisoned = s.poisoned := by
  rcases act_cases h with rfl | ⟨m, io, -, rfl⟩ | ⟨path, contents, written, -, rfl⟩
  · rfl
  · rfl
  · rfl

/-- A section under the store lock was refused. -/
def SectionRefused : DaemonCall → Prop
  | ⟨.lock, ans⟩ => ans = none
  | ⟨.upsertProduct _, ans⟩ => ans = none
  | ⟨.createPurchase .., ans⟩ => ans = none
  | ⟨.markPaid _, ans⟩ => ans = none
  | _ => True

theorem Shared.section_poisoned {β : Type} {run : PersistIo → Except String β × Store × Files}
    {result : Option (Except String β)} (h : s.section run result s')
    (hpoisoned : s.poisoned = true) : result = none ∧ s' = s := by
  rcases h with ⟨-, hresult, hs⟩ | ⟨hhealthy, -⟩
  · exact ⟨hresult, hs⟩
  · rw [hpoisoned] at hhealthy
    cases hhealthy

theorem Shared.section_healthy {β : Type} {run : PersistIo → Except String β × Store × Files}
    {result : Option (Except String β)} (h : s.section run result s')
    (hhealthy : s.poisoned = false) : result ≠ none := by
  rcases h with ⟨hpoisoned, -⟩ | ⟨-, io, rfl, -⟩
  · rw [hhealthy] at hpoisoned
    cases hpoisoned
  · exact Option.some_ne_none _

/-- What an operation does under a poisoned lock: at most an artifact is written, by an
    upload that had read the store before. -/
theorem act_refused (h : act d s op ans s') (hpoisoned : s.poisoned = true) :
    SectionRefused ⟨op, ans⟩ ∧ s'.store = s.store ∧
      (s'.files = s.files ∨ ∃ path contents written, op = .writeFile path contents ∧
        s'.files = s.files.write path written) := by
  cases op with
  | lock =>
    obtain ⟨rfl, ⟨-, hnone⟩ | ⟨hhealthy, -⟩⟩ := h
    · exact ⟨hnone, rfl, Or.inl rfl⟩
    · rw [hpoisoned] at hhealthy
      cases hhealthy
  | upsertProduct record =>
    obtain ⟨hnone, rfl⟩ := Shared.section_poisoned h hpoisoned
    exact ⟨hnone, rfl, Or.inl rfl⟩
  | createPurchase paymentHash slug amountMsat createdAt claimToken =>
    obtain ⟨hnone, rfl⟩ := Shared.section_poisoned h hpoisoned
    exact ⟨hnone, rfl, Or.inl rfl⟩
  | markPaid paymentHash =>
    obtain ⟨hnone, rfl⟩ := Shared.section_poisoned h hpoisoned
    exact ⟨hnone, rfl, Or.inl rfl⟩
  | writeFile path contents =>
    refine ⟨trivial, ?_⟩
    rcases h with ⟨-, rfl⟩ | ⟨e, -, rfl | ⟨written, rfl⟩⟩
    · exact ⟨rfl, Or.inr ⟨path, contents, contents, rfl, rfl⟩⟩
    · exact ⟨rfl, Or.inl rfl⟩
    · exact ⟨rfl, Or.inr ⟨path, contents, _, rfl, rfl⟩⟩
  | openFile path =>
    obtain ⟨rfl, -⟩ := h
    exact ⟨trivial, rfl, Or.inl rfl⟩
  | listPayments =>
    obtain ⟨rfl, -⟩ := h
    exact ⟨trivial, rfl, Or.inl rfl⟩
  | _ =>
    have hs : s' = s := h
    subst hs
    exact ⟨trivial, rfl, Or.inl rfl⟩

end Sections

/-! ### Until the next restart -/

/-- The lock is poisoned, nothing has been changed since `w₁`, and every section of `τ`
    was refused. -/
structure Frozen (d : Daemon) (w₁ : DaemonWorld) (τ : List DaemonLabel) (w : DaemonWorld) :
    Prop where
  poisoned : w.shared.poisoned = true
  store : w.shared.store = w₁.shared.store
  disk : Store.open d.lib.toSerdeJson none w.shared.files d.dataDir =
    Store.open d.lib.toSerdeJson none w₁.shared.files d.dataDir
  refused : ∀ id job c, .call id job c ∈ τ → SectionRefused c

section Runs

variable {d : Daemon} {s₀ : Shared} {τ τ' : List DaemonLabel} {w₁ w w' : DaemonWorld}
variable {l : DaemonLabel}

theorem Frozen.keep (h : Frozen d w₁ τ w) (hpoisoned : w'.shared.poisoned = true)
    (hstore : w'.shared.store = w.shared.store)
    (hdisk : Store.open d.lib.toSerdeJson none w'.shared.files d.dataDir =
      Store.open d.lib.toSerdeJson none w.shared.files d.dataDir)
    (hrefused : ∀ id job c, l = .call id job c → SectionRefused c) : Frozen d w₁ (τ ++ [l]) w' := by
  refine ⟨hpoisoned, hstore.trans h.store, hdisk.trans h.disk, ?_⟩
  intro id job c hc
  rcases List.mem_append.mp hc with hc | hc
  · exact h.refused id job c hc
  · exact hrefused id job c (List.mem_singleton.mp hc).symm

theorem Frozen.step (h : Frozen d w₁ τ' w) (hopened : Opened d s₀) (hrun : DaemonRun d s₀ τ w)
    (hs : Step (system d) w l w') (hl : l ≠ .restart) : Frozen d w₁ (τ' ++ [l]) w' := by
  cases hs with
  | start job => exact h.keep h.poisoned rfl rfl (fun _ _ _ heq => by cases heq)
  | answer thread => exact h.keep h.poisoned rfl rfl (fun _ _ _ heq => by cases heq)
  | @env e s' act =>
    obtain ⟨hstore, hfiles⟩ := env_files act
    refine h.keep ?_ hstore (by rw [hfiles]) (fun _ _ _ heq => by cases heq)
    cases e with
    | payments payments =>
      obtain rfl := act
      exact h.poisoned
    | poison =>
      obtain rfl := act
      rfl
  | restart act => exact absurd rfl hl
  | @call id job hist op k ans s' thread act =>
    obtain ⟨hrefused, hstore, hfiles⟩ := act_refused act h.poisoned
    refine h.keep ((act_poisoned act).trans h.poisoned) hstore ?_ ?_
    · rcases hfiles with hfiles | ⟨path, contents, written, rfl, hfiles⟩
      · simp only [hfiles]
      · obtain ⟨slug, format, hslug, hformat, hpath⟩ := hrun.writes_artifact hopened thread
        have hne := (artifact_ne_index d.productsDir hslug hformat).1
        rw [← hpath] at hne
        simp only [hfiles]
        exact Store.open_congr (Files.write_other hne.symm)
    · intro id' job' c heq
      cases heq
      exact hrefused

theorem DaemonRun.frozen (hopened : Opened d s₀) (hrun : DaemonRun d s₀ τ w₁)
    (hpoisoned : w₁.shared.poisoned = true) (hrest : Run (system d) w₁ τ' w)
    (hlife : .restart ∉ τ') : Frozen d w₁ τ' w := by
  revert hlife
  refine Run.induct (I := fun τ' w => .restart ∉ τ' → Frozen d w₁ τ' w) ?_
    (fun {τ' w l w'} hr ih hs hlife => ?_) hrest
  · intro _
    exact ⟨hpoisoned, rfl, rfl, fun _ _ _ hc => by cases hc⟩
  · refine (ih fun hmem => hlife (List.mem_append_left _ hmem)).step hopened (hrun.trans hr) hs ?_
    rintro rfl
    exact hlife List.mem_concat_self

/-- While the lock is sound, every section is answered. -/
theorem Run.section_answered (hhealthy : w₁.shared.poisoned = false)
    (hrun : Run (system d) w₁ τ w) (hpoison : .env .poison ∉ τ) :
    w.shared.poisoned = false ∧ ∀ id job paymentHash ans,
      .call id job ⟨.markPaid paymentHash, ans⟩ ∈ τ → ans ≠ none := by
  revert hpoison
  refine Run.induct (I := fun τ w => .env .poison ∉ τ → w.shared.poisoned = false ∧
    ∀ id job paymentHash ans, .call id job ⟨.markPaid paymentHash, ans⟩ ∈ τ → ans ≠ none) ?_
    (fun {τ w l w'} hr ih hs hpoison => ?_) hrun
  · intro _
    exact ⟨hhealthy, fun _ _ _ _ hc => by cases hc⟩
  obtain ⟨hsound, hanswered⟩ := ih fun hmem => hpoison (List.mem_append_left _ hmem)
  have hkeep : w'.shared.poisoned = false →
      (∀ id job paymentHash ans, l = .call id job ⟨.markPaid paymentHash, ans⟩ → ans ≠ none) →
      w'.shared.poisoned = false ∧ ∀ id job paymentHash ans,
        .call id job ⟨.markPaid paymentHash, ans⟩ ∈ τ ++ [l] → ans ≠ none := by
    intro hsound' hlast
    refine ⟨hsound', ?_⟩
    intro id job paymentHash ans hc
    rcases List.mem_append.mp hc with hc | hc
    · exact hanswered id job paymentHash ans hc
    · exact hlast id job paymentHash ans (List.mem_singleton.mp hc).symm
  cases hs with
  | start job => exact hkeep hsound (fun _ _ _ _ heq => by cases heq)
  | answer thread => exact hkeep hsound (fun _ _ _ _ heq => by cases heq)
  | @env e s' act =>
    refine hkeep ?_ (fun _ _ _ _ heq => by cases heq)
    cases e with
    | payments payments =>
      obtain rfl := act
      exact hsound
    | poison => exact absurd List.mem_concat_self hpoison
  | restart act =>
    obtain ⟨store, -, rfl⟩ := act
    exact hkeep rfl (fun _ _ _ _ heq => by cases heq)
  | call thread act =>
    refine hkeep ((act_poisoned act).trans hsound) ?_
    intro id job paymentHash ans heq
    cases heq
    exact Shared.section_healthy act hsound

end Runs

/-! ### The storefront -/

/-- The requests that work on the store. -/
def Job.isStorefront : Job → Bool
  | .putProduct .. => true
  | .getProduct _ => true
  | .postInvoice .. => true
  | .getStatus .. => true
  | .getDownload .. => true
  | _ => false

/-- A response that is an error. -/
def Response.IsError (resp : Response) : Prop := ∃ status error, resp = .err status error

section Handlers

variable {lib : Crates}

theorem storeUpload_refused (slug : String) (params : Gate.UploadParams) (body : ByteArray) :
    Assuming SectionRefused Response.IsError (Gate.storeUpload slug params body) := by
  unfold Gate.storeUpload
  simp only [perform_bind, assuming_call]
  rintro ans rfl
  exact ⟨_, _, rfl⟩

theorem putProduct_refused (st : Gate.GateState) (slug : String) (params : Gate.UploadParams)
    (auth : Option String) (body : ByteArray) :
    Assuming SectionRefused Response.IsError (Gate.putProduct lib st slug params auth body) := by
  unfold Gate.putProduct
  split
  · exact ⟨_, _, rfl⟩
  split
  · exact ⟨_, _, rfl⟩
  split
  · exact ⟨_, _, rfl⟩
  split
  · exact ⟨_, _, rfl⟩
  split
  · exact ⟨_, _, rfl⟩
  split
  · exact ⟨_, _, rfl⟩
  simp only [perform_bind, assuming_call]
  intro now _
  split
  · exact ⟨_, _, rfl⟩
  · exact storeUpload_refused slug params body

theorem credentialHash_refused (params : Gate.DownloadParams) :
    Assuming SectionRefused (fun r => ∀ resp, r = .error resp → resp.IsError)
      (Gate.credentialHash lib params) := by
  unfold Gate.credentialHash
  split
  · split
    · intro resp hresp
      cases hresp
      exact ⟨_, _, rfl⟩
    · intro resp hresp
      cases hresp
  · simp only [perform_bind, assuming_call]
    rintro ans rfl resp hresp
    cases hresp
    exact ⟨_, _, rfl⟩
  · intro resp hresp
    cases hresp
    exact ⟨_, _, rfl⟩

theorem getDownload_refused (slug : String) (params : Gate.DownloadParams) :
    Assuming SectionRefused Response.IsError (Gate.getDownload lib slug params) := by
  unfold Gate.getDownload
  apply (credentialHash_refused params).bind
  intro r hr
  split
  · exact hr _ rfl
  · simp only [perform_bind, assuming_call]
    rintro ans rfl
    exact ⟨_, _, rfl⟩

/-- A storefront request whose sections are refused ends with an error. -/
theorem storefront_refused (d : Daemon) {job : Job} (hjob : job.isStorefront = true) :
    Assuming SectionRefused Response.IsError (handle d job) := by
  cases job with
  | putProduct slug params auth body => exact putProduct_refused _ slug params auth body
  | getProduct slug =>
    rintro ans rfl
    exact ⟨_, _, rfl⟩
  | postInvoice slug body =>
    rintro ans rfl
    exact ⟨_, _, rfl⟩
  | getStatus slug claim =>
    rintro ans rfl
    exact ⟨_, _, rfl⟩
  | getDownload slug params => exact getDownload_refused slug params
  | _ => cases hjob

end Handlers

/-! ### The result -/

/-- A poisoned lock fails closed. From then until the next restart memory and index stay as
    they are, no mutator is carried out, every storefront request that comes in is answered
    with an error, and no upload that comes in writes a file. -/
theorem poisoned_fails_closed {d : Daemon} {s₀ : Shared} {τ τ' : List DaemonLabel}
    {w w' : DaemonWorld} (hopened : Opened d s₀) (hrun : DaemonRun d s₀ τ w)
    (hpoisoned : w.shared.poisoned = true) (hrest : Run (system d) w τ' w')
    (hlife : .restart ∉ τ') :
    w'.shared.store = w.shared.store ∧
      Store.open d.lib.toSerdeJson none w'.shared.files d.dataDir =
        Store.open d.lib.toSerdeJson none w.shared.files d.dataDir ∧
      (∀ id job c, .call id job c ∈ τ' → SectionRefused c) ∧
      (∀ id job resp, w.next ≤ id → job.isStorefront = true → .answer id job resp ∈ τ' →
        resp.IsError) ∧
      ∀ id job path contents ans, w.next ≤ id →
        .call id job ⟨.writeFile path contents, ans⟩ ∉ τ' := by
  have hfrozen := hrun.frozen hopened hpoisoned hrest hlife
  refine ⟨hfrozen.store, hfrozen.disk, hfrozen.refused, ?_, ?_⟩
  · intro id job resp hid hjob hanswer
    obtain ⟨hist, hreaches, hcalled⟩ := Run.served_later hrun hrest hid hanswer
    exact (storefront_refused d hjob).of_reaches hreaches
      fun c hc => hfrozen.refused id job c (hcalled c hc)
  · intro id job path contents ans hid hcall
    have hwhole : DaemonRun d s₀ (τ ++ τ') w' := hrun.trans hrest
    obtain ⟨hist, hjust, hcalled⟩ := hwhole.justified (List.mem_append_right _ hcall)
    obtain ⟨-, slug, params, auth, l, rfl, -, -, hlock, -⟩ := hjust
    -- the upload read the store, and it did so under the poisoned lock
    rcases List.mem_append.mp (hcalled _ hlock) with hearlier | hnow
    · exact absurd (hrun.call_lt.2 id _ _ hearlier) (Nat.not_lt.mpr hid)
    · cases hfrozen.refused id _ _ hnow

namespace Sample

/-- A request for the track's metadata, under a poisoned lock. -/
def refusedTrace : List DaemonLabel :=
  served 0 (.getProduct "midnight") [⟨.lock, none⟩] Gate.poisoned

theorem poisoned_run : ∃ w w', DaemonRun (daemon upload) onSale [.env .poison] w ∧
    w.shared.poisoned = true ∧ w.next = 0 ∧ Run (system (daemon upload)) w refusedTrace w' := by
  have hinitial : DaemonRun (daemon upload) onSale [] (World.initial onSale) := .refl
  have henv : (system (daemon upload)).env onSale .poison { onSale with poisoned := true } := rfl
  have hpoisoned := hinitial.snoc (.env henv)
  have hstart : Reaches (Gate.getProduct "midnight") [] (Gate.getProduct "midnight") := .refl
  have hlocked := Reaches.step (none : Option Locked) hstart
  have hreaches : Reaches ((system (daemon upload)).program (.getProduct "midnight"))
      [⟨.lock, none⟩] (.done Gate.poisoned) := hlocked
  have hbase : Run (system (daemon upload))
      ({ World.initial onSale with shared := { onSale with poisoned := true } } : DaemonWorld) []
      { World.initial onSale with shared := { onSale with poisoned := true } } := .refl
  have hperforms : Performs (system (daemon upload)) { onSale with poisoned := true }
      [⟨.lock, none⟩] { onSale with poisoned := true } :=
    ⟨_, ⟨rfl, Or.inl ⟨rfl, rfl⟩⟩, rfl⟩
  obtain ⟨w', hrun, -, -⟩ := hbase.serve hreaches hperforms
  exact ⟨_, w', hpoisoned, rfl, rfl, hrun⟩

end Sample

/-- The request for the track's metadata fails. -/
theorem poisoned_fails_closed_midnight : Gate.poisoned.IsError := by
  obtain ⟨w, w', hrun, hpoisoned, hnext, hrest⟩ := Sample.poisoned_run
  have hlife : .restart ∉ Sample.refusedTrace := by simp [Sample.refusedTrace, served]
  have hanswer : .answer 0 (.getProduct "midnight") Gate.poisoned ∈ Sample.refusedTrace := by
    simp [Sample.refusedTrace, served]
  exact (poisoned_fails_closed (Sample.opened_onSale Sample.upload) hrun hpoisoned hrest
    hlife).2.2.2.1 0 _ _ (Nat.le_of_eq hnext) rfl hanswer

end ArtistNode
