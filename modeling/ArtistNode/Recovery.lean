import ArtistNode.Base.Journal
import ArtistNode.PaidBuyer

/-!
# What crashes leave of the ledger

The handlers change the store in sections that interleave, fail to persist, and are cut
short by restarts. Here a run of the daemon is one journal: its changes are the calls of
the three mutators in the order of their sections, its disk is what a reopening of the
store would find. From it come what survives any number of crashes, what a crash can
take away, and what settling a payment does, however often and whenever it is done.
-/

namespace ArtistNode

open Base

/-! ### Sections as changes -/

/-- What a step does to the journal of the store. A mutator that returned `Ok` after a
    change has written it. -/
def journalEvent : DaemonLabel → Option (JournalEvent Mutation)
  | .call _ _ ⟨.upsertProduct record, some result⟩ =>
    some (.change (.upsertProduct record) result.isOk)
  | .call _ _ ⟨.createPurchase paymentHash slug amountMsat createdAt claimToken, some result⟩ =>
    some (.change (.createPurchase paymentHash slug amountMsat createdAt claimToken) result.isOk)
  | .call _ _ ⟨.markPaid paymentHash, some result⟩ =>
    some (.change (.markPaid paymentHash) result.isOk)
  | .restart => some .restart
  | _ => none

/-- The events of a trace. -/
def journalOf (τ : List DaemonLabel) : List (JournalEvent Mutation) := τ.filterMap journalEvent

/-- The changes that a trace asks for. -/
def changesOf (τ : List DaemonLabel) : List Mutation :=
  (journalOf τ).filterMap JournalEvent.change?

/-- A change of the ledger, or nothing where there is nothing to change. -/
abbrev Mutation.apply (state : Persisted) (m : Mutation) : Persisted :=
  applyChange Mutation.change state m

theorem Except.isOk_map {ε α β : Type} (f : α → β) (r : Except ε α) :
    (r.map f).isOk = r.isOk := by
  cases r with
  | ok a => rfl
  | error e => rfl

theorem Mutation.run_state (json : SerdeJson) (io : PersistIo) (s : Store) (files : Files)
    (m : Mutation) : (m.run json io s files).2.1 = ⟨s.dir, Mutation.apply s.state m⟩ := by
  rcases m.run_cases json io s files with ⟨hnone, hrun⟩ | ⟨state, hsome, hrun⟩
  · rw [hrun, Mutation.apply, applyChange, hnone]
    rfl
  · rw [hrun, Mutation.apply, applyChange, hsome]
    rfl

section Sections

variable {d : Daemon} {s s' : Shared}

/-- An operation is a mutator whose answer says whether its change was written, or it
    leaves the store and at most writes a file. -/
theorem act_journal (id : Nat) (job : Job) {op : Op} {ans : Answer op} (h : act d s op ans s') :
    (∃ m io, journalEvent (.call id job ⟨op, ans⟩) =
        some (.change m (m.run d.lib.toSerdeJson io s.store s.files).1.isOk) ∧
      op.mutation = some m ∧ s' = s.mutate d.lib.toSerdeJson m io) ∨
    journalEvent (.call id job ⟨op, ans⟩) = none ∧ s'.store = s.store ∧
      (s'.files = s.files ∨ ∃ path contents written, op = .writeFile path contents ∧
        s'.files = s.files.write path written) := by
  cases op with
  | upsertProduct record =>
    rcases Shared.section_cases h with ⟨rfl, rfl⟩ | ⟨-, io, rfl, rfl⟩
    · exact Or.inr ⟨rfl, rfl, Or.inl rfl⟩
    · refine Or.inl ⟨.upsertProduct record, io, ?_, rfl, rfl⟩
      simp only [journalEvent, Mutation.run, Except.isOk_map]
  | createPurchase paymentHash slug amountMsat createdAt claimToken =>
    rcases Shared.section_cases h with ⟨rfl, rfl⟩ | ⟨-, io, rfl, rfl⟩
    · exact Or.inr ⟨rfl, rfl, Or.inl rfl⟩
    · refine Or.inl ⟨.createPurchase paymentHash slug amountMsat createdAt claimToken, io, ?_, rfl,
        rfl⟩
      simp only [journalEvent, Mutation.run, Except.isOk_map]
  | markPaid paymentHash =>
    rcases Shared.section_cases h with ⟨rfl, rfl⟩ | ⟨-, io, rfl, rfl⟩
    · exact Or.inr ⟨rfl, rfl, Or.inl rfl⟩
    · exact Or.inl ⟨.markPaid paymentHash, io, rfl, rfl, rfl⟩
  | writeFile path contents =>
    refine Or.inr ⟨rfl, ?_⟩
    rcases h with ⟨-, rfl⟩ | ⟨e, -, rfl | ⟨written, rfl⟩⟩
    · exact ⟨rfl, Or.inr ⟨path, contents, contents, rfl, rfl⟩⟩
    · exact ⟨rfl, Or.inl rfl⟩
    · exact ⟨rfl, Or.inr ⟨path, contents, _, rfl, rfl⟩⟩
  | lock =>
    obtain ⟨rfl, -⟩ := h
    exact Or.inr ⟨rfl, rfl, Or.inl rfl⟩
  | openFile path =>
    obtain ⟨rfl, -⟩ := h
    exact Or.inr ⟨rfl, rfl, Or.inl rfl⟩
  | listPayments =>
    obtain ⟨rfl, -⟩ := h
    exact Or.inr ⟨rfl, rfl, Or.inl rfl⟩
  | _ =>
    have hs : s' = s := h
    subst hs
    exact Or.inr ⟨rfl, rfl, Or.inl rfl⟩

end Sections

/-! ### A run is a journal -/

/-- The store in memory and the index on disk are those of the journal. -/
structure Mirrors (d : Daemon) (s : Shared) (j : Journal Persisted) : Prop where
  memory : s.store = ⟨d.productsDir, j.memory⟩
  disk : Store.open d.lib.toSerdeJson none s.files d.dataDir = .ok ⟨d.productsDir, j.disk⟩

section Runs

variable {d : Daemon} {s s' s₀ : Shared} {j : Journal Persisted} {τ τ' : List DaemonLabel}
variable {w w' : DaemonWorld} {l : DaemonLabel}

theorem Opened.mirrors (h : Opened d s) : Mirrors d s ⟨s.store.state, s.store.state⟩ := by
  have hdir : s.store.dir = d.productsDir := Store.open_dir h.1
  have hstore : s.store = ⟨d.productsDir, s.store.state⟩ := by rw [← hdir]
  constructor
  · exact hstore
  · rw [h.1]
    exact congrArg Except.ok hstore

theorem Mirrors.mutate (h : Mirrors d s j) (hjson : d.lib.Lossless) (m : Mutation)
    (io : PersistIo) :
    Mirrors d (s.mutate d.lib.toSerdeJson m io)
      (j.step Mutation.change
        (.change m (m.run d.lib.toSerdeJson io s.store s.files).1.isOk)) := by
  have hdir : s.store.dir = joinPath d.dataDir "products" := by
    rw [h.memory]
    rfl
  have hstate : s.store.state = j.memory := by rw [h.memory]
  rcases m.run_cases d.lib.toSerdeJson io s.store s.files with ⟨hnone, hrun⟩ | ⟨state, hsome, hrun⟩
  · rw [hstate] at hnone
    rw [Journal.step_none hnone]
    constructor
    · simp only [Shared.mutate, hrun]
      exact h.memory
    · simp only [Shared.mutate, hrun]
      exact h.disk
  · have hchange : Mutation.change j.memory m = some state := by rwa [← hstate]
    rw [Journal.step_some hchange]
    constructor
    · simp only [Shared.mutate, hrun]
      rw [h.memory]
    · rcases hres : (m.run d.lib.toSerdeJson io s.store s.files).1 with e | b
      · obtain ⟨-, hopen⟩ := Mutation.open_run_error hdir hres
        exact hopen.trans h.disk
      · obtain ⟨-, hopen⟩ := Mutation.open_run_ok hjson hdir hsome hres
        refine hopen.trans ?_
        rw [h.memory]
        rfl

/-- Each step is an event of the journal, or leaves it as it is. -/
theorem Mirrors.step (h : Mirrors d w.shared j) (hopened : Opened d s₀) (hjson : d.lib.Lossless)
    (hrun : DaemonRun d s₀ τ w) (hs : Step (system d) w l w') :
    Mirrors d w'.shared (j.replay Mutation.change (journalOf [l])) := by
  cases hs with
  | start job => exact h
  | answer thread => exact h
  | env act =>
    obtain ⟨hstore, hfiles⟩ := env_files act
    constructor
    · exact hstore.trans h.memory
    · simp only [hfiles]
      exact h.disk
  | restart act =>
    obtain ⟨store, hreopen, rfl⟩ := act
    constructor
    · exact Except.ok.inj (hreopen.symm.trans h.disk)
    · exact h.disk
  | @call id job hist op k ans s' thread act =>
    rcases act_journal id job act with
      ⟨m, io, hevent, -, rfl⟩ | ⟨hnone, hstore, hfiles⟩
    · have hone : journalOf [.call id job ⟨op, ans⟩] =
          [.change m (m.run d.lib.toSerdeJson io w.shared.store w.shared.files).1.isOk] := by
        simp [journalOf, hevent]
      rw [hone]
      exact h.mutate hjson m io
    · have hnil : journalOf [.call id job ⟨op, ans⟩] = [] := by simp [journalOf, hnone]
      rw [hnil]
      constructor
      · exact hstore.trans h.memory
      · rcases hfiles with hfiles | ⟨path, contents, written, rfl, hfiles⟩
        · simp only [hfiles]
          exact h.disk
        · -- the file is an artifact, not the index
          obtain ⟨slug, format, hslug, hformat, hpath⟩ := hrun.writes_artifact hopened thread
          have hne := (artifact_ne_index d.productsDir hslug hformat).1
          rw [← hpath] at hne
          simp only [hfiles]
          exact (Store.open_congr (Files.write_other hne.symm)).trans h.disk

/-- The rest of a run replays its sections on what memory and disk hold. -/
theorem Mirrors.run (h : Mirrors d w.shared j) (hopened : Opened d s₀) (hjson : d.lib.Lossless)
    (hrun : DaemonRun d s₀ τ w) (hrest : Run (system d) w τ' w') :
    Mirrors d w'.shared (j.replay Mutation.change (journalOf τ')) := by
  refine Run.induct (I := fun τ' w' =>
    Mirrors d w'.shared (j.replay Mutation.change (journalOf τ'))) h
    (fun {τ' w₁ l w₂} hr ih hs => ?_) hrest
  have hstep := ih.step hopened hjson (hrun.trans hr) hs
  rw [← Journal.replay_append] at hstep
  have happend : journalOf (τ' ++ [l]) = journalOf τ' ++ journalOf [l] := List.filterMap_append
  rw [happend]
  exact hstep

theorem DaemonRun.mirrors (hopened : Opened d s₀) (hjson : d.lib.Lossless)
    (hrun : DaemonRun d s₀ τ w) :
    Mirrors d w.shared
      (Journal.replay Mutation.change ⟨s₀.store.state, s₀.store.state⟩ (journalOf τ)) := by
  have hbase : DaemonRun d s₀ [] (World.initial s₀) := .refl
  have hinitial : Mirrors d (World.initial s₀ : DaemonWorld).shared
      ⟨s₀.store.state, s₀.store.state⟩ := hopened.mirrors
  exact hinitial.run hopened hjson hbase hrun

end Runs

namespace Sample

/-- A restart after the payment, and then the download. -/
def laterTrace : List DaemonLabel :=
  [.restart] ++ served 1 downloadRequest downloadCalls downloadAnswer

/-- Only the sale obtains anything. -/
theorem fresh_later : Fresh (daemon upload).lib onSale.store.state (paidTrace ++ laterTrace) := by
  have hreopened : Fresh (daemon upload).lib onSale.store.state (paidTrace ++ [.restart]) := by
    apply fresh_paid.append
    intro l hl
    rw [List.mem_singleton.mp hl]
    exact ⟨rfl, rfl⟩
  rw [laterTrace, ← List.append_assoc]
  exact hreopened.append_served (by simp [downloadRequest])

/-- The sale and the payment, then a restart and the download. -/
theorem later_run : ∃ w w', DaemonRun (daemon upload) onSale paidTrace w ∧
    Run (system (daemon upload)) w laterTrace w' ∧ w'.shared = afterDownload := by
  obtain ⟨w, hpaid, hshared, hnext⟩ := paid_run
  have hreopen : (system (daemon upload)).restart w.shared afterPayment := by
    rw [hshared]
    exact reopened_afterPayment
  obtain ⟨w', hrun, hafter, -⟩ :=
    (Run.refl.snoc (Step.restart hreopen)).serve download_reaches download_performs
  rw [hnext] at hrun
  exact ⟨w, w', hpaid, hrun, hafter⟩

theorem committed_later :
    Journal.committed Mutation.change ⟨listed, listed⟩ (journalOf (paidTrace ++ laterTrace)) =
      [createSale, markSale] := by
  rfl

end Sample

section Survival

variable {d : Daemon} {s₀ : Shared} {τ τ' : List DaemonLabel} {w w' : DaemonWorld}

/-- The store is the replay of the calls that survived. After any run, with any
    interleaving, persist failures and crashes, the index on disk holds the calls that
    are `kept` and memory those and the `pending` ones, in the order of their sections;
    every call that changed something and was answered `Ok` is kept. -/
theorem store_is_replay (hopened : Opened d s₀) (hjson : d.lib.Lossless)
    (hrun : DaemonRun d s₀ τ w) :
    ∃ kept pending : List Mutation,
      Store.open d.lib.toSerdeJson none w.shared.files d.dataDir =
        .ok ⟨d.productsDir, kept.foldl Mutation.apply s₀.store.state⟩ ∧
      w.shared.store = ⟨d.productsDir, (kept ++ pending).foldl Mutation.apply s₀.store.state⟩ ∧
      (Journal.committed Mutation.change ⟨s₀.store.state, s₀.store.state⟩ (journalOf τ)).Sublist
        kept ∧
      (kept ++ pending).Sublist (changesOf τ) := by
  have hmirrors := hrun.mirrors hopened hjson
  obtain ⟨kept, pending, hsurvives⟩ :=
    Journal.replay_survives Mutation.change s₀.store.state (journalOf τ)
  refine ⟨kept, pending, ?_, ?_, hsurvives.durable, hsurvives.asked⟩
  · rw [hmirrors.disk, hsurvives.disk]
  · rw [hmirrors.memory, hsurvives.memory]

/-- The sale and its payment survive the restart between them. -/
theorem store_is_replay_sale : ∃ kept pending : List Mutation,
    Sample.afterDownload.store =
      ⟨(Sample.daemon Sample.upload).productsDir,
        (kept ++ pending).foldl Mutation.apply Sample.listed⟩ ∧
      [Sample.createSale, Sample.markSale].Sublist kept := by
  obtain ⟨w, w', hrun, hlater, hshared⟩ := Sample.later_run
  obtain ⟨kept, pending, -, hmemory, hdurable, -⟩ :=
    store_is_replay (Sample.opened_onSale Sample.upload) Sample.json_lossless (hrun.trans hlater)
  rw [hshared] at hmemory
  have hcommitted := Sample.committed_later
  exact ⟨kept, pending, hmemory, hcommitted ▸ hdurable⟩

end Survival

/-! ### The disk only grows -/

instance : IsPreorder Persisted Persisted.Grows where
  refl := Persisted.Grows.refl
  trans _ _ _ := Persisted.Grows.trans

section Growth

variable {d : Daemon} {s₀ : Shared} {j : Journal Persisted} {τ τ' : List DaemonLabel}
variable {w w' : DaemonWorld} {l : DaemonLabel}

/-- A step keeps the disk below memory and lets it grow, also when the step is a
    restart. -/
theorem Mirrors.grows (h : Mirrors d w.shared j) (hbelow : j.Below Persisted.Grows)
    (hopened : Opened d s₀) (hjson : d.lib.Lossless) (hrun : DaemonRun d s₀ τ w)
    (hfresh : Fresh d.lib s₀.store.state τ) (hs : Step (system d) w l w') :
    (j.replay Mutation.change (journalOf [l])).Below Persisted.Grows ∧
      j.disk.Grows (j.replay Mutation.change (journalOf [l])).disk := by
  have hmirrors := h.step hopened hjson hrun hs
  rcases hevent : journalEvent l with _ | e
  · have hnil : journalOf [l] = [] := by simp [journalOf, hevent]
    rw [hnil]
    exact ⟨hbelow, .refl _⟩
  · have hone : journalOf [l] = [e] := by simp [journalOf, hevent]
    rw [hone] at hmirrors ⊢
    refine Journal.Below.step hbelow e ?_
    rintro m written state rfl hchange
    -- only a restart makes memory smaller, and it is not a change
    have hl : l ≠ .restart := by
      rintro rfl
      cases hevent
    have hseen := hrun.seen hopened (fun _ => hjson) hfresh
    have hgrows := hseen.grows hopened hrun (fun _ => hjson) hfresh hs hl
    have hafter : (j.replay Mutation.change [.change m written]).memory = state := by
      simp only [Journal.replay, List.foldl_cons, List.foldl_nil, Journal.step_some hchange]
    rwa [h.memory, hmirrors.memory, hafter] at hgrows

/-- The disk is below memory in every state of a run, and from there on it grows. -/
theorem Mirrors.grows_run (h : Mirrors d w.shared j) (hbelow : j.Below Persisted.Grows)
    (hopened : Opened d s₀) (hjson : d.lib.Lossless) (hrun : DaemonRun d s₀ τ w)
    (hrest : Run (system d) w τ' w') (hfresh : Fresh d.lib s₀.store.state (τ ++ τ')) :
    ∃ j', Mirrors d w'.shared j' ∧ j'.Below Persisted.Grows ∧ j.disk.Grows j'.disk := by
  revert hfresh
  refine Run.induct (I := fun τ' w' => Fresh d.lib s₀.store.state (τ ++ τ') →
    ∃ j', Mirrors d w'.shared j' ∧ j'.Below Persisted.Grows ∧ j.disk.Grows j'.disk)
    (fun _ => ⟨j, h, hbelow, .refl _⟩) (fun {τ' w₁ l w₂} hr ih hs hfresh => ?_) hrest
  rw [← List.append_assoc] at hfresh
  obtain ⟨j₁, hmirrors, hbelow₁, hgrown⟩ := ih hfresh.of_append
  have hrun₁ : DaemonRun d s₀ (τ ++ τ') w₁ := hrun.trans hr
  obtain ⟨hbelow₂, hstep⟩ := hmirrors.grows hbelow₁ hopened hjson hrun₁ hfresh.of_append hs
  exact ⟨_, hmirrors.step hopened hjson hrun₁ hs, hbelow₂, hgrown.trans hstep⟩

/-- At any moment of a run the index on disk is below memory. -/
theorem DaemonRun.below (hopened : Opened d s₀) (hjson : d.lib.Lossless)
    (hrun : DaemonRun d s₀ τ w) (hfresh : Fresh d.lib s₀.store.state τ) :
    ∃ j, Mirrors d w.shared j ∧ j.Below Persisted.Grows := by
  have hbase : DaemonRun d s₀ [] (World.initial s₀) := .refl
  have hinitial : Mirrors d (World.initial s₀ : DaemonWorld).shared
      ⟨s₀.store.state, s₀.store.state⟩ := hopened.mirrors
  obtain ⟨j, hmirrors, hbelow, -⟩ := hinitial.grows_run (Persisted.Grows.refl _) hopened hjson
    hbase hrun hfresh
  exact ⟨j, hmirrors, hbelow⟩

/-- What is on disk is never lost, as long as hashes and tokens are not reused. Between any
    two moments of a run, whatever fails to persist and however often the process restarts,
    each product on disk stays there and each purchase on disk stays there with its fields and
    a set flag, and memory always holds at least what is on disk. -/
theorem disk_only_grows (hopened : Opened d s₀) (hjson : d.lib.Lossless)
    (hrun : DaemonRun d s₀ τ w) (hrest : Run (system d) w τ' w')
    (hfresh : Fresh d.lib s₀.store.state (τ ++ τ')) :
    ∃ disk disk',
      Store.open d.lib.toSerdeJson none w.shared.files d.dataDir = .ok ⟨d.productsDir, disk⟩ ∧
      Store.open d.lib.toSerdeJson none w'.shared.files d.dataDir = .ok ⟨d.productsDir, disk'⟩ ∧
      disk.Grows w.shared.store.state ∧ disk.Grows disk' ∧
      disk'.Grows w'.shared.store.state := by
  obtain ⟨j, hmirrors, hbelow⟩ := hrun.below hopened hjson hfresh.of_append
  obtain ⟨j', hmirrors', hbelow', hgrown⟩ :=
    hmirrors.grows_run hbelow hopened hjson hrun hrest hfresh
  refine ⟨j.disk, j'.disk, hmirrors.disk, hmirrors'.disk, ?_, hgrown, ?_⟩
  · rw [hmirrors.memory]
    exact hbelow
  · rw [hmirrors'.memory]
    exact hbelow'

/-- The sale of the track is on disk before the restart, and what is in memory after the
    download is no less. -/
theorem disk_only_grows_sale : ∃ disk : Persisted,
    Store.open Sample.json none Sample.afterDownload.files Sample.dataDir =
      .ok ⟨(Sample.daemon Sample.upload).productsDir, disk⟩ ∧
    disk.Grows Sample.afterDownload.store.state := by
  obtain ⟨w, w', hrun, hlater, hshared⟩ := Sample.later_run
  obtain ⟨disk, disk', -, hopen, -, -, hgrows⟩ :=
    disk_only_grows (Sample.opened_onSale Sample.upload) Sample.json_lossless hrun hlater
      Sample.fresh_later
  rw [hshared] at hopen hgrows
  exact ⟨disk', hopen, hgrows⟩

end Growth

/-! ### What settling does -/

namespace Mutation

/-- A call that does not record a purchase under this hash does nothing to the purchase
    but set its flag, and `mark_paid` does that. -/
theorem lookup_apply {m : Mutation} {state : Persisted} {hash : String} {p : PurchaseRecord}
    (hp : state.purchases.lookup hash = some p)
    (hother : ∀ slug amountMsat createdAt claimToken,
      m ≠ .createPurchase hash slug amountMsat createdAt claimToken) :
    (Mutation.apply state m).purchases.lookup hash =
      some { p with paid := p.paid || decide (m = .markPaid hash) } := by
  by_cases hkey : m.purchaseKey = some hash
  · cases m with
    | upsertProduct record => cases hkey
    | createPurchase hash' slug amountMsat createdAt claimToken =>
      obtain rfl := Option.some.inj hkey
      exact absurd rfl (hother slug amountMsat createdAt claimToken)
    | markPaid hash' =>
      obtain rfl := Option.some.inj hkey
      rcases hchange : change state (.markPaid hash') with _ | after
      · have hpaid : p.paid = true := change_markPaid_eq_none hchange p hp
        rw [Mutation.apply, applyChange, hchange]
        simp [hp, ← hpaid]
      · obtain ⟨q, hq, -, rfl⟩ := change_markPaid hchange
        obtain rfl : q = p := Option.some.inj (hq.symm.trans hp)
        rw [Mutation.apply, applyChange, hchange]
        simp [Persisted.setPaid]
  · have hmark : m ≠ .markPaid hash := by
      rintro rfl
      exact hkey rfl
    have hsame : (Mutation.apply state m).purchases.lookup hash = some p := by
      rcases hchange : change state m with _ | after
      · rw [Mutation.apply, applyChange, hchange]
        exact hp
      · rw [Mutation.apply, applyChange, hchange]
        exact (m.purchases_of_change hchange hkey).trans hp
    simp [hsame, hmark]

/-- A purchase that a call brings to the ledger is the one it records. -/
theorem lookup_apply_new {m : Mutation} {state : Persisted} {hash : String} {q : PurchaseRecord}
    (hnone : state.purchases.lookup hash = none)
    (hq : (Mutation.apply state m).purchases.lookup hash = some q) :
    ∃ slug amountMsat createdAt claimToken,
      m = .createPurchase hash slug amountMsat createdAt claimToken ∧
      q = newPurchase hash slug amountMsat createdAt claimToken := by
  rcases hchange : change state m with _ | after
  · rw [Mutation.apply, applyChange, hchange] at hq
    cases hnone.symm.trans hq
  have hafter : after.purchases.lookup hash = some q := by
    rwa [Mutation.apply, applyChange, hchange] at hq
  by_cases hkey : m.purchaseKey = some hash
  · cases m with
    | upsertProduct record => cases hkey
    | createPurchase hash' slug amountMsat createdAt claimToken =>
      obtain rfl := Option.some.inj hkey
      obtain rfl := Option.some.inj hchange
      have hinsert := hafter.symm.trans (Finmap.lookup_insert _)
      exact ⟨slug, amountMsat, createdAt, claimToken, rfl, Option.some.inj hinsert⟩
    | markPaid hash' =>
      obtain rfl := Option.some.inj hkey
      obtain ⟨p, hp, -⟩ := change_markPaid hchange
      cases hnone.symm.trans hp
  · rw [m.purchases_of_change hchange hkey] at hafter
    cases hnone.symm.trans hafter

end Mutation

section Settling

variable {d : Daemon} {s₀ : Shared} {τ τ' : List DaemonLabel} {w w' : DaemonWorld}
variable {hash : String} {p : PurchaseRecord}

theorem mem_changesOf_concat {l : DaemonLabel} {m : Mutation} :
    m ∈ changesOf (τ ++ [l]) ↔ m ∈ changesOf τ ∨ m ∈ changesOf [l] := by
  simp only [changesOf, journalOf, List.filterMap_append, List.mem_append]

/-- Within one lifetime a purchase that is there changes in nothing but its flag, which
    the first `mark_paid` of its hash sets. -/
theorem DaemonRun.flag_decided (hopened : Opened d s₀) (hjson : .restart ∈ τ → d.lib.Lossless)
    (hrun : DaemonRun d s₀ τ w) (hrest : Run (system d) w τ' w') (hlife : .restart ∉ τ')
    (hfresh : Fresh d.lib s₀.store.state (τ ++ τ')) (hp : w.shared.store.getPurchase hash = some p) :
    w'.shared.store.getPurchase hash =
      some { p with paid := p.paid || decide (.markPaid hash ∈ changesOf τ') } := by
  revert hlife hfresh
  refine Run.induct (I := fun τ' w' => .restart ∉ τ' → Fresh d.lib s₀.store.state (τ ++ τ') →
    w'.shared.store.getPurchase hash =
      some { p with paid := p.paid || decide (.markPaid hash ∈ changesOf τ') }) ?_
    (fun {τ' w₁ l w₂} hr ih hs hlife hfresh => ?_) hrest
  · intro _ _
    simp [changesOf, journalOf, hp]
  have hlife' : .restart ∉ τ' := fun hmem => hlife (List.mem_append_left _ hmem)
  rw [← List.append_assoc] at hfresh
  have hq := ih hlife' hfresh.of_append
  have hrun₁ : DaemonRun d s₀ (τ ++ τ') w₁ := hrun.trans hr
  have hjson₁ : .restart ∈ τ ++ τ' → d.lib.Lossless :=
    fun hmem => hjson ((List.mem_append.mp hmem).resolve_right hlife')
  -- a step that asks for no change leaves the ledger
  have hquiet : w₂.shared.store = w₁.shared.store → changesOf [l] = [] →
      w₂.shared.store.getPurchase hash =
        some { p with paid := p.paid || decide (.markPaid hash ∈ changesOf (τ' ++ [l])) } := by
    intro hstore hnone
    rw [hstore, hq]
    simp [mem_changesOf_concat, hnone]
  cases hs with
  | start job => exact hquiet rfl rfl
  | answer thread => exact hquiet rfl rfl
  | env act => exact hquiet (env_files act).1 rfl
  | restart act => exact absurd (List.mem_append_right _ (List.mem_singleton_self _)) hlife
  | @call id job hist op k ans s' thread act =>
    rcases act_journal id job act with
      ⟨m, io, hevent, hop, rfl⟩ | ⟨hnone, hstore, -⟩
    · have hone : changesOf [.call id job ⟨op, ans⟩] = [m] := by
        simp [changesOf, journalOf, hevent, JournalEvent.change?]
      have hother : ∀ slug amountMsat createdAt claimToken,
          m ≠ .createPurchase hash slug amountMsat createdAt claimToken := by
        rintro slug amountMsat createdAt claimToken rfl
        cases op with
        | createPurchase hash' slug' amountMsat' createdAt' claimToken' =>
          cases hop
          have hunused := (hrun₁.unused hopened hjson₁ hfresh.of_append thread).1
          exact hunused (Finmap.mem_of_lookup_eq_some hq)
        | _ => cases hop
      have hafter := Mutation.lookup_apply hq hother
      simp only [Shared.mutate, Store.getPurchase, Mutation.run_state]
      rw [hafter]
      simp [mem_changesOf_concat, hone, eq_comm, Bool.or_assoc]
    · exact hquiet hstore (by simp [changesOf, journalOf, hnone])

/-- A purchase that a step brings to the ledger is the one its call recorded. -/
theorem purchase_created {l : DaemonLabel} {q : PurchaseRecord}
    (hs : Step (system d) w l w') (hl : l ≠ .restart)
    (hnone : w.shared.store.getPurchase hash = none)
    (hq : w'.shared.store.getPurchase hash = some q) :
    ∃ id job slug amountMsat createdAt claimToken ans,
      l = .call id job ⟨.createPurchase hash slug amountMsat createdAt claimToken, ans⟩ ∧
      q = newPurchase hash slug amountMsat createdAt claimToken := by
  have hquiet : w'.shared.store ≠ w.shared.store := by
    intro hstore
    rw [hstore, hnone] at hq
    cases hq
  cases hs with
  | start job => exact absurd rfl hquiet
  | answer thread => exact absurd rfl hquiet
  | env act => exact absurd (env_files act).1 hquiet
  | restart act => exact absurd rfl hl
  | @call id job hist op k ans s' thread act =>
    rcases act_journal id job act with ⟨m, io, -, hop, rfl⟩ | ⟨-, hstore, -⟩
    · simp only [Shared.mutate, Store.getPurchase, Mutation.run_state] at hq
      obtain ⟨slug, amountMsat, createdAt, claimToken, rfl, rfl⟩ :=
        Mutation.lookup_apply_new hnone hq
      refine ⟨id, job, slug, amountMsat, createdAt, claimToken, ?_⟩
      cases op with
      | createPurchase =>
        cases hop
        exact ⟨ans, rfl, rfl⟩
      | _ => cases hop
    · exact absurd hstore hquiet

/-- A purchase that is new was recorded by a call, unpaid, and its flag is set by a later
    `mark_paid`. -/
theorem DaemonRun.new_purchase {q : PurchaseRecord} (hopened : Opened d s₀)
    (hjson : .restart ∈ τ → d.lib.Lossless) (hrun : DaemonRun d s₀ τ w)
    (hrest : Run (system d) w τ' w') (hlife : .restart ∉ τ')
    (hfresh : Fresh d.lib s₀.store.state (τ ++ τ'))
    (hnone : w.shared.store.getPurchase hash = none)
    (hq : w'.shared.store.getPurchase hash = some q) :
    ∃ τ₁ τ₂ id job slug amountMsat createdAt claimToken ans,
      τ' = τ₁ ++
        .call id job ⟨.createPurchase hash slug amountMsat createdAt claimToken, ans⟩ :: τ₂ ∧
      q = { newPurchase hash slug amountMsat createdAt claimToken with
        paid := decide (.markPaid hash ∈ changesOf τ₂) } := by
  revert hlife hfresh q
  refine Run.induct (I := fun τ' w' => ∀ {q}, .restart ∉ τ' →
    Fresh d.lib s₀.store.state (τ ++ τ') → w'.shared.store.getPurchase hash = some q →
      ∃ τ₁ τ₂ id job slug amountMsat createdAt claimToken ans,
        τ' = τ₁ ++
          .call id job ⟨.createPurchase hash slug amountMsat createdAt claimToken, ans⟩ :: τ₂ ∧
        q = { newPurchase hash slug amountMsat createdAt claimToken with
          paid := decide (.markPaid hash ∈ changesOf τ₂) }) ?_
    (fun {τ' w₁ l w₂} hr ih hs q hlife hfresh hq => ?_) hrest
  · intro q _ _ hq
    rw [hnone] at hq
    cases hq
  have hlife' : .restart ∉ τ' := fun hmem => hlife (List.mem_append_left _ hmem)
  have hlast : l ≠ .restart := by
    intro heq
    exact hlife (List.mem_append_right _ (List.mem_singleton.mpr heq.symm))
  rcases hbefore : w₁.shared.store.getPurchase hash with _ | p
  · obtain ⟨id, job, slug, amountMsat, createdAt, claimToken, ans, rfl, rfl⟩ :=
      purchase_created hs hlast hbefore hq
    exact ⟨τ', [], id, job, slug, amountMsat, createdAt, claimToken, ans, rfl, rfl⟩
  · rw [← List.append_assoc] at hfresh
    obtain ⟨τ₁, τ₂, id, job, slug, amountMsat, createdAt, claimToken, ans, rfl, rfl⟩ :=
      ih hlife' hfresh.of_append hbefore
    have hrun₁ : DaemonRun d s₀ _ w₁ := hrun.trans hr
    have hjson₁ : .restart ∈ τ ++ (τ₁ ++
        .call id job ⟨.createPurchase hash slug amountMsat createdAt claimToken, ans⟩ :: τ₂) →
        d.lib.Lossless := fun hmem => hjson ((List.mem_append.mp hmem).resolve_right hlife')
    have hone : Run (system d) w₁ [l] w₂ := Run.refl.snoc hs
    have hafter := hrun₁.flag_decided hopened hjson₁ hone (by simpa using hlast.symm) hfresh hbefore
    refine ⟨τ₁, τ₂ ++ [l], id, job, slug, amountMsat, createdAt, claimToken, ans, by simp, ?_⟩
    rw [hq] at hafter
    rw [Option.some.inj hafter]
    simp [mem_changesOf_concat]

/-- A lifetime's ledger is decided by its calls, as long as hashes and tokens are not reused.
    A purchase changes in nothing but its flag, which is set from the first `mark_paid` of its
    hash on: not earlier, whatever else happens, and not later, even where that call fails to
    persist. A purchase that is new was recorded by one call and no other, unpaid, and only a
    later `mark_paid` counts for it. -/
theorem settlement_decides_flag (hopened : Opened d s₀) (hjson : .restart ∈ τ → d.lib.Lossless)
    (hrun : DaemonRun d s₀ τ w) (hrest : Run (system d) w τ' w') (hlife : .restart ∉ τ')
    (hfresh : Fresh d.lib s₀.store.state (τ ++ τ')) :
    (∀ hash p, w.shared.store.getPurchase hash = some p →
      w'.shared.store.getPurchase hash =
        some { p with paid := p.paid || decide (.markPaid hash ∈ changesOf τ') }) ∧
    ∀ hash q, w.shared.store.getPurchase hash = none →
      w'.shared.store.getPurchase hash = some q →
      (recordedHashes (τ ++ τ')).count hash = 1 ∧
      ∃ τ₁ τ₂ id job slug amountMsat createdAt claimToken ans,
        τ' = τ₁ ++
          .call id job ⟨.createPurchase hash slug amountMsat createdAt claimToken, ans⟩ :: τ₂ ∧
        q = { newPurchase hash slug amountMsat createdAt claimToken with
          paid := decide (.markPaid hash ∈ changesOf τ₂) } := by
  constructor
  · intro hash p hp
    exact hrun.flag_decided hopened hjson hrest hlife hfresh hp
  intro hash q hnone hq
  obtain ⟨τ₁, τ₂, id, job, slug, amountMsat, createdAt, claimToken, ans, rfl, hflag⟩ :=
    hrun.new_purchase hopened hjson hrest hlife hfresh hnone hq
  refine ⟨?_, τ₁, τ₂, id, job, slug, amountMsat, createdAt, claimToken, ans, rfl, hflag⟩
  have hwhole : DaemonRun d s₀ _ w' := hrun.trans hrest
  refine List.count_eq_one_of_mem (hwhole.recordedHashes_nodup hfresh) ?_
  exact mem_recordedHashes.mpr ⟨id, job, slug, amountMsat, createdAt, claimToken, ans, by simp⟩

/-- The sale, its payment and the download, which marks the sale. -/
theorem settlement_decides_flag_sale :
    (recordedHashes ([] ++ (Sample.paidTrace ++
      served 1 Sample.downloadRequest Sample.downloadCalls Sample.downloadAnswer))).count
        Sample.hash = 1 ∧
    ∃ τ₁ τ₂ id job slug amountMsat createdAt claimToken ans,
      Sample.paidTrace ++
          served 1 Sample.downloadRequest Sample.downloadCalls Sample.downloadAnswer = τ₁ ++
        .call id job ⟨.createPurchase Sample.hash slug amountMsat createdAt claimToken, ans⟩ :: τ₂ ∧
      { Sample.sale with paid := true } =
        { newPurchase Sample.hash slug amountMsat createdAt claimToken with
          paid := decide (.markPaid Sample.hash ∈ changesOf τ₂) } := by
  obtain ⟨w, hpaid, hshared, hnext⟩ := Sample.paid_run
  have hcalls := Sample.download_performs
  rw [← hshared] at hcalls
  obtain ⟨w', hrun, hafter, -⟩ := hpaid.serve Sample.download_reaches hcalls
  rw [hnext] at hrun
  have hfresh : Fresh (Sample.daemon Sample.upload).lib Sample.onSale.store.state
      ([] ++ (Sample.paidTrace ++
        served 1 Sample.downloadRequest Sample.downloadCalls Sample.downloadAnswer)) :=
    Sample.fresh_paid.append_served (by simp [Sample.downloadRequest])
  have hlife : .restart ∉ Sample.paidTrace ++
      served 1 Sample.downloadRequest Sample.downloadCalls Sample.downloadAnswer := by
    simp [Sample.paidTrace, Sample.saleTrace, served]
  have hnew : Sample.onSale.store.getPurchase Sample.hash = none := rfl
  have hmarked : w'.shared.store.getPurchase Sample.hash =
      some { Sample.sale with paid := true } := by
    rw [hafter]
    rfl
  exact (settlement_decides_flag (Sample.opened_onSale Sample.upload)
    (fun _ => Sample.json_lossless) .refl hrun hlife hfresh).2 _ _ hnew hmarked

end Settling

end ArtistNode
