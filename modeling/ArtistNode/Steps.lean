import ArtistNode.Durability
import ArtistNode.Justification

/-!
# What one operation does to the store

`act_cases` says once what an operation of any thread can do to the shared state:
nothing, a call of one mutator, or a write to a file, which is an artifact. From
it come the rules for invariants of the ledger, in memory, on disk and in the
snapshots that threads hold.
-/

namespace ArtistNode

open Base

/-! ### Artifact names -/

/-- The last two characters of an artifact's name are those of its format. -/
theorem fileNameOf_suffix (slug : String) {format : String} (h : 2 ≤ format.toList.length) :
    (Gate.fileNameOf slug format).toList.reverse.take 2 = format.toList.reverse.take 2 := by
  simp only [Gate.fileNameOf, String.toList_append, List.reverse_append]
  rw [List.take_append_of_le_length]
  simpa using h

theorem validFormat_suffix {format : String} (h : validFormat format = true) :
    2 ≤ format.toList.length ∧ format.toList.reverse.take 2 ≠ ['n', 'o'] ∧
      format.toList.reverse.take 2 ≠ ['p', 'm'] := by
  simp only [validFormat, List.contains_eq_mem, decide_eq_true_eq, List.mem_cons,
    List.not_mem_nil, or_false] at h
  rcases h with rfl | rfl | rfl | rfl | rfl | rfl | rfl | rfl | rfl | rfl
  all_goals decide

theorem fileNameOf_relative {slug : String} (format : String) (h : validSlug slug = true) :
    (Gate.fileNameOf slug format).toList.head? ≠ some '/' := by
  simp only [validSlug, Bool.and_eq_true, List.all_eq_true, decide_eq_true_eq] at h
  obtain ⟨⟨hne, -⟩, hall⟩ := h
  rcases hchars : slug.toList with _ | ⟨c, rest⟩
  · exact absurd (String.toList_eq_nil_iff.mp hchars) hne
  · have hc := hall c (by rw [hchars]; exact List.mem_cons_self)
    simp only [Gate.fileNameOf, String.toList_append, hchars, List.cons_append, List.head?_cons]
    intro heq
    obtain rfl := Option.some.inj heq
    exact absurd hc (by decide)

/-- An artifact is never written over the index or its temporary file. -/
theorem artifact_ne_index (dir : String) {slug format : String} (hslug : validSlug slug = true)
    (hformat : validFormat format = true) :
    joinPath dir (Gate.fileNameOf slug format) ≠ joinPath dir "index.json" ∧
      joinPath dir (Gate.fileNameOf slug format) ≠ joinPath dir "index.json.tmp" := by
  obtain ⟨hlength, hon, hmp⟩ := validFormat_suffix hformat
  have hsuffix := fileNameOf_suffix slug hlength
  have hrelative := fileNameOf_relative format hslug
  rw [Ne, Ne, joinPath_inj hrelative (by decide), joinPath_inj hrelative (by decide)]
  constructor
  · intro hname
    rw [hname] at hsuffix
    exact hon hsuffix.symm
  · intro hname
    rw [hname] at hsuffix
    exact hmp hsuffix.symm

/-! ### One operation -/

/-- The mutator that an operation calls. -/
def Op.mutation : Op → Option Mutation
  | .upsertProduct record => some (.upsertProduct record)
  | .createPurchase paymentHash slug amountMsat createdAt claimToken =>
    some (.createPurchase paymentHash slug amountMsat createdAt claimToken)
  | .markPaid paymentHash => some (.markPaid paymentHash)
  | _ => none

/-- The state after a call of a mutator. -/
def Shared.mutate (s : Shared) (json : SerdeJson) (m : Mutation) (io : PersistIo) : Shared :=
  { s with
    store := (m.run json io s.store s.files).2.1
    files := (m.run json io s.store s.files).2.2 }

theorem Shared.section_cases {β : Type} {s s' : Shared}
    {run : PersistIo → Except String β × Store × Files} {ans : Option (Except String β)}
    (h : s.section run ans s') :
    (ans = none ∧ s' = s) ∨ s.poisoned = false ∧ ∃ io, ans = some (run io).1 ∧
      s' = { s with store := (run io).2.1, files := (run io).2.2 } := by
  rcases h with ⟨-, hans, hs⟩ | h
  · exact Or.inl ⟨hans, hs⟩
  · exact Or.inr h

/-- Everything an operation can do to the shared state. -/
theorem act_cases {d : Daemon} {s s' : Shared} {op : Op} {ans : Answer op}
    (h : act d s op ans s') :
    s' = s ∨
      (∃ m io, op.mutation = some m ∧ s' = s.mutate d.lib.toSerdeJson m io) ∨
      ∃ path contents written, op = .writeFile path contents ∧
        s' = { s with files := s.files.write path written } := by
  cases op with
  | lock => exact Or.inl h.1
  | upsertProduct record =>
    rcases Shared.section_cases h with ⟨-, hs⟩ | ⟨-, io, -, hs⟩
    · exact Or.inl hs
    · exact Or.inr (Or.inl ⟨_, io, rfl, hs⟩)
  | createPurchase paymentHash slug amountMsat createdAt claimToken =>
    rcases Shared.section_cases h with ⟨-, hs⟩ | ⟨-, io, -, hs⟩
    · exact Or.inl hs
    · exact Or.inr (Or.inl ⟨_, io, rfl, hs⟩)
  | markPaid paymentHash =>
    rcases Shared.section_cases h with ⟨-, hs⟩ | ⟨-, io, -, hs⟩
    · exact Or.inl hs
    · exact Or.inr (Or.inl ⟨_, io, rfl, hs⟩)
  | writeFile path contents =>
    rcases h with ⟨-, hs⟩ | ⟨e, -, hs | ⟨written, hs⟩⟩
    · exact Or.inr (Or.inr ⟨path, contents, contents, rfl, hs⟩)
    · exact Or.inl hs
    · exact Or.inr (Or.inr ⟨path, contents, _, rfl, hs⟩)
  | openFile path => exact Or.inl h.1
  | listPayments => exact Or.inl h.1
  | _ => exact Or.inl h

theorem act_lock {d : Daemon} {s s' : Shared} {l : Locked} (h : act d s .lock (some l) s') :
    l.store = s.store := by
  obtain ⟨-, ⟨-, hnone⟩ | ⟨-, l', hl, hstore⟩⟩ := h
  · cases hnone
  · obtain rfl := Option.some.inj hl
    exact hstore

theorem act_lock_healthy {d : Daemon} {s : Shared} {l : Locked} (hhealthy : s.poisoned = false)
    (hl : l.store = s.store) : act d s .lock (some l) s :=
  ⟨rfl, Or.inr ⟨hhealthy, l, rfl, hl⟩⟩

/-- A snapshot that a label carries is one of this state. -/
def Reads (l : DaemonLabel) (s : Shared) : Prop :=
  ∀ id job snapshot, l = .call id job ⟨.lock, some snapshot⟩ → snapshot.store = s.store

theorem reads_of_step {d : Daemon} {w w' : DaemonWorld} {l : DaemonLabel}
    (hs : Step (system d) w l w') : Reads l w.shared := by
  intro id job snapshot hl
  subst hl
  cases hs with
  | call thread act => exact act_lock (d := d) act

theorem env_files {s s' : Shared} {e : EnvEvent} (h : envStep s e s') :
    s'.store = s.store ∧ s'.files = s.files := by
  cases e with
  | payments payments =>
    obtain rfl := h
    exact ⟨rfl, rfl⟩
  | poison =>
    obtain rfl := h
    exact ⟨rfl, rfl⟩

/-! ### Where the daemon writes -/

def Daemon.productsDir (d : Daemon) : String := joinPath d.dataDir "products"

/-- The store is in the products directory, in memory and in each snapshot. -/
structure Housed (d : Daemon) (τ : List DaemonLabel) (s : Shared) : Prop where
  dir : s.store.dir = d.productsDir
  snapshots : ∀ id job l, .call id job ⟨.lock, some l⟩ ∈ τ → l.store.dir = d.productsDir

section Rule

variable {d : Daemon} {P : List DaemonLabel → Persisted → Prop} {s₀ s : Shared}
variable {τ τ₁ : List DaemonLabel} {w w₁ : DaemonWorld}

theorem Housed.step {s' : Shared} {l : DaemonLabel} (h : Housed d τ s) (hreads : Reads l s)
    (hdir : s'.store.dir = d.productsDir) : Housed d (τ ++ [l]) s' := by
  refine ⟨hdir, ?_⟩
  intro id job snapshot hmem
  rcases List.mem_append.mp hmem with hmem | hmem
  · exact h.snapshots id job snapshot hmem
  · rw [hreads id job snapshot (List.mem_singleton.mp hmem).symm]
    exact h.dir

theorem DaemonRun.housed (hopened : Opened d s₀) (hrun : DaemonRun d s₀ τ w) :
    Housed d τ w.shared := by
  refine Run.induct (I := fun τ w => Housed d τ w.shared) ?_ (fun {τ w l w'} hr ih hs => ?_) hrun
  · exact ⟨Store.open_dir hopened.1, by intro _ _ _ hmem; cases hmem⟩
  · apply ih.step (reads_of_step hs)
    cases hs with
    | start job => exact ih.dir
    | answer thread => exact ih.dir
    | env act =>
      simp only [(env_files act).1]
      exact ih.dir
    | restart act =>
      obtain ⟨store, hreopen, rfl⟩ := act
      exact Store.open_dir hreopen
    | call thread act =>
      rcases act_cases act with rfl | ⟨m, io, -, rfl⟩ | ⟨path, contents, written, -, rfl⟩
      · exact ih.dir
      · exact (m.run_dir _ _ _ _).trans ih.dir
      · exact ih.dir

/-- The only files that handlers write themselves are artifacts. -/
theorem DaemonRun.writes_artifact (hopened : Opened d s₀) (hrun : DaemonRun d s₀ τ w) {id : Nat}
    {job : Job} {h : List DaemonCall} {path : String} {contents : ByteArray}
    {k : Except String Unit → Handler Response}
    (hthread : w.threads id = some ⟨job, h, .call (.writeFile path contents) k⟩) :
    ∃ slug format, validSlug slug = true ∧ validFormat format = true ∧
      path = joinPath d.productsDir (Gate.fileNameOf slug format) := by
  have htraced := hrun.traced _ _ hthread
  have hjust : Justified d job h (.writeFile path contents) :=
    (handle_guarded d job).pending htraced.reaches
  obtain ⟨-, slug, params, auth, l, -, hslug, hformat, hl, hpath⟩ := hjust
  have hdir := (hrun.housed hopened).snapshots id job l (htraced.called _ hl)
  rw [hdir] at hpath
  exact ⟨slug, params.format, hslug, hformat, hpath⟩

/-! ### Invariants of the ledger -/

/-- `P` holds of the ledger in memory, of the one that a reopening would find, and of
    each one that a thread has seen. -/
structure Kept (d : Daemon) (P : List DaemonLabel → Persisted → Prop) (τ : List DaemonLabel)
    (s : Shared) : Prop where
  memory : P τ s.store.state
  disk : d.lib.Lossless → ∀ store,
    Store.open d.lib.toSerdeJson none s.files d.dataDir = .ok store → P τ store.state
  snapshots : ∀ id job l, .call id job ⟨.lock, some l⟩ ∈ τ → P τ l.store.state

theorem Kept.opened (hopened : Opened d s₀) (init : P [] s₀.store.state) : Kept d P [] s₀ := by
  refine ⟨init, ?_, ?_⟩
  · intro _ store hreopen
    obtain rfl := Except.ok.inj (hopened.1.symm.trans hreopen)
    exact init
  · intro id job l hmem
    cases hmem

theorem Kept.mono {Q : List DaemonLabel → Persisted → Prop} (hkept : Kept d P τ s)
    (himp : ∀ state, P τ state → Q τ state) : Kept d Q τ s where
  memory := himp _ hkept.memory
  disk hjson store hreopen := himp _ (hkept.disk hjson store hreopen)
  snapshots id job l hmem := himp _ (hkept.snapshots id job l hmem)

/-- A step keeps what holds if it leaves the store and what a reopening finds. -/
theorem Kept.step {s' : Shared} {l : DaemonLabel} (hkept : Kept d P τ s)
    (weaken : ∀ {τ st} l, P τ st → P (τ ++ [l]) st) (hreads : Reads l s)
    (hstore : s'.store = s.store)
    (hopen : Store.open d.lib.toSerdeJson none s'.files d.dataDir =
      Store.open d.lib.toSerdeJson none s.files d.dataDir) : Kept d P (τ ++ [l]) s' := by
  refine ⟨?_, ?_, ?_⟩
  · rw [hstore]
    exact weaken l hkept.memory
  · intro hjson store hreopen
    rw [hopen] at hreopen
    exact weaken l (hkept.disk hjson store hreopen)
  · intro id job snapshot hmem
    rcases List.mem_append.mp hmem with hmem | hmem
    · exact weaken l (hkept.snapshots id job snapshot hmem)
    · rw [hreads id job snapshot (List.mem_singleton.mp hmem).symm]
      exact weaken l hkept.memory

/-- A mutator keeps what holds of the old ledger and of the new one: the disk has
    either. -/
theorem Kept.mutate {l : DaemonLabel} {m : Mutation} {io : PersistIo} (hkept : Kept d P τ s)
    (weaken : ∀ {τ st} l, P τ st → P (τ ++ [l]) st) (hreads : Reads l s)
    (hdir : s.store.dir = d.productsDir)
    (hchange : ∀ state, m.change s.store.state = some state → P (τ ++ [l]) state) :
    Kept d P (τ ++ [l]) (s.mutate d.lib.toSerdeJson m io) := by
  rcases m.run_cases d.lib.toSerdeJson io s.store s.files with ⟨-, hrun⟩ | ⟨state, hsome, hrun⟩
  · apply hkept.step weaken hreads
    · simp only [Shared.mutate, hrun]
    · simp only [Shared.mutate, hrun]
  · have hsame : Kept d P (τ ++ [l]) s := hkept.step weaken hreads rfl rfl
    refine ⟨?_, ?_, hsame.snapshots⟩
    · have hmemory : (s.mutate d.lib.toSerdeJson m io).store.state = state := by
        simp only [Shared.mutate, hrun]
      rw [hmemory]
      exact hchange state hsome
    · intro hjson store hreopen
      rcases hres : (m.run d.lib.toSerdeJson io s.store s.files).1 with e | b
      · obtain ⟨-, hopen⟩ := Mutation.open_run_error hdir hres
        have hreopen' := hopen.symm.trans hreopen
        exact hsame.disk hjson store hreopen'
      · obtain ⟨-, hopen⟩ := Mutation.open_run_ok hjson hdir hsome hres
        obtain rfl := Except.ok.inj (hopen.symm.trans hreopen)
        exact hchange state hsome

/-- The rule for invariants of the ledger over the rest of a run, with persist
    failures and restarts: it is enough that each change a mutator makes in memory
    keeps `P`. -/
theorem Kept.run (hopened : Opened d s₀) (hbase : DaemonRun d s₀ τ₁ w₁)
    (init : Kept d P [] w₁.shared)
    (weaken : ∀ {τ st} l, P τ st → P (τ ++ [l]) st)
    (change : ∀ {τ w id job h op k m state} {ans : Answer op}, DaemonRun d s₀ (τ₁ ++ τ) w →
      P τ w.shared.store.state → w.threads id = some ⟨job, h, .call op k⟩ →
      Justified d job h op → op.mutation = some m →
      m.change w.shared.store.state = some state → P (τ ++ [.call id job ⟨op, ans⟩]) state)
    (hrun : Run (system d) w₁ τ w) (hjson : .restart ∈ τ → d.lib.Lossless) :
    Kept d P τ w.shared := by
  revert hjson
  refine Run.induct (I := fun τ w => (.restart ∈ τ → d.lib.Lossless) → Kept d P τ w.shared)
    (fun _ => init) (fun {τ w l w'} hr ih hs hjson => ?_) hrun
  have hkept := ih fun hmem => hjson (List.mem_append_left _ hmem)
  have hr' : DaemonRun d s₀ (τ₁ ++ τ) w := hbase.trans hr
  have hhoused := hr'.housed hopened
  have hreads := reads_of_step hs
  cases hs with
  | start job => exact hkept.step weaken hreads rfl rfl
  | answer thread => exact hkept.step weaken hreads rfl rfl
  | env act =>
    obtain ⟨hstore, hfiles⟩ := env_files act
    apply hkept.step weaken hreads hstore
    rw [hfiles]
  | restart act =>
    obtain ⟨store, hreopen, rfl⟩ := act
    have hlossless := hjson (List.mem_append_right _ (List.mem_singleton.mpr rfl))
    have hsame : Kept d P (τ ++ [.restart]) w.shared := hkept.step weaken hreads rfl rfl
    exact ⟨hsame.disk hlossless store hreopen, hsame.disk, hsame.snapshots⟩
  | @call id job h op k ans s' thread act =>
    have hjust : Justified d job h op :=
      (handle_guarded d job).pending (hr'.traced _ _ thread).reaches
    rcases act_cases act with rfl | ⟨m, io, hop, rfl⟩ | ⟨path, contents, written, hop, rfl⟩
    · exact hkept.step weaken hreads rfl rfl
    · apply hkept.mutate weaken hreads hhoused.dir
      intro state hsome
      exact change hr' hkept.memory thread hjust hop hsome
    · subst hop
      obtain ⟨slug, format, hslug, hformat, hpath⟩ := hr'.writes_artifact hopened thread
      have hne := (artifact_ne_index d.productsDir hslug hformat).1
      rw [← hpath] at hne
      refine hkept.step weaken hreads rfl ?_
      exact Store.open_congr (Files.write_other hne.symm)

end Rule

end ArtistNode
