import ArtistNode.Steps
import Mathlib.Logic.Relation

/-!
# The index survives crashes

Here a call of `persist` is not one step: the temporary file is created, grows and
is renamed, an artifact grows beside it, and the process can stop between any two
of these. The whole calls of the other modules are sequences of these steps, so
the invariant of the index holds in the middle of them as well.
-/

namespace ArtistNode

open Base

/-- How far the thread that holds the store lock has got with a mutator. -/
inductive Phase where
  | idle
  /-- Memory is changed, and nothing has been written yet. -/
  | changed
  /-- The temporary file holds the first `written` bytes of `raw`. -/
  | writing (raw : String) (written : Nat)
  /-- The temporary file is complete. -/
  | written (raw : String)

/-- The files, the process if one is running, and what was in memory at the last
    `persist` whose rename succeeded. -/
structure Machine where
  files : Files
  process : Option (Store × Phase)
  committed : Option Persisted

inductive Machine.Step (json : SerdeJson) (dataDir : String) : Machine → Machine → Prop
  | change {files : Files} {s : Store} {c : Option Persisted} {state : Persisted} (m : Mutation) :
      m.change s.state = some state →
      Step json dataDir ⟨files, some (s, .idle), c⟩
        ⟨files, some ({ s with state := state }, .changed), c⟩
  | create {files : Files} {s : Store} {c : Option Persisted} {raw : String} (order : Nat) :
      json.toStringPretty order s.state = .ok raw →
      Step json dataDir ⟨files, some (s, .changed), c⟩
        ⟨files.write s.tmpPath (raw.toUTF8.extract 0 0), some (s, .writing raw 0), c⟩
  | grow {files : Files} {s : Store} {c : Option Persisted} {raw : String} {n n' : Nat} :
      n ≤ n' →
      Step json dataDir ⟨files, some (s, .writing raw n), c⟩
        ⟨files.write s.tmpPath (raw.toUTF8.extract 0 n'), some (s, .writing raw n'), c⟩
  | finish {files : Files} {s : Store} {c : Option Persisted} {raw : String} {n : Nat} :
      Step json dataDir ⟨files, some (s, .writing raw n), c⟩
        ⟨files.write s.tmpPath raw.toUTF8, some (s, .written raw), c⟩
  | rename {files : Files} {s : Store} {c : Option Persisted} {raw : String} :
      Step json dataDir ⟨files, some (s, .written raw), c⟩
        ⟨files.rename s.tmpPath s.indexPath, some (s, .idle), some s.state⟩
  /-- `persist` gives up and returns an error. -/
  | fail {files : Files} {s : Store} {c : Option Persisted} {phase : Phase} :
      Step json dataDir ⟨files, some (s, phase), c⟩ ⟨files, some (s, .idle), c⟩
  /-- An upload has got to the point where its artifact holds `body`. It does not hold
      the lock, so any phase of a mutator may be under way. -/
  | upload {files : Files} {s : Store} {c : Option Persisted} {phase : Phase}
      {slug format : String} (body : ByteArray) :
      validSlug slug = true → validFormat format = true →
      Step json dataDir ⟨files, some (s, phase), c⟩
        ⟨files.write (joinPath s.dir (Gate.fileNameOf slug format)) body, some (s, phase), c⟩
  | crash {files : Files} {process : Option (Store × Phase)} {c : Option Persisted} :
      Step json dataDir ⟨files, process, c⟩ ⟨files, none, c⟩
  | reopen {files : Files} {s : Store} {c : Option Persisted} :
      Store.open json none files dataDir = .ok s →
      Step json dataDir ⟨files, none, c⟩ ⟨files, some (s, .idle), c⟩

/-- A history of the machine, from one state to another. -/
abbrev Machine.Steps (json : SerdeJson) (dataDir : String) : Machine → Machine → Prop :=
  Relation.ReflTransGen (Machine.Step json dataDir)

/-- Nothing has run in this directory yet. A temporary file may be left over. -/
structure Machine.Untouched (dataDir : String) (m : Machine) : Prop where
  index : m.files (joinPath (joinPath dataDir "products") "index.json") = none
  process : m.process = none
  committed : m.committed = none

/-- The index is absent, or the complete text of the last commit. -/
def Machine.IndexIntact (json : SerdeJson) (dataDir : String) (m : Machine) : Prop :=
  match m.committed with
  | none => m.files (joinPath (joinPath dataDir "products") "index.json") = none
  | some state => ∃ order raw, json.toStringPretty order state = .ok raw ∧
      m.files (joinPath (joinPath dataDir "products") "index.json") = some raw.toUTF8

/-- The invariant: a complete temporary file is the text of the state in memory, which
    nobody can change while the lock is held. -/
structure Machine.Sound (json : SerdeJson) (dataDir : String) (m : Machine) : Prop where
  index : m.IndexIntact json dataDir
  dir : ∀ s phase, m.process = some (s, phase) → s.dir = joinPath dataDir "products"
  writing : ∀ s raw n, m.process = some (s, .writing raw n) →
    ∃ order, json.toStringPretty order s.state = .ok raw
  written : ∀ s raw, m.process = some (s, .written raw) →
    (∃ order, json.toStringPretty order s.state = .ok raw) ∧
      m.files s.tmpPath = some raw.toUTF8

section Steps

variable {json : SerdeJson} {dataDir : String} {m m' : Machine}

theorem Machine.IndexIntact.of_index {files files' : Files} {p p' : Option (Store × Phase)}
    {c : Option Persisted} (h : IndexIntact json dataDir ⟨files, p, c⟩)
    (hindex : files' (joinPath (joinPath dataDir "products") "index.json") =
      files (joinPath (joinPath dataDir "products") "index.json")) :
    IndexIntact json dataDir ⟨files', p', c⟩ := by
  unfold IndexIntact at h ⊢
  simp only at h ⊢
  rw [hindex]
  exact h

/-- Writing the temporary file leaves the index alone. -/
theorem Machine.IndexIntact.write_tmp {files : Files} {p p' : Option (Store × Phase)}
    {c : Option Persisted} {s : Store} {contents : ByteArray}
    (h : IndexIntact json dataDir ⟨files, p, c⟩) (hdir : s.dir = joinPath dataDir "products") :
    IndexIntact json dataDir ⟨files.write s.tmpPath contents, p', c⟩ := by
  refine h.of_index (Files.write_other ?_)
  have hne := s.tmpPath_ne_indexPath.symm
  rwa [Store.indexPath, hdir] at hne

/-! The invariant by phases. -/

theorem Machine.Sound.of_stopped {files : Files} {c : Option Persisted}
    (hindex : IndexIntact json dataDir ⟨files, none, c⟩) :
    Sound json dataDir ⟨files, none, c⟩ := by
  refine ⟨hindex, ?_, ?_, ?_⟩
  · intro s phase hp
    cases hp
  · intro s raw n hp
    cases hp
  · intro s raw hp
    cases hp

theorem Machine.Sound.of_quiet {files : Files} {s : Store} {phase : Phase} {c : Option Persisted}
    (hindex : IndexIntact json dataDir ⟨files, some (s, phase), c⟩)
    (hdir : s.dir = joinPath dataDir "products") (hquiet : phase = .idle ∨ phase = .changed) :
    Sound json dataDir ⟨files, some (s, phase), c⟩ := by
  refine ⟨hindex, ?_, ?_, ?_⟩
  · intro s' phase' hp
    cases hp
    exact hdir
  · intro s' raw n hp
    rcases hquiet with rfl | rfl <;> cases hp
  · intro s' raw hp
    rcases hquiet with rfl | rfl <;> cases hp

theorem Machine.Sound.of_writing {files : Files} {s : Store} {raw : String} {n : Nat}
    {c : Option Persisted} (hindex : IndexIntact json dataDir ⟨files, some (s, .writing raw n), c⟩)
    (hdir : s.dir = joinPath dataDir "products")
    (htext : ∃ order, json.toStringPretty order s.state = .ok raw) :
    Sound json dataDir ⟨files, some (s, .writing raw n), c⟩ := by
  refine ⟨hindex, ?_, ?_, ?_⟩
  · intro s' phase hp
    cases hp
    exact hdir
  · intro s' raw' n' hp
    cases hp
    exact htext
  · intro s' raw' hp
    cases hp

theorem Machine.Sound.step (h : m.Sound json dataDir) (hs : Machine.Step json dataDir m m') :
    m'.Sound json dataDir := by
  obtain ⟨hindex, hdir, hwriting, hwritten⟩ := h
  cases hs with
  | @change files s c state mutation hsome =>
    exact .of_quiet (hindex.of_index rfl) (hdir s _ rfl) (Or.inr rfl)
  | @create files s c raw order hraw =>
    have hs := hdir s _ rfl
    exact .of_writing (hindex.write_tmp hs) hs ⟨order, hraw⟩
  | @grow files s c raw n n' hn =>
    have hs := hdir s _ rfl
    exact .of_writing (hindex.write_tmp hs) hs (hwriting s raw n rfl)
  | @finish files s c raw n =>
    have hs := hdir s _ rfl
    refine ⟨hindex.write_tmp hs, ?_, ?_, ?_⟩
    · intro s' phase hp
      cases hp
      exact hs
    · intro s' raw' k hp
      cases hp
    · intro s' raw' hp
      cases hp
      exact ⟨hwriting s raw n rfl, Files.write_same _ _ _⟩
  | @rename files s c raw =>
    have hs := hdir s _ rfl
    obtain ⟨⟨order, hraw⟩, htmp⟩ := hwritten s raw rfl
    have htarget : files.rename s.tmpPath s.indexPath s.indexPath = some raw.toUTF8 :=
      (Files.rename_target s.tmpPath_ne_indexPath).trans htmp
    have hpath : s.indexPath = joinPath (joinPath dataDir "products") "index.json" := by
      rw [Store.indexPath, hs]
    rw [hpath] at htarget
    refine .of_quiet ⟨order, raw, hraw, ?_⟩ hs (Or.inl rfl)
    simp only
    rwa [hpath]
  | @fail files s c phase =>
    exact .of_quiet (hindex.of_index rfl) (hdir s phase rfl) (Or.inl rfl)
  | @upload files s c phase slug format body hslug hformat =>
    have hs := hdir s phase rfl
    obtain ⟨hindexNe, htmpNe⟩ := artifact_ne_index s.dir hslug hformat
    refine ⟨hindex.of_index (Files.write_other ?_), ?_, ?_, ?_⟩
    · rw [← hs]
      exact hindexNe.symm
    · intro s' phase' hp
      cases hp
      exact hs
    · intro s' raw n hp
      cases hp
      exact hwriting s raw n rfl
    · intro s' raw hp
      cases hp
      obtain ⟨htext, htmp⟩ := hwritten s raw rfl
      exact ⟨htext, (Files.write_other htmpNe.symm).trans htmp⟩
  | @crash files process c => exact .of_stopped (hindex.of_index rfl)
  | @reopen files s c hopen =>
    exact .of_quiet (hindex.of_index rfl) (Store.open_dir hopen) (Or.inl rfl)

theorem Machine.Sound.steps (h : m.Sound json dataDir) (hs : Machine.Steps json dataDir m m') :
    m'.Sound json dataDir := by
  induction hs with
  | refl => exact h
  | tail _ hstep ih => exact ih.step hstep

theorem Machine.Untouched.sound (h : m.Untouched dataDir) : m.Sound json dataDir := by
  refine ⟨?_, ?_, ?_, ?_⟩
  · unfold IndexIntact
    rw [h.committed]
    exact h.index
  · intro s phase hp
    rw [h.process] at hp
    cases hp
  · intro s raw n hp
    rw [h.process] at hp
    cases hp
  · intro s raw hp
    rw [h.process] at hp
    cases hp

/-- On an intact index, opening finds the last commit, or the empty state. -/
theorem Machine.IndexIntact.open (hjson : json.Lossless) (h : m.IndexIntact json dataDir) :
    Store.open json none m.files dataDir =
      .ok ⟨joinPath dataDir "products", m.committed.getD default⟩ := by
  unfold IndexIntact at h
  rcases hc : m.committed with _ | state
  · simp only [hc] at h
    simp only [Store.open, h]
    rfl
  · simp only [hc] at h
    obtain ⟨order, raw, hraw, hindex⟩ := h
    exact Store.open_of_index hindex (hjson order state raw hraw)

/-- Whatever goes wrong outside, opening an intact index does not call it corrupt. -/
theorem Machine.IndexIntact.not_corrupt (hjson : json.Lossless)
    (h : m.IndexIntact json dataDir) (fault : Option OpenFault) (e : String) :
    Store.open json fault m.files dataDir ≠ .error s!"Corrupt product index: {e}" := by
  have hcreate : ∀ msg : String,
      s!"Failed to create products dir: {msg}" ≠ s!"Corrupt product index: {e}" := by
    intro msg heq
    have hchars := congrArg String.toList heq
    simp [toString] at hchars
  have hread : ∀ msg : String,
      s!"Failed to read product index: {msg}" ≠ s!"Corrupt product index: {e}" := by
    intro msg heq
    have hchars := congrArg String.toList heq
    simp [toString] at hchars
  intro hopen
  have hplain := h.open hjson
  rcases fault with _ | (e' | e')
  · rw [hplain] at hopen
    cases hopen
  · exact hcreate e' (Except.error.inj hopen)
  · simp only [Store.open] at hopen
    split at hopen
    · cases hopen
    · exact hread e' (Except.error.inj hopen)

end Steps

namespace Sample

/-- A directory in which only a broken temporary file is left. -/
def leftover : Machine where
  files := fun path =>
    if path = "/data/products/index.json.tmp" then some ⟨#[123]⟩ else none
  process := none
  committed := none

/-- The track is being registered, and the temporary file is complete. -/
def listing : Machine where
  files := (leftover.files.write store.tmpPath ((indexText "\x7b\x7d").toUTF8.extract 0 0)).write
    store.tmpPath (indexText "\x7b\x7d").toUTF8
  process := some (store, .written (indexText "\x7b\x7d"))
  committed := none

/-- The registration has been committed, then the machine lost power in the middle of
    recording a sale. -/
def powerCut : Machine where
  files := (listing.files.rename store.tmpPath store.indexPath).write store.tmpPath
    ((indexText (saleText "false")).toUTF8.extract 0 0)
  process := none
  committed := some listed

theorem listing_steps : Machine.Steps json dataDir leftover listing := by
  have hopen : Store.open json none leftover.files dataDir = .ok ⟨dir, default⟩ := rfl
  have hstart : Machine.Steps json dataDir leftover
      ⟨leftover.files, some (⟨dir, default⟩, .idle), none⟩ := .single (.reopen hopen)
  have hchanged := hstart.tail (.change (.upsertProduct midnight) rfl)
  have hcreated := hchanged.tail (.create 0 (toStringPretty_listed 0))
  exact hcreated.tail .finish

theorem powerCut_steps : Machine.Steps json dataDir leftover powerCut := by
  have hcommitted := listing_steps.tail .rename
  have hchanged := hcommitted.tail (.change createSale rfl)
  have hcreated := hchanged.tail (.create 0 (toStringPretty_sold 0))
  exact hcreated.tail .crash

end Sample

section Steps

variable {json : SerdeJson} {dataDir : String} {m m' : Machine}

/-- The index survives crashes: after any history of mutators, uploads, failures,
    crashes and reopenings in a fresh directory, at every moment of each of them, the
    index is absent or the complete text of the last commit, and opening the store
    yields that commit. -/
theorem index_survives_crashes (hjson : json.Lossless) (hfresh : m.Untouched dataDir)
    (hsteps : Machine.Steps json dataDir m m') :
    m'.IndexIntact json dataDir ∧
      Store.open json none m'.files dataDir =
        .ok ⟨joinPath dataDir "products", m'.committed.getD default⟩ ∧
      ∀ (fault : Option OpenFault) (e : String),
        Store.open json fault m'.files dataDir ≠ .error s!"Corrupt product index: {e}" := by
  have hintact := (hfresh.sound.steps hsteps).index
  exact ⟨hintact, hintact.open hjson, fun fault e => hintact.not_corrupt hjson fault e⟩

end Steps

theorem index_survives_power_cut :
    Store.open Sample.json none Sample.powerCut.files Sample.dataDir =
      .ok ⟨Sample.dir, Sample.listed⟩ :=
  (index_survives_crashes Sample.json_lossless ⟨rfl, rfl, rfl⟩ Sample.powerCut_steps).2.1

/-! ### Whole calls are sequences of steps -/

theorem Files.write_write (files : Files) (path : String) (a b : ByteArray) :
    (files.write path a).write path b = files.write path b := by
  simp [Files.write]

/-- A call of `persist` on a changed state, whatever becomes of it. -/
theorem Store.persist_steps (json : SerdeJson) (dataDir : String) (io : PersistIo) (s : Store)
    (files : Files) (c : Option Persisted) :
    ∃ c', Machine.Steps json dataDir ⟨files, some (s, .changed), c⟩
      ⟨(s.persist json io files).2, some (s, .idle), c'⟩ ∧
      c' = if (s.persist json io files).1.isOk then some s.state else c := by
  unfold Store.persist
  rcases hraw : json.toStringPretty io.order s.state with e | raw
  · exact ⟨c, .single .fail, rfl⟩
  have hcreated : Machine.Steps json dataDir ⟨files, some (s, .changed), c⟩
      ⟨files.write s.tmpPath (raw.toUTF8.extract 0 0), some (s, .writing raw 0), c⟩ :=
    .single (.create io.order hraw)
  simp only
  rcases io.fault with _ | (e | ⟨n, e⟩ | e)
  · have hfinished := hcreated.tail .finish
    rw [Files.write_write] at hfinished
    exact ⟨some s.state, hfinished.tail .rename, rfl⟩
  · exact ⟨c, .single .fail, rfl⟩
  · have hgrown := hcreated.tail (.grow (Nat.zero_le n))
    rw [Files.write_write] at hgrown
    exact ⟨c, hgrown.tail .fail, rfl⟩
  · have hfinished := hcreated.tail .finish
    rw [Files.write_write] at hfinished
    exact ⟨c, hfinished.tail .fail, rfl⟩

/-- A call of a mutator is a history of the machine, with a commit when it persisted
    with success. -/
theorem Mutation.run_steps (json : SerdeJson) (dataDir : String) (m : Mutation) (io : PersistIo)
    (s : Store) (files : Files) (c : Option Persisted) :
    ∃ c', Machine.Steps json dataDir ⟨files, some (s, .idle), c⟩
      ⟨(m.run json io s files).2.2, some ((m.run json io s files).2.1, .idle), c'⟩ ∧
      c' = if (m.change s.state).isSome && (m.run json io s files).1.isOk then
        some (m.run json io s files).2.1.state else c := by
  rcases m.run_cases json io s files with ⟨hnone, hrun⟩ | ⟨state, hsome, hrun⟩
  · rw [hrun, hnone]
    exact ⟨c, .refl, rfl⟩
  · rw [hrun, hsome]
    obtain ⟨c', hsteps, hc'⟩ :=
      Store.persist_steps json dataDir io { s with state := state } files c
    refine ⟨c', hsteps.head (.change m hsome), hc'.trans ?_⟩
    rcases (({ s with state := state } : Store).persist json io files).1 with e | u <;> rfl

/-- Every run of the daemon is a history of the machine, in which each operation
    takes as many steps as it has. -/
theorem DaemonRun.machine {d : Daemon} {s₀ : Shared} {τ : List DaemonLabel} {w : DaemonWorld}
    (hopened : Opened d s₀) (hrun : DaemonRun d s₀ τ w) (c₀ : Option Persisted) :
    ∃ c, Machine.Steps d.lib.toSerdeJson d.dataDir ⟨s₀.files, some (s₀.store, .idle), c₀⟩
      ⟨w.shared.files, some (w.shared.store, .idle), c⟩ := by
  refine Run.induct (I := fun _ w => ∃ c, Machine.Steps d.lib.toSerdeJson d.dataDir
    ⟨s₀.files, some (s₀.store, .idle), c₀⟩ ⟨w.shared.files, some (w.shared.store, .idle), c⟩)
    ⟨c₀, .refl⟩ (fun {τ w l w'} hr ih hs => ?_) hrun
  obtain ⟨c, hsteps⟩ := ih
  cases hs with
  | start job => exact ⟨c, hsteps⟩
  | answer thread => exact ⟨c, hsteps⟩
  | @call id job h op k ans s' thread act =>
    rcases act_cases act with hs' | ⟨m, io, -, hs'⟩ | ⟨path, contents, written, hop, hs'⟩
    · rw [hs']
      exact ⟨c, hsteps⟩
    · obtain ⟨c', hcall, -⟩ := m.run_steps d.lib.toSerdeJson d.dataDir io w.shared.store
        w.shared.files c
      rw [hs']
      exact ⟨c', hsteps.trans hcall⟩
    · subst hop
      have hsofar : DaemonRun d s₀ τ w := hr
      obtain ⟨slug, format, hslug, hformat, hpath⟩ := hsofar.writes_artifact hopened thread
      rw [← (hsofar.housed hopened).dir] at hpath
      rw [hs', hpath]
      exact ⟨c, hsteps.tail (.upload written hslug hformat)⟩
  | env act =>
    obtain ⟨hstore, hfiles⟩ := env_files act
    rw [hstore, hfiles]
    exact ⟨c, hsteps⟩
  | restart act =>
    obtain ⟨store, hreopen, rfl⟩ := act
    exact ⟨c, (hsteps.tail .crash).tail (.reopen hreopen)⟩

end ArtistNode
