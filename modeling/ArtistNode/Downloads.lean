import ArtistNode.Delivery
import ArtistNode.Uploads

/-!
# Downloads while uploads go on

A download copies size and format out of the record under the store lock, and opens the
file when the lock has been released and taken again. In the meantime uploads replace the
file in place. What the file holds when it is opened is the body of an upload in the format
that the download announces, where each write is one step; its length is the announced one
as long as no upload of another length comes between.
-/

namespace ArtistNode

open Base

/-! ### Where the bytes of a file come from -/

/-- An upload in this format has written this body to the file. -/
def WrittenBy (d : Daemon) (τ : List DaemonLabel) (slug format : String) (contents : ByteArray) :
    Prop :=
  ∃ id params auth, params.format = format ∧
    .call id (.putProduct slug params auth contents)
      ⟨.writeFile (d.artifactFile slug format) contents, .ok ()⟩ ∈ τ

/-- An upload in this format has written the body, or the file held it at the start, when a
    record in this format was registered. -/
def Source (d : Daemon) (s₀ : Shared) (τ : List DaemonLabel) (slug format : String)
    (contents : ByteArray) : Prop :=
  WrittenBy d τ slug format contents ∨ ∃ p, s₀.store.getProduct slug = some p ∧
    p.format = format ∧ s₀.files (d.artifactFile slug format) = some contents

/-- Each artifact's file holds the body of an upload in its format, or else no upload has
    written it yet. -/
def Stocked (d : Daemon) (s₀ : Shared) (τ : List DaemonLabel) (s : Shared) : Prop :=
  ∀ slug format, validSlug slug = true → validFormat format = true →
    (∃ contents, s.files (d.artifactFile slug format) = some contents ∧
      WrittenBy d τ slug format contents) ∨
    s.files (d.artifactFile slug format) = s₀.files (d.artifactFile slug format) ∧
      ∀ contents, ¬ WrittenBy d τ slug format contents

section Runs

variable {d : Daemon} {s₀ s : Shared} {τ : List DaemonLabel} {w w' : DaemonWorld}
variable {l : DaemonLabel} {slug format : String} {contents : ByteArray}

theorem WrittenBy.extend (h : WrittenBy d τ slug format contents) (l : DaemonLabel) :
    WrittenBy d (τ ++ [l]) slug format contents := by
  obtain ⟨id, params, auth, hformat, hwrite⟩ := h
  exact ⟨id, params, auth, hformat, List.mem_append_left _ hwrite⟩

theorem Source.extend (h : Source d s₀ τ slug format contents) (l : DaemonLabel) :
    Source d s₀ (τ ++ [l]) slug format contents :=
  h.imp_left fun hwritten => hwritten.extend l

theorem Stocked.initial (d : Daemon) (s₀ : Shared) : Stocked d s₀ [] s₀ := by
  intro slug format hslug hformat
  refine Or.inr ⟨rfl, ?_⟩
  rintro contents ⟨id, params, auth, -, hwrite⟩
  cases hwrite

/-- What is enough where the step is not a write to the file. -/
theorem Stocked.keep (h : Stocked d s₀ τ w.shared) (hslug : validSlug slug = true)
    (hformat : validFormat format = true)
    (hfile : w'.shared.files (d.artifactFile slug format) =
      w.shared.files (d.artifactFile slug format))
    (hother : ∀ id job contents ans,
      l ≠ .call id job ⟨.writeFile (d.artifactFile slug format) contents, ans⟩) :
    (∃ contents, w'.shared.files (d.artifactFile slug format) = some contents ∧
      WrittenBy d (τ ++ [l]) slug format contents) ∨
    w'.shared.files (d.artifactFile slug format) = s₀.files (d.artifactFile slug format) ∧
      ∀ contents, ¬ WrittenBy d (τ ++ [l]) slug format contents := by
  rw [hfile]
  rcases h slug format hslug hformat with ⟨contents, hheld, hwritten⟩ | ⟨hstart, hnone⟩
  · exact Or.inl ⟨contents, hheld, hwritten.extend l⟩
  · refine Or.inr ⟨hstart, ?_⟩
    rintro contents ⟨id, params, auth, hparams, hwrite⟩
    rcases List.mem_append.mp hwrite with hwrite | hwrite
    · exact hnone contents ⟨id, params, auth, hparams, hwrite⟩
    · exact hother _ _ _ _ (List.mem_singleton.mp hwrite).symm

theorem Stocked.step (hopened : Opened d s₀) (hrun : DaemonRun d s₀ τ w)
    (h : Stocked d s₀ τ w.shared) (hs : Step (system d) w l w') (hl : Smooth l) :
    Stocked d s₀ (τ ++ [l]) w'.shared := by
  intro slug format hslug hformat
  obtain ⟨hindex, htmp⟩ := artifactFile_ne_index (d := d) hslug hformat
  cases hrun.catalogStep hopened hs hl with
  | same catalog other =>
    refine h.keep hslug hformat (catalog.files _ hindex htmp) ?_
    rintro id job contents ans rfl
    cases (other _ _ _ rfl).1
  | wrote id slug' params auth body label hslug' hformat' store files awaiting =>
    by_cases hpath : d.artifactFile slug format = d.artifactFile slug' params.format
    · obtain ⟨rfl, rfl⟩ := artifact_path_inj hslug hslug' hformat hpath
      refine Or.inl ⟨body, ?_, id, params, auth, rfl, ?_⟩
      · rw [files]
        exact Files.write_same _ _ _
      · rw [label]
        exact List.mem_concat_self
    · refine h.keep hslug hformat ?_ ?_
      · rw [files]
        exact Files.write_other hpath
      · rintro id' job contents ans rfl
        simp only [Label.call.injEq, Sigma.mk.injEq, Op.writeFile.injEq] at label
        exact hpath label.2.2.1.1
  | registered id slug' params auth body label hslug' hformat' products files =>
    refine h.keep hslug hformat (files _ hindex htmp) ?_
    rintro id' job contents ans rfl
    cases label

theorem DaemonRun.stocked (hopened : Opened d s₀) (hrun : DaemonRun d s₀ τ w)
    (hsmooth : ∀ l ∈ τ, Smooth l) : Stocked d s₀ τ w.shared := by
  revert hsmooth
  refine Run.induct (I := fun τ w => (∀ l ∈ τ, Smooth l) → Stocked d s₀ τ w.shared)
    (fun _ => .initial d s₀) (fun {τ w l w'} hr ih hs hsmooth => ?_) hrun
  have hbefore := ih fun l hl => hsmooth l (List.mem_append_left _ hl)
  exact hbefore.step hopened hr hs (hsmooth l List.mem_concat_self)

/-! ### The bytes that a download has opened -/

/-- Records of the start and of uploads are ordinary. -/
theorem Ordinary.of_provided {p : ProductRecord} (hordinary : AllOrdinary s₀)
    (hp : s₀.store.getProduct slug = some p ∨ PublishedAs d τ slug p) : Ordinary slug p := by
  rcases hp with hstart | ⟨id, params, auth, body, rfl, hslug, hformat, -⟩
  · exact hordinary slug p hstart
  · exact ⟨hslug, hformat, rfl⟩

theorem Stocked.source {p : ProductRecord} (h : Stocked d s₀ τ s) (hstart : AllOrdinary s₀)
    (hp : s₀.store.getProduct slug = some p ∨ PublishedAs d τ slug p)
    (hfile : s.files (d.artifactFile slug p.format) = some contents) :
    Source d s₀ τ slug p.format contents := by
  have hordinary := Ordinary.of_provided hstart hp
  rcases h slug p.format hordinary.validSlug hordinary.validFormat with
    ⟨contents', hheld, hwritten⟩ | ⟨hkept, hnone⟩
  · obtain rfl := Option.some.inj (hheld.symm.trans hfile)
    exact Or.inl hwritten
  · rcases hp with hp | ⟨id, params, auth, body, rfl, -, -, hwrite⟩
    · exact Or.inr ⟨p, hp, rfl, hkept.symm.trans hfile⟩
    · exact absurd ⟨id, params, auth, rfl, hwrite⟩ (hnone body)

/-- The file of the record that a download has read. -/
theorem DaemonRun.path_of_read (hopened : Opened d s₀) (hordinary : AllOrdinary s₀)
    (hrun : DaemonRun d s₀ τ w) (hjson : .restart ∈ τ → d.lib.Lossless) {id : Nat}
    {t : Thread Answer Job Response} (htraced : t.Traced (system d) τ id) {l l' : Locked}
    {p : ProductRecord} (hl : ⟨.lock, some l⟩ ∈ t.history) (hl' : ⟨.lock, some l'⟩ ∈ t.history)
    (hp : l.store.getProduct slug = some p) :
    joinPath l'.store.dir p.fileName = d.artifactFile slug p.format ∧
      (s₀.store.getProduct slug = some p ∨ PublishedAs d τ slug p) := by
  have hprovided := (hrun.provided hopened hjson).snapshots id _ l (htraced.called _ hl) slug p hp
  refine ⟨?_, hprovided⟩
  rw [(hrun.housed hopened).snapshots id _ l' (htraced.called _ hl'),
    (Ordinary.of_provided hordinary hprovided).fileName]
  rfl

/-- What every download has opened came from an upload in the format that it announces. -/
def Sourced (d : Daemon) (s₀ : Shared) (τ : List DaemonLabel) (w : DaemonWorld) : Prop :=
  ∀ id slug params h q, w.threads id = some ⟨.getDownload slug params, h, q⟩ →
    ∀ path contents, ⟨.openFile path, .ok contents⟩ ∈ h → ∃ l p, recordRead params h = some l ∧
      l.store.getProduct slug = some p ∧ Source d s₀ τ slug p.format contents

theorem Sourced.step (hopened : Opened d s₀) (hordinary : AllOrdinary s₀) (hrun : DaemonRun d s₀ τ w)
    (hsmooth : ∀ l ∈ τ, Smooth l) (h : Sourced d s₀ τ w) (hs : Step (system d) w l w') :
    Sourced d s₀ (τ ++ [l]) w' := by
  intro id slug params h' q hthread path contents hopen
  have hjson : .restart ∈ τ → d.lib.Lossless := fun hmem => (hsmooth _ hmem).elim
  rcases hs.thread_cases hthread with hold | ⟨-, hnil⟩ | ⟨hist, op, k, ans, -, ht, hold, act⟩
  · obtain ⟨l', p, hread, hp, hsource⟩ := h id slug params h' q hold path contents hopen
    exact ⟨l', p, hread, hp, hsource.extend l⟩
  · cases hnil
    cases hopen
  · cases ht
    rcases List.mem_append.mp hopen with hopen | hopen
    · obtain ⟨l', p, hread, hp, hsource⟩ := h id slug params hist _ hold path contents hopen
      exact ⟨l', p, recordRead_append hread _, hp, hsource.extend l⟩
    · -- the file is opened by this step
      have htraced := hrun.traced _ _ hold
      cases List.mem_singleton.mp hopen
      obtain ⟨-, l₁, l₂, p, hread, hp, hl₂, hpath⟩ :=
        (getDownload_opens d.lib slug params).pending htraced.reaches
      obtain ⟨hown, hprovided⟩ :=
        hrun.path_of_read hopened hordinary hjson htraced (recordRead_mem hread) hl₂ hp
      have hfile : w.shared.files path = some contents := act.2 contents rfl
      rw [hpath, hown] at hfile
      have hsource := (hrun.stocked hopened hsmooth).source hordinary hprovided hfile
      exact ⟨l₁, p, recordRead_append hread _, hp, hsource.extend l⟩

theorem DaemonRun.sourced (hopened : Opened d s₀) (hordinary : AllOrdinary s₀)
    (hrun : DaemonRun d s₀ τ w) (hsmooth : ∀ l ∈ τ, Smooth l) : Sourced d s₀ τ w := by
  revert hsmooth
  refine Run.induct (I := fun τ w => (∀ l ∈ τ, Smooth l) → Sourced d s₀ τ w) ?_
    (fun {τ w l w'} hr ih hs hsmooth => ?_) hrun
  · intro _ id slug params h q hthread
    cases hthread
  · have hbefore : ∀ l ∈ τ, Smooth l := fun l hl => hsmooth l (List.mem_append_left _ hl)
    exact (ih hbefore).step hopened hordinary hr hbefore hs

end Runs

/-! ### Undisturbed downloads -/

/-- The thread is a download that has read the record `p` and is still to open its file. -/
def Holds (w : DaemonWorld) (id : Nat) (slug : String) (p : ProductRecord) : Prop :=
  ∃ params h q l, w.threads id = some ⟨.getDownload slug params, h, q⟩ ∧
    recordRead params h = some l ∧ l.store.getProduct slug = some p ∧
    ∀ c ∈ h, c.1.isOpenFile = false

/-- The step is the one at which the download of this thread reads its record. -/
def ReadsRecord (w : DaemonWorld) (l : DaemonLabel) (id : Nat) (slug : String) : Prop :=
  ∃ params h q snapshot, w.threads id = some ⟨.getDownload slug params, h, q⟩ ∧
    (snapshots h).length = recordIndex params ∧
    l = .call id (.getDownload slug params) ⟨.lock, some snapshot⟩

/-- What a file may hold as far as its length shows. -/
def SameLength (contents body : ByteArray) : Prop := contents.size = body.size

/-- The download of the slug by this thread meets no upload of another length: uploads of the
    slug register in turn, as far as lengths show; when the download reads its record, the
    file does not hold the body of an upload that is still to register, unless that has the
    registered length; and until it opens the file, no upload writes another length to it. -/
structure Undisturbed (d : Daemon) (id : Nat) (slug : String) (w : DaemonWorld)
    (l : DaemonLabel) : Prop where
  inTurn : InTurn d SameLength slug w l
  atRead : ∀ p contents id', ReadsRecord w l id slug →
    w.shared.store.getProduct slug = some p →
    w.shared.files (d.artifactFile slug p.format) = some contents →
    Awaiting w id' slug p.format contents → contents.size = p.sizeBytes.toNat
  atWrite : ∀ p id' params auth body ans, Holds w id slug p → params.format = p.format →
    l = .call id' (.putProduct slug params auth body)
      ⟨.writeFile (d.artifactFile slug p.format) body, ans⟩ → body.size = p.sizeBytes.toNat

/-- The file of the record that a download has read has the recorded length, until it is
    opened and in what is then read from it. -/
def Consistent (d : Daemon) (id : Nat) (slug : String) (w : DaemonWorld) : Prop :=
  ∀ params h q l p, w.threads id = some ⟨.getDownload slug params, h, q⟩ →
    recordRead params h = some l → l.store.getProduct slug = some p →
      ((∀ c ∈ h, c.1.isOpenFile = false) → ∃ contents,
        w.shared.files (d.artifactFile slug p.format) = some contents ∧
        p.sizeBytes.toNat = contents.size) ∧
      ∀ path contents, ⟨.openFile path, .ok contents⟩ ∈ h → p.sizeBytes.toNat = contents.size

/-- A call after which the record has been read, where it had not been, is the one that
    read it. -/
theorem recordRead_concat {params : Gate.DownloadParams} {h : List DaemonCall} {c : DaemonCall}
    {l : Locked} (hl : recordRead params (h ++ [c]) = some l) (hnone : recordRead params h = none) :
    c = ⟨.lock, some l⟩ ∧ (snapshots h).length = recordIndex params := by
  unfold recordRead at hl hnone
  have hle := List.getElem?_eq_none_iff.mp hnone
  rw [snapshots_append, List.getElem?_append_right hle] at hl
  obtain ⟨hlt, -⟩ := List.getElem?_eq_some_iff.mp hl
  have hone : (snapshots [c]).length ≤ 1 := List.length_filterMap_le _ _
  have hmem := mem_snapshots.mp (List.mem_of_getElem? hl)
  exact ⟨(List.mem_singleton.mp hmem).symm, by omega⟩

section Runs

variable {d : Daemon} {s₀ s : Shared} {τ : List DaemonLabel} {w w' : DaemonWorld}
variable {l : DaemonLabel} {id : Nat} {slug : String}

/-- A download opens its file after it has read the record. -/
theorem recordRead_of_open {params : Gate.DownloadParams} {h : List DaemonCall}
    {q : Handler Response} (hreaches : Reaches (Gate.getDownload d.lib slug params) h q)
    {path : String} {ans : Answer (.openFile path)} (hopen : ⟨.openFile path, ans⟩ ∈ h) :
    recordRead params h ≠ none := by
  obtain ⟨before, ⟨rest, rfl⟩, -, l, -, -, hread, -⟩ :=
    (getDownload_opens d.lib slug params).performed hreaches _ hopen
  rw [recordRead_append hread rest]
  exact Option.some_ne_none l

/-- What the file holds when an undisturbed download reads the record. -/
theorem Undisturbed.file_of_read (h : Undisturbed d id slug w l)
    (htracked : SlugTracked d SameLength s₀ τ w slug)
    {p : ProductRecord} (hreads : ReadsRecord w l id slug)
    (hp : w.shared.store.getProduct slug = some p) :
    ∃ contents, w.shared.files (d.artifactFile slug p.format) = some contents ∧
      p.sizeBytes.toNat = contents.size := by
  obtain ⟨-, supplied, contents, -, hsize, hfile, hwhose⟩ := htracked p hp
  refine ⟨contents, hfile, ?_⟩
  rcases hwhose with hsame | ⟨id', hawaiting⟩
  · exact hsize.trans hsame.symm
  · exact (h.atRead p contents id' hreads hp hfile hawaiting).symm

/-- A step keeps the length of the file that an undisturbed download is about to open. -/
theorem Undisturbed.file_kept (hopened : Opened d s₀) (hrun : DaemonRun d s₀ τ w)
    (h : Undisturbed d id slug w l) (hs : Step (system d) w l w') (hl : Smooth l)
    {p : ProductRecord} (hordinary : Ordinary slug p) (hholds : Holds w id slug p)
    (hfile : ∃ contents, w.shared.files (d.artifactFile slug p.format) = some contents ∧
      p.sizeBytes.toNat = contents.size) :
    ∃ contents, w'.shared.files (d.artifactFile slug p.format) = some contents ∧
      p.sizeBytes.toNat = contents.size := by
  obtain ⟨contents, hheld, hsize⟩ := hfile
  obtain ⟨hindex, htmp⟩ := artifactFile_ne_index (d := d) hordinary.validSlug
    hordinary.validFormat
  cases hrun.catalogStep hopened hs hl with
  | same catalog other =>
    exact ⟨contents, (catalog.files _ hindex htmp).trans hheld, hsize⟩
  | wrote id' slug' params auth body label hslug' hformat' store files awaiting =>
    by_cases hpath : d.artifactFile slug p.format = d.artifactFile slug' params.format
    · obtain ⟨rfl, hformat⟩ :=
        artifact_path_inj hordinary.validSlug hslug' hordinary.validFormat hpath
      rw [← hpath] at label files
      refine ⟨body, ?_, (h.atWrite p id' params auth body _ hholds hformat.symm label).symm⟩
      rw [files]
      exact Files.write_same _ _ _
    · rw [files, Files.write_other hpath]
      exact ⟨contents, hheld, hsize⟩
  | registered id' slug' params auth body label hslug' hformat' products files =>
    exact ⟨contents, (files _ hindex htmp).trans hheld, hsize⟩

theorem Consistent.step (hopened : Opened d s₀) (hmatched : Matched d s₀)
    (hrun : DaemonRun d s₀ τ w) (hsmooth : ∀ l ∈ τ, Smooth l)
    (htracked : SlugTracked d SameLength s₀ τ w slug)
    (h : Consistent d id slug w) (hundisturbed : Undisturbed d id slug w l)
    (hs : Step (system d) w l w') (hl : Smooth l) : Consistent d id slug w' := by
  intro params h' q snapshot p hthread hread hp
  have hjson : .restart ∈ τ → d.lib.Lossless := fun hmem => (hsmooth _ hmem).elim
  rcases hs.thread_cases hthread with hold | ⟨-, hnil⟩ | ⟨hist, op, k, ans, hlabel, ht, hold, act⟩
  · -- the download waits
    obtain ⟨hfile, hcontents⟩ := h params h' q snapshot p hold hread hp
    refine ⟨?_, hcontents⟩
    intro hnone
    have htraced := hrun.traced _ _ hold
    have hlock := recordRead_mem hread
    have hordinary := Ordinary.of_provided hmatched.ordinary
      (hrun.path_of_read hopened hmatched.ordinary hjson htraced hlock hlock hp).2
    exact hundisturbed.file_kept hopened hrun hs hl hordinary
      ⟨params, h', q, snapshot, hold, hread, hp, hnone⟩ (hfile hnone)
  · cases hnil
    cases hread
  · cases ht
    have htraced := hrun.traced _ _ hold
    rcases hread₀ : recordRead params hist with _ | snapshot₀
    · -- the record is read by this step
      obtain ⟨hc, hlength⟩ := recordRead_concat hread hread₀
      cases hc
      have hshared : w'.shared = w.shared := act.1
      rw [act_lock (d := d) act] at hp
      have hfile := hundisturbed.file_of_read htracked
        ⟨params, hist, _, snapshot, hold, hlength, hlabel⟩ hp
      rw [hshared]
      refine ⟨fun _ => hfile, ?_⟩
      intro path contents hopen
      rcases List.mem_append.mp hopen with hopen | hopen
      · exact absurd hread₀ (recordRead_of_open htraced.reaches hopen)
      · cases List.mem_singleton.mp hopen
    · obtain rfl := Option.some.inj ((recordRead_append hread₀ _).symm.trans hread)
      obtain ⟨hfile, hcontents⟩ := h params hist _ snapshot₀ p hold hread₀ hp
      have hlock := recordRead_mem hread₀
      have hordinary := Ordinary.of_provided hmatched.ordinary
        (hrun.path_of_read hopened hmatched.ordinary hjson htraced hlock hlock hp).2
      constructor
      · intro hnone
        have hnone₀ : ∀ c ∈ hist, c.1.isOpenFile = false :=
          fun c hc => hnone c (List.mem_append_left _ hc)
        exact hundisturbed.file_kept hopened hrun hs hl hordinary
          ⟨params, hist, _, snapshot₀, hold, hread₀, hp, hnone₀⟩ (hfile hnone₀)
      · intro path contents hopen
        rcases List.mem_append.mp hopen with hopen | hopen
        · exact hcontents path contents hopen
        · -- the file is opened by this step
          cases List.mem_singleton.mp hopen
          obtain ⟨hnone, l₁, l₂, p', hread₁, hp', hl₂, hpath⟩ :=
            (getDownload_opens d.lib slug params).pending htraced.reaches
          obtain rfl := Option.some.inj (hread₁.symm.trans hread₀)
          obtain rfl := Option.some.inj (hp'.symm.trans hp)
          obtain ⟨contents₀, hheld, hsize⟩ := hfile hnone
          have hown := (hrun.path_of_read hopened hmatched.ordinary hjson htraced hlock hl₂ hp').1
          have hnow : w.shared.files path = some contents := act.2 contents rfl
          rw [hpath, hown] at hnow
          rw [← Option.some.inj (hheld.symm.trans hnow)]
          exact hsize

theorem consistent_of_run (hopened : Opened d s₀) (hmatched : Matched d s₀)
    (hsmooth : ∀ l ∈ τ, Smooth l)
    (hrun : RunWith (system d) (Undisturbed d id slug) (World.initial s₀) τ w) :
    Consistent d id slug w := by
  revert hsmooth
  suffices hboth : (∀ l ∈ τ, Smooth l) → Consistent d id slug w ∧
      SlugTracked d SameLength s₀ τ w slug from
    fun hsmooth => (hboth hsmooth).1
  refine RunWith.induct (I := fun τ w => (∀ l ∈ τ, Smooth l) → Consistent d id slug w ∧
    SlugTracked d SameLength s₀ τ w slug)
    ?_ (fun {τ w l w'} hr ih hundisturbed hs hsmooth => ?_) hrun
  · refine fun _ => ⟨?_, .initial (R := SameLength) (fun _ => rfl) hmatched slug⟩
    intro params h q snapshot p hthread
    cases hthread
  · have hbefore : ∀ l ∈ τ, Smooth l := fun l hl => hsmooth l (List.mem_append_left _ hl)
    have hl := hsmooth l List.mem_concat_self
    obtain ⟨hconsistent, htracked⟩ := ih hbefore
    exact ⟨hconsistent.step hopened hmatched hr hbefore htracked hundisturbed hs hl,
      htracked.step hopened hr hbefore hundisturbed.inTurn hs hl⟩

/-! ### Masters of one length -/

/-- All bodies that requests to upload the slug have brought are of this length. -/
def OneLength (τ : List DaemonLabel) (slug : String) (n : Nat) : Prop :=
  ∀ id params auth body, .start id (.putProduct slug params auth body) ∈ τ → body.size = n

theorem OneLength.prefix {τ' : List DaemonLabel} {n : Nat} (h : OneLength τ slug n)
    (hpre : τ' <+: τ) : OneLength τ' slug n :=
  fun id' params auth body hstart => h id' params auth body (hpre.subset hstart)

/-- Then so are all records. -/
theorem OneLength.of_provided {n : Nat} {p : ProductRecord} (h : OneLength τ slug n)
    (hrun : DaemonRun d s₀ τ w) (hsmooth : ∀ l ∈ τ, Smooth l)
    (hstart : ∀ p, s₀.store.getProduct slug = some p → p.sizeBytes.toNat = n)
    (hp : s₀.store.getProduct slug = some p ∨ PublishedAs d τ slug p) : p.sizeBytes.toNat = n := by
  rcases hp with hp | ⟨id', params, auth, body, rfl, -, -, hwrite⟩
  · exact hstart p hp
  · have hstarted := hrun.called_started hwrite
    have hlimit : body.size ≤ bodyLimit := hsmooth _ hstarted
    rw [sizeBytes_upload hlimit]
    exact h id' params auth body hstarted

/-- An upload that registers finds a body of the one length in its file. -/
theorem OneLength.inTurn {n : Nat} (h : OneLength τ slug n) (hopened : Opened d s₀)
    (hrun : DaemonRun d s₀ τ w) (hsmooth : ∀ l ∈ τ, Smooth l) (hs : Step (system d) w l w') :
    InTurn d SameLength slug w l := by
  rintro id' params auth body record ans rfl
  obtain ⟨hist, k, hthread⟩ := hs.caller
  obtain ⟨slug', params', auth', body', hjob, hstep⟩ := hrun.upload_pending hthread (Or.inr rfl)
  obtain ⟨rfl, rfl, rfl, rfl⟩ := Job.putProduct.inj hjob
  obtain ⟨hadmitted, -, ⟨lock, hlock, hwrite⟩, -⟩ := hstep
  have htraced := hrun.traced _ _ hthread
  rw [(hrun.housed hopened).snapshots id' _ lock (htraced.called _ hlock)] at hwrite
  have hbody : body.size = n := h id' params auth body htraced.started
  rcases hrun.stocked hopened hsmooth slug params.format hadmitted.validSlug
    hadmitted.validFormat with ⟨contents, hheld, id'', params'', auth'', -, hwritten⟩ | ⟨-, hnone⟩
  · have hcontents : contents.size = n :=
      h id'' params'' auth'' contents (hrun.called_started hwritten)
    exact ⟨contents, hheld, Or.inl (hcontents.trans hbody.symm)⟩
  · exact absurd ⟨id', params, auth, rfl, htraced.called _ hwrite⟩ (hnone body)

/-- Where all masters of the slug are of one length, no upload disturbs a download. -/
theorem OneLength.undisturbed {n : Nat} (h : OneLength τ slug n) (hopened : Opened d s₀)
    (hrun : DaemonRun d s₀ τ w) (hsmooth : ∀ l ∈ τ, Smooth l)
    (hstart : ∀ p, s₀.store.getProduct slug = some p → p.sizeBytes.toNat = n) :
    RunWith (system d) (Undisturbed d id slug) (World.initial s₀) τ w := by
  refine .of_run hrun fun {τ' l w w'} (hr : DaemonRun d s₀ τ' w) hs hpre => ?_
  have hbefore := (List.prefix_append τ' [l]).trans hpre
  have hone := h.prefix hbefore
  have hsmooth' : ∀ l ∈ τ', Smooth l := fun l hl => hsmooth l (hbefore.subset hl)
  have hprovided := hr.provided hopened fun hmem => (hsmooth' _ hmem).elim
  constructor
  · exact hone.inTurn hopened hr hsmooth' hs
  · rintro p contents id' - hp - ⟨params, auth, hist, k, -, hthread⟩
    rw [hone id' params auth contents (hr.traced _ _ hthread).started]
    exact (hone.of_provided hr hsmooth' hstart (hprovided.memory slug p hp)).symm
  · rintro p id' params auth body ans ⟨params', hist, q, snapshot, hthread, hread, hp, -⟩ - rfl
    obtain ⟨hist', k, hupload⟩ := hs.caller
    have hcalled := (hr.traced _ _ hthread).called _ (recordRead_mem hread)
    rw [hone id' params auth body (hr.traced _ _ hupload).started]
    exact (hone.of_provided hr hsmooth' hstart
      (hprovided.snapshots id _ snapshot hcalled slug p hp)).symm

/-! ### The result -/

/-- A download that answers 200 has opened the body of an upload in the format that its file
    name announces, or what such a record's file held at the start; and the announced length
    is that of the opened file in every run in which it meets no upload of another length. -/
theorem download_consistent (hopened : Opened d s₀) (hmatched : Matched d s₀)
    (hrun : DaemonRun d s₀ τ w) (hsmooth : ∀ l ∈ τ, Smooth l)
    {params : Gate.DownloadParams} {size : UInt64} {disposition : String} {contents : ByteArray}
    (hanswer : Step (system d) w
      (.answer id (.getDownload slug params) (.artifact size disposition contents)) w') :
    (∃ format, disposition = Gate.contentDisposition slug format ∧
      Source d s₀ τ slug format contents) ∧
    (RunWith (system d) (Undisturbed d id slug) (World.initial s₀) τ w →
      size.toNat = contents.size) := by
  obtain ⟨h, hthread⟩ : ∃ h, w.threads id =
      some ⟨.getDownload slug params, h, .done (.artifact size disposition contents)⟩ := by
    cases hanswer with
    | answer thread => exact ⟨_, thread⟩
  have htraced := hrun.traced _ _ hthread
  obtain ⟨l, p, path, hread, hp, hopen, rfl, rfl⟩ :=
    ((getDownload_opens d.lib slug params).result htraced.reaches).artifact _ _ _ rfl
  constructor
  · obtain ⟨l', p', hread', hp', hsource⟩ :=
      hrun.sourced hopened hmatched.ordinary hsmooth id slug params h _ hthread path contents hopen
    obtain rfl := Option.some.inj (hread.symm.trans hread')
    obtain rfl := Option.some.inj (hp.symm.trans hp')
    exact ⟨p.format, rfl, hsource⟩
  · intro hundisturbed
    have hconsistent := consistent_of_run hopened hmatched hsmooth hundisturbed
    exact (hconsistent params h _ l p hthread hread hp).2 path contents hopen

end Runs

/-! ### A download that an upload overtakes -/

/-- The rest of a download after its file has been opened. -/
def sendArtifact (lib : Crates) (slug : String) (product : ProductRecord) :
    Except String ByteArray → Handler Response
  | .error e => .done (.err .internalServerError s!"Artifact missing on disk: {e}")
  | .ok contents =>
    if lib.headerValueOk (Gate.contentDisposition slug product.format) then
      .done (.artifact product.sizeBytes (Gate.contentDisposition slug product.format) contents)
    else .done fallback

theorem serveArtifact_eq (lib : Crates) (slug : String) (product : ProductRecord) :
    Gate.serveArtifact lib slug product = .call .lock fun r => match r with
      | none => .done Gate.poisoned
      | some l => .call (.openFile (joinPath l.store.dir product.fileName))
        (sendArtifact lib slug product) := by
  simp only [Gate.serveArtifact, perform_bind]
  congr 1

/-- A download by the claim token of a purchase that is marked as paid comes to its file. -/
theorem getDownload_opening {lib : Crates} {slug token : String} {l l' : Locked}
    {p : PurchaseRecord} {product : ProductRecord} (hclaim : l.getPurchaseByClaim token = some p)
    (hpurchase : l.store.getPurchase p.paymentHash = some p) (hslug : p.slug = slug)
    (hproduct : l.store.getProduct slug = some product) (hpaid : p.paid = true) :
    Reaches (Gate.getDownload lib slug ⟨none, some token⟩)
      [⟨.lock, some l⟩, ⟨.lock, some l⟩, ⟨.lock, some l'⟩]
      (.call (.openFile (joinPath l'.store.dir product.fileName))
        (sendArtifact lib slug product)) := by
  have hstart : Reaches (Gate.getDownload lib slug ⟨none, some token⟩) []
      (Gate.getDownload lib slug ⟨none, some token⟩) := .refl
  have hcredential := Reaches.step (some l) hstart
  simp only [Process.bind, hclaim] at hcredential
  have hchecked := Reaches.step (some l) hcredential
  simp only [Process.bind, hpurchase, hslug, hproduct, hpaid, ne_eq, not_true_eq_false,
    if_false] at hchecked
  have hserve : Reaches (Gate.getDownload lib slug ⟨none, some token⟩)
      [⟨.lock, some l⟩, ⟨.lock, some l⟩] (Gate.serveArtifact lib slug product) := hchecked
  rw [serveArtifact_eq] at hserve
  exact hserve.step (some l')

namespace Sample

/-- The index after the sale. -/
def settledFiles : Files :=
  Files.write (fun _ => none) "/data/products/index.json" (indexText (saleText "true")).toUTF8

/-- The track is on sale, its file holds `contents`, and its buyer has paid. -/
def shelf (contents : ByteArray) : Shared where
  store := ⟨dir, settled⟩
  files := settledFiles.write "/data/products/midnight.flac" contents
  poisoned := false
  payments := []

def soldOut : Shared := shelf body

theorem fromStr_settled : studioJson.fromStr (indexText (saleText "true")) = .ok settled := by
  have hfind : ∀ rows : List (Persisted × String),
      ((settled, indexText (saleText "true")) :: rows).find?
        (fun row => decide (row.2 = indexText (saleText "true"))) =
          some (settled, indexText (saleText "true")) :=
    fun rows => List.find?_cons_of_pos (decide_eq_true rfl)
  simp only [studioJson, SerdeJson.ofTable, hfind]

theorem opened_shelf (contents : ByteArray) : Opened studio (shelf contents) := by
  have hpath : joinPath (joinPath dataDir "products") "index.json" =
      "/data/products/index.json" := by decide
  have hdir : joinPath dataDir "products" = dir := by decide
  have hindex : (shelf contents).files (joinPath (joinPath dataDir "products") "index.json") =
      some (indexText (saleText "true")).toUTF8 := by
    rw [hpath]
    have hne : "/data/products/index.json" ≠ "/data/products/midnight.flac" := by decide
    have hother : settledFiles.write "/data/products/midnight.flac" contents
        "/data/products/index.json" = settledFiles "/data/products/index.json" :=
      Files.write_other hne
    have hindex : settledFiles "/data/products/index.json" =
        some (indexText (saleText "true")).toUTF8 :=
      Files.write_same (fun _ => none) "/data/products/index.json" _
    exact hother.trans hindex
  have hopen := Store.open_of_index hindex fromStr_settled
  rw [hdir] at hopen
  exact ⟨hopen, rfl⟩

theorem opened_soldOut : Opened studio soldOut := opened_shelf body

theorem shelf_artifact (contents : ByteArray) :
    (shelf contents).files "/data/products/midnight.flac" = some contents :=
  Files.write_same settledFiles "/data/products/midnight.flac" contents

theorem studio_artifactFile :
    studio.artifactFile "midnight" midnight.format = "/data/products/midnight.flac" := by decide

/-- The track is the only product. -/
theorem shelf_product {contents : ByteArray} {slug : String} {p : ProductRecord}
    (hp : (shelf contents).store.getProduct slug = some p) : slug = "midnight" ∧ midnight = p := by
  have hslug : slug = "midnight" := by
    by_contra hne
    have hnone : (shelf contents).store.getProduct slug = none :=
      (Finmap.lookup_insert_of_ne _ hne).trans (Finmap.lookup_empty slug)
    cases hnone.symm.trans hp
  subst hslug
  exact ⟨rfl, Option.some.inj hp⟩

theorem matched_shelf {contents : ByteArray} (hsize : contents.size = 4) :
    Matched studio (shelf contents) := by
  intro slug p hp
  obtain ⟨rfl, rfl⟩ := shelf_product hp
  refine ⟨⟨by decide, by decide, rfl⟩, contents, ?_, hsize.symm⟩
  rw [studio_artifactFile]
  exact shelf_artifact contents

theorem matched_soldOut : Matched studio soldOut := matched_shelf (by decide)

/-- What the download sees before it opens the file. -/
def readCalls : List DaemonCall :=
  [⟨.lock, some settledLocked⟩, ⟨.lock, some settledLocked⟩, ⟨.lock, some settledLocked⟩]

def openCall (contents : ByteArray) : DaemonCall :=
  ⟨.openFile "/data/products/midnight.flac", .ok contents⟩

def sent (contents : ByteArray) : Response :=
  .artifact 4 "attachment; filename=\"midnight.flac\"" contents

theorem download_opening : Reaches ((system studio).program downloadRequest) readCalls
    (.call (.openFile "/data/products/midnight.flac")
      (sendArtifact studio.lib "midnight" midnight)) := by
  have hclaim : settledLocked.getPurchaseByClaim token = some { sale with paid := true } := rfl
  have hopening : Reaches (Gate.getDownload studio.lib "midnight" ⟨none, some token⟩) readCalls
      (.call (.openFile (joinPath settledLocked.store.dir midnight.fileName))
        (sendArtifact studio.lib "midnight" midnight)) :=
    getDownload_opening hclaim rfl rfl rfl rfl
  have hpath : joinPath settledLocked.store.dir midnight.fileName =
      "/data/products/midnight.flac" := joinPath_midnight
  rw [hpath] at hopening
  exact hopening

theorem sendArtifact_sent (contents : ByteArray) :
    sendArtifact studio.lib "midnight" midnight (.ok contents) = .done (sent contents) := by
  have hheader : studio.lib.headerValueOk (Gate.contentDisposition "midnight" midnight.format) =
      true := by
    show (crates upload).headerValueOk (Gate.contentDisposition "midnight" "flac") = true
    decide
  simp only [sendArtifact, hheader, if_true]
  rfl

/-- The download that is about to open the file. -/
def opening : Handler Response :=
  .call (.openFile "/data/products/midnight.flac") (sendArtifact studio.lib "midnight" midnight)

theorem download_sent (contents : ByteArray) :
    Reaches opening [openCall contents] (.done (sent contents)) := by
  have hstart : Reaches opening [] opening := .refl
  rw [← sendArtifact_sent]
  exact Reaches.step (.ok contents : Except String ByteArray) hstart

theorem readCalls_performs {s : Shared} (hstore : s.store = ⟨dir, settled⟩)
    (hhealthy : s.poisoned = false) : Performs (system studio) s readCalls s := by
  have hlock : act studio s .lock (some settledLocked) s :=
    act_lock_healthy hhealthy hstore.symm
  exact ⟨s, hlock, s, hlock, s, hlock, rfl⟩

theorem openCall_performs {s : Shared} {contents : ByteArray}
    (hfile : s.files "/data/products/midnight.flac" = some contents) :
    Performs (system studio) s [openCall contents] s := by
  refine ⟨s, ⟨rfl, ?_⟩, rfl⟩
  intro contents' hcontents
  obtain rfl := Except.ok.inj hcontents
  exact hfile

/-- The listing under which the masters are uploaded. -/
def track : Gate.UploadParams := ⟨"Midnight", 5000, none, "flac"⟩

/-- The upload of a master. -/
def masterUpload (header : String) (bytes : ByteArray) : Job :=
  .putProduct "midnight" track (some header) bytes

/-- The calls of an upload up to its write. -/
def masterCalls (bytes : ByteArray) : List DaemonCall :=
  [⟨.nowSecs, 1700000030⟩, ⟨.lock, some settledLocked⟩] ++
    [⟨.writeFile "/data/products/midnight.flac" bytes, .ok ()⟩]

/-- A master has been written over the one that is on sale. -/
def overwritten (contents bytes : ByteArray) : Shared :=
  { shelf contents with
    files := (shelf contents).files.write "/data/products/midnight.flac" bytes }

theorem masterCalls_performs (contents bytes : ByteArray) :
    Performs (system studio) (shelf contents) (masterCalls bytes) (overwritten contents bytes) := by
  have hlock : act studio (shelf contents) .lock (some settledLocked) (shelf contents) :=
    act_lock_healthy rfl rfl
  exact ⟨_, rfl, _, hlock, _, Or.inl ⟨rfl, rfl⟩, rfl⟩

def masterUpsert (bytes : ByteArray) : DaemonCall :=
  ⟨.upsertProduct (Gate.uploadRecord "midnight" track bytes), some (.ok ())⟩

/-- The download reads the record, the upload writes, the download opens the file, and the
    upload is accepted. -/
def overtakeTrace (header : String) (bytes : ByteArray) : List DaemonLabel :=
  .start 0 downloadRequest :: .start 1 (masterUpload header bytes) ::
    (readCalls.map (.call 0 downloadRequest) ++
      (masterCalls bytes).map (.call 1 (masterUpload header bytes)) ++
      [.call 0 downloadRequest (openCall bytes),
        .call 1 (masterUpload header bytes) (masterUpsert bytes),
        .answer 1 (masterUpload header bytes) (.productCreated "midnight")])

theorem overtake_run {header : String} {contents bytes : ByteArray} {s : Shared}
    (hauthorized : UploadAuthorized studio header "midnight" bytes 1700000030)
    (hregister : Performs (system studio) (overwritten contents bytes) [masterUpsert bytes] s) :
    ∃ w, DaemonRun studio (shelf contents) (overtakeTrace header bytes) w ∧ w.threads 0 =
      some ⟨downloadRequest, readCalls ++ [openCall bytes], .done (sent bytes)⟩ := by
  have hinitial : DaemonRun studio (shelf contents) [] (World.initial (shelf contents)) := .refl
  obtain ⟨w₁, hrun₁, hshared₁, hnext₁, hdownload₁, -⟩ := hinitial.begin downloadRequest
  obtain ⟨w₂, hrun₂, hshared₂, -, hupload₂, hothers₂⟩ := hrun₁.begin (masterUpload header bytes)
  have hnext : w₁.next = 1 := hnext₁
  rw [hnext] at hrun₂ hupload₂ hothers₂
  have hdownload₂ := (hothers₂ 0 (by decide)).trans hdownload₁
  have hshelf : w₂.shared = shelf contents := hshared₂.trans hshared₁
  -- the download reads the record
  have hread := readCalls_performs (s := shelf contents) rfl rfl
  rw [← hshelf] at hread
  obtain ⟨w₃, hrun₃, hshared₃, -, hdownload₃, hothers₃⟩ :=
    hrun₂.advance hdownload₂ download_opening hread
  have hupload₃ := (hothers₃ 1 (by decide)).trans hupload₂
  -- the upload writes
  have hwrite := masterCalls_performs contents bytes
  rw [← hshelf, ← hshared₃] at hwrite
  have hreach := (studio_reaches hauthorized settledLocked rfl).step (.ok () : Except String Unit)
  obtain ⟨w₄, hrun₄, hshared₄, -, hupload₄, hothers₄⟩ := hrun₃.advance hupload₃ hreach hwrite
  have hdownload₄ := (hothers₄ 0 (by decide)).trans hdownload₃
  -- the download opens the file
  have hopen : Performs (system studio) w₄.shared [openCall bytes]
      (overwritten contents bytes) := by
    rw [hshared₄]
    exact openCall_performs
      (Files.write_same (shelf contents).files "/data/products/midnight.flac" bytes)
  obtain ⟨w₅, hrun₅, hshared₅, -, hdownload₅, hothers₅⟩ :=
    hrun₄.advance hdownload₄ (download_sent bytes) hopen
  have hupload₅ := (hothers₅ 1 (by decide)).trans hupload₄
  -- the upload is accepted
  rw [← hshared₅] at hregister
  obtain ⟨w₆, hrun₆, hshared₆, -, hupload₆, hothers₆⟩ :=
    hrun₅.advance hupload₅ (registerUpload_reaches "midnight" track bytes) hregister
  have hdownload₆ := (hothers₆ 0 (by decide)).trans hdownload₅
  obtain ⟨w₇, hrun₇, -, -, -, hothers₇⟩ := hrun₆.finish hupload₆
  exact ⟨w₇, hrun₇, (hothers₇ 0 (by decide)).trans hdownload₆⟩

theorem overtakeTrace_labels {header : String} {bytes : ByteArray} (hlimit : bytes.size ≤ bodyLimit) :
    ∀ l ∈ overtakeTrace header bytes, Smooth l ∧ ∀ id params auth body,
      l = .start id (.putProduct "midnight" params auth body) → body = bytes := by
  intro l hl
  simp only [overtakeTrace, readCalls, masterCalls, List.cons_append, List.nil_append,
    List.map_cons, List.map_nil, List.mem_cons, List.not_mem_nil, or_false] at hl
  rcases hl with rfl | rfl | rfl | rfl | rfl | rfl | rfl | rfl | rfl | rfl | rfl
  · exact ⟨trivial, by intro id params auth body hstart; cases hstart⟩
  · exact ⟨hlimit, by intro id params auth body hstart; cases hstart; rfl⟩
  · exact ⟨trivial, by intro id params auth body hstart; cases hstart⟩
  · exact ⟨trivial, by intro id params auth body hstart; cases hstart⟩
  · exact ⟨trivial, by intro id params auth body hstart; cases hstart⟩
  · exact ⟨trivial, by intro id params auth body hstart; cases hstart⟩
  · exact ⟨trivial, by intro id params auth body hstart; cases hstart⟩
  · exact ⟨rfl, by intro id params auth body hstart; cases hstart⟩
  · exact ⟨trivial, by intro id params auth body hstart; cases hstart⟩
  · exact ⟨rfl, by intro id params auth body hstart; cases hstart⟩
  · exact ⟨trivial, by intro id params auth body hstart; cases hstart⟩

/-- An earlier master of the track, of the same length. -/
def earlyMaster : ByteArray := ⟨#[102, 76, 97, 99]⟩

/-- The upload of the current master, which replaces the earlier one. -/
def reissueTrace : List DaemonLabel := overtakeTrace ("Nostr " ++ uploadBase64) body

/-- The upload of the longer master. -/
def raceTrace : List DaemonLabel := overtakeTrace ("Nostr " ++ remasterBase64) remasterBody

theorem reissue_registers : Performs (system studio) (overwritten earlyMaster body)
    [masterUpsert body]
    ((overwritten earlyMaster body).mutate studioJson (.upsertProduct midnight) ⟨0, none⟩) :=
  ⟨_, Or.inr ⟨rfl, ⟨0, none⟩, rfl, rfl⟩, rfl⟩

theorem race_registers : Performs (system studio) (overwritten body remasterBody)
    [masterUpsert remasterBody]
    ((overwritten body remasterBody).mutate studioJson (.upsertProduct remastered) ⟨0, none⟩) :=
  ⟨_, Or.inr ⟨rfl, ⟨0, none⟩, rfl, rfl⟩, rfl⟩

end Sample

/-- The artist uploads another master of the same length while a buyer downloads the track:
    the download opens the new master and announces its length. -/
theorem download_consistent_midnight :
    .answer 1 Sample.firstUpload (.productCreated "midnight") ∈ Sample.reissueTrace ∧
    (Sample.shelf Sample.earlyMaster).files "/data/products/midnight.flac" ≠ some Sample.body ∧
    (∃ format, "attachment; filename=\"midnight.flac\"" =
        Gate.contentDisposition "midnight" format ∧
      Source Sample.studio (Sample.shelf Sample.earlyMaster) Sample.reissueTrace "midnight" format
        Sample.body) ∧
    (4 : UInt64).toNat = Sample.body.size := by
  obtain ⟨w, hrun, hthread⟩ :=
    Sample.overtake_run Sample.studio_authorizes_upload Sample.reissue_registers
  have hlabels := @Sample.overtakeTrace_labels ("Nostr " ++ Sample.uploadBase64) Sample.body
    (by decide)
  have hsmooth : ∀ l ∈ Sample.reissueTrace, Smooth l := fun l hl => (hlabels l hl).1
  have hone : OneLength Sample.reissueTrace "midnight" 4 := by
    intro id params auth bytes hstart
    rw [(hlabels _ hstart).2 id params auth bytes rfl]
    rfl
  have hundisturbed : RunWith (system Sample.studio) (Undisturbed Sample.studio 0 "midnight")
      (World.initial (Sample.shelf Sample.earlyMaster)) Sample.reissueTrace w := by
    refine hone.undisturbed (Sample.opened_shelf Sample.earlyMaster) hrun hsmooth ?_
    intro p hp
    obtain ⟨-, rfl⟩ := Sample.shelf_product hp
    rfl
  obtain ⟨hsource, hsize⟩ := download_consistent (Sample.opened_shelf Sample.earlyMaster)
    (Sample.matched_shelf rfl) hrun hsmooth (Step.answer hthread)
  refine ⟨by simp [Sample.reissueTrace, Sample.overtakeTrace, Sample.masterUpload,
    Sample.firstUpload, Sample.uploadRequest, Sample.track], ?_, hsource, hsize hundisturbed⟩
  rw [Sample.shelf_artifact]
  decide

/-- The artist uploads the longer master while a buyer downloads the track: the download
    announces the length of the old record and opens the new file. -/
theorem download_inconsistent : ∃ w w', Opened Sample.studio Sample.soldOut ∧
    Matched Sample.studio Sample.soldOut ∧
    DaemonRun Sample.studio Sample.soldOut Sample.raceTrace w ∧
    (∀ l ∈ Sample.raceTrace, Smooth l) ∧
    .answer 1 Sample.remasterUpload (.productCreated "midnight") ∈ Sample.raceTrace ∧
    Step (system Sample.studio) w (.answer 0 Sample.downloadRequest
      (.artifact 4 "attachment; filename=\"midnight.flac\"" Sample.remasterBody)) w' ∧
    (4 : UInt64).toNat ≠ Sample.remasterBody.size := by
  obtain ⟨w, hrun, hthread⟩ :=
    Sample.overtake_run Sample.studio_authorizes_remaster Sample.race_registers
  have hsmooth : ∀ l ∈ Sample.raceTrace, Smooth l :=
    fun l hl => (Sample.overtakeTrace_labels (by decide) l hl).1
  exact ⟨w, _, Sample.opened_soldOut, Sample.matched_soldOut, hrun, hsmooth,
    by simp [Sample.raceTrace, Sample.overtakeTrace, Sample.masterUpload, Sample.remasterUpload,
      Sample.track], Step.answer hthread, by decide⟩

end ArtistNode
