import ArtistNode.Catalog

/-!
# Uploads that overlap

An upload has two effects: it writes its body to the artifact's file, in place and
without the store lock, and then it registers its record. Between the two, other uploads
of the same file can do the same. File and record stay in step as long as no upload
registers after its file has gone to another upload that has already registered.
-/

namespace ArtistNode

open Base

/-! ### What an upload leaves behind -/

/-- The file of the artifact of a slug in a format. -/
def Daemon.artifactFile (d : Daemon) (slug format : String) : String :=
  joinPath d.productsDir (Gate.fileNameOf slug format)

/-- A record with an admissible slug and format that names its own file. -/
structure Ordinary (slug : String) (p : ProductRecord) : Prop where
  validSlug : validSlug slug = true
  validFormat : validFormat p.format = true
  fileName : p.fileName = Gate.fileNameOf slug p.format

def AllOrdinary (s : Shared) : Prop :=
  ∀ slug p, s.store.getProduct slug = some p → Ordinary slug p

/-- Each registered product's file is there and has the registered size. -/
def Matched (d : Daemon) (s : Shared) : Prop :=
  ∀ slug p, s.store.getProduct slug = some p → Ordinary slug p ∧
    ∃ contents, s.files (d.artifactFile slug p.format) = some contents ∧
      p.sizeBytes.toNat = contents.size

theorem Matched.ordinary {d : Daemon} {s : Shared} (h : Matched d s) : AllOrdinary s :=
  fun slug p hp => (h slug p hp).1

/-- The upload has written its file and is about to register its record. -/
def Awaiting (w : DaemonWorld) (id : Nat) (slug format : String) (body : ByteArray) : Prop :=
  ∃ params auth h k, params.format = format ∧ w.threads id =
    some ⟨.putProduct slug params auth body, h,
      .call (.upsertProduct (Gate.uploadRecord slug params body)) k⟩

/-- The request whose registration of the slug was the last one. -/
def registrant (slug : String) (τ : List DaemonLabel) : Option Job :=
  τ.reverse.findSome? fun l => match l with
    | .call _ job ⟨.upsertProduct record, _⟩ => if record.slug = slug then some job else none
    | _ => none

/-- `contents` came with the record `p`: in the request that registered it last, or, where
    nothing has been registered under the slug, in the file at the start. -/
def Supplied (d : Daemon) (s₀ : Shared) (τ : List DaemonLabel) (slug : String) (p : ProductRecord)
    (contents : ByteArray) : Prop :=
  match registrant slug τ with
  | none => s₀.store.getProduct slug = some p ∧
      s₀.files (d.artifactFile slug p.format) = some contents
  | some job => ∃ params auth, job = .putProduct slug params auth contents ∧
      p = Gate.uploadRecord slug params contents

/-! ### The course of the steps -/

/-- `DefaultBodyLimit` of the upload route. -/
def bodyLimit : Nat := 2 * 1024 * 1024 * 1024

/-- No restart, no failure of an upload's two effects, and no body beyond the limit. -/
def Smooth : DaemonLabel → Prop
  | .restart => False
  | .start _ (.putProduct _ _ _ body) => body.size ≤ bodyLimit
  | .call _ _ ⟨.writeFile .., ans⟩ => ans = .ok ()
  | .call _ _ ⟨.upsertProduct _, ans⟩ => ans = some (.ok ())
  | _ => True

/-- What a step without restart and failure does to the catalog: nothing, or one of the two
    effects of one upload. -/
inductive CatalogStep (d : Daemon) (w : DaemonWorld) (l : DaemonLabel) (w' : DaemonWorld) : Prop
  | same (catalog : SameCatalog d w.shared w'.shared)
      (other : ∀ id job c, l = .call id job c → c.1.isWriteFile = false ∧ c.1.isUpsert = false)
  | wrote (id : Nat) (slug : String) (params : Gate.UploadParams) (auth : Option String)
      (body : ByteArray)
      (label : l = .call id (.putProduct slug params auth body)
        ⟨.writeFile (d.artifactFile slug params.format) body, .ok ()⟩)
      (validSlug : validSlug slug = true) (validFormat : validFormat params.format = true)
      (store : w'.shared.store = w.shared.store)
      (files : w'.shared.files = w.shared.files.write (d.artifactFile slug params.format) body)
      (awaiting : Awaiting w' id slug params.format body)
  | registered (id : Nat) (slug : String) (params : Gate.UploadParams) (auth : Option String)
      (body : ByteArray)
      (label : l = .call id (.putProduct slug params auth body)
        ⟨.upsertProduct (Gate.uploadRecord slug params body), some (.ok ())⟩)
      (validSlug : validSlug slug = true) (validFormat : validFormat params.format = true)
      (products : w'.shared.store.state.products =
        w.shared.store.state.products.insert slug (Gate.uploadRecord slug params body))
      (files : ∀ path, path ≠ joinPath d.productsDir "index.json" →
        path ≠ joinPath d.productsDir "index.json.tmp" → w'.shared.files path = w.shared.files path)

/-- After an upload's write to its file comes its registration. -/
def ThenRegisters (slug : String) (params : Gate.UploadParams) (body : ByteArray) :
    (op : Op) → (Answer op → Handler Response) → Prop
  | .writeFile .., k => k = registerUpload slug params body
  | _, _ => True

theorem registerUpload_paused (slug : String) (params : Gate.UploadParams) (body : ByteArray)
    (r : Except String Unit) :
    Paused (ThenRegisters slug params body) (registerUpload slug params body r) := by
  rcases r with e | ⟨⟩
  · exact paused_done
  · refine ⟨trivial, ?_⟩
    rintro (_ | (e | ⟨⟩))
    all_goals exact paused_done

theorem putProduct_paused (lib : Crates) (st : Gate.GateState) (slug : String)
    (params : Gate.UploadParams) (auth : Option String) (body : ByteArray) :
    Paused (ThenRegisters slug params body) (Gate.putProduct lib st slug params auth body) := by
  unfold Gate.putProduct
  rcases st.artistPubkey with _ | key
  · exact paused_done
  simp only
  split
  · exact paused_done
  split
  · exact paused_done
  split
  · exact paused_done
  split
  · exact paused_done
  rcases auth with _ | auth
  · exact paused_done
  simp only [perform_bind, paused_call]
  refine ⟨trivial, fun now => ?_⟩
  split
  · exact paused_done
  rw [storeUpload_eq]
  refine ⟨trivial, ?_⟩
  rintro (_ | l)
  · exact paused_done
  · exact ⟨rfl, registerUpload_paused slug params body⟩

/-- The registration that is accepted. -/
theorem registerUpload_reaches (slug : String) (params : Gate.UploadParams) (body : ByteArray) :
    Reaches (registerUpload slug params body (.ok ()))
      [⟨.upsertProduct (Gate.uploadRecord slug params body), some (.ok ())⟩]
      (.done (.productCreated slug)) := by
  have hstart : Reaches (registerUpload slug params body (.ok ())) []
      (registerUpload slug params body (.ok ())) := .refl
  exact Reaches.step (some (.ok ()) : Option (Except String Unit)) hstart

section Runs

variable {d : Daemon} {s₀ s : Shared} {τ : List DaemonLabel} {w w' : DaemonWorld}
variable {l : DaemonLabel} {slug format : String}

/-- The file of an artifact is not the index nor its temporary file. -/
theorem artifactFile_ne_index (hslug : validSlug slug = true)
    (hformat : validFormat format = true) :
    d.artifactFile slug format ≠ joinPath d.productsDir "index.json" ∧
      d.artifactFile slug format ≠ joinPath d.productsDir "index.json.tmp" :=
  artifact_ne_index d.productsDir hslug hformat

/-- A step without restart and failure is one of the three kinds. -/
theorem DaemonRun.catalogStep (hopened : Opened d s₀) (hrun : DaemonRun d s₀ τ w)
    (hs : Step (system d) w l w') (hsmooth : Smooth l) : CatalogStep d w l w' := by
  have hhoused := hrun.housed hopened
  cases hs with
  | start job => exact .same (.refl d _) (by intro id job c hl; cases hl)
  | answer thread => exact .same (.refl d _) (by intro id job c hl; cases hl)
  | env act =>
    obtain ⟨hstore, hfiles⟩ := env_files act
    refine .same ⟨congrArg (·.state.products) hstore, fun path _ _ => congrFun hfiles path⟩ ?_
    intro id job c hl
    cases hl
  | restart act => exact hsmooth.elim
  | @call id job h op k ans s' thread act =>
    by_cases hop : op.isWriteFile = true ∨ op.isUpsert = true
    · obtain ⟨slug, params, auth, body, rfl, hstep⟩ := hrun.upload_pending thread hop
      have htraced := hrun.traced _ _ thread
      cases op with
      | writeFile path contents =>
        obtain ⟨hadmitted, rfl, ⟨lock, hlock, rfl⟩, -⟩ := hstep
        rw [hhoused.snapshots id _ lock (htraced.called _ hlock)] at thread act ⊢
        obtain rfl : ans = .ok () := hsmooth
        obtain rfl : k = registerUpload slug params contents :=
          (putProduct_paused d.lib d.gateState slug params auth contents).pending htraced.reaches
        obtain ⟨-, rfl⟩ | ⟨e, he, -⟩ := act
        · exact .wrote id slug params auth contents rfl hadmitted.validSlug hadmitted.validFormat
            rfl rfl ⟨params, auth, _, _, rfl, Function.update_self _ _ _⟩
        · cases he
      | upsertProduct record =>
        obtain ⟨hadmitted, rfl, -⟩ := hstep
        obtain rfl : ans = some (.ok ()) := hsmooth
        obtain ⟨-, hnone, -⟩ | ⟨-, io, -, rfl⟩ := act
        · cases hnone
        · refine .registered id slug params auth body rfl hadmitted.validSlug hadmitted.validFormat
            rfl ?_
          intro path hindex htmp
          rw [← hhoused.dir] at hindex htmp
          exact (Mutation.upsertProduct (Gate.uploadRecord slug params body)).run_other
            d.lib.toSerdeJson io w.shared.store w.shared.files htmp hindex
      | _ => rcases hop with hop | hop <;> cases hop
    · simp only [not_or, Bool.not_eq_true] at hop
      refine .same (act_sameCatalog hhoused.dir act hop.1 hop.2) ?_
      rintro id' job' c hl
      cases hl
      exact hop

/-- An upload that awaits its registration goes on doing so until it registers. -/
theorem Awaiting.step {id : Nat} {body : ByteArray} (hrun : DaemonRun d s₀ τ w)
    (hs : Step (system d) w l w') (hrestart : l ≠ .restart)
    (h : Awaiting w id slug format body)
    (hother : ∀ job c, l = .call id job c → c.1.isUpsert = false) :
    Awaiting w' id slug format body := by
  obtain ⟨params, auth, h, k, hformat, hthread⟩ := h
  refine ⟨params, auth, h, k, hformat, ?_⟩
  cases hs with
  | start job =>
    have hlt : id < w.next := hrun.call_lt.1 id _ hthread
    exact (Function.update_of_ne (Nat.ne_of_lt hlt) _ _).trans hthread
  | @call id' job hist op k' ans s' thread act =>
    by_cases hid : id = id'
    · subst hid
      cases thread.symm.trans hthread
      cases hother _ _ rfl
    · exact (Function.update_of_ne hid _ _).trans hthread
  | @answer id' job hist a thread =>
    by_cases hid : id = id'
    · subst hid
      cases thread.symm.trans hthread
    · exact (Function.update_of_ne hid _ _).trans hthread
  | env act => exact hthread
  | restart act => exact absurd rfl hrestart

/-! ### Whose record is registered -/

theorem registrant_other (hother : ∀ id job c, l = .call id job c → c.1.isUpsert = false) :
    registrant slug (τ ++ [l]) = registrant slug τ := by
  unfold registrant
  rw [List.reverse_append]
  simp only [List.reverse_singleton, List.singleton_append, List.findSome?_cons]
  split
  · rename_i job hjob
    split at hjob
    · cases hother _ _ _ rfl
    · cases hjob
  · rfl

theorem registrant_upsert (id : Nat) (job : Job) (record : ProductRecord)
    (ans : Answer (.upsertProduct record)) :
    registrant slug (τ ++ [.call id job ⟨.upsertProduct record, ans⟩]) =
      if record.slug = slug then some job else registrant slug τ := by
  unfold registrant
  rw [List.reverse_append]
  simp only [List.reverse_singleton, List.singleton_append, List.findSome?_cons]
  by_cases hslug : record.slug = slug
  · simp only [if_pos hslug]
  · simp only [if_neg hslug]

theorem Supplied.congr {τ' : List DaemonLabel} {p : ProductRecord} {contents : ByteArray}
    (h : Supplied d s₀ τ slug p contents) (hsame : registrant slug τ' = registrant slug τ) :
    Supplied d s₀ τ' slug p contents := by
  unfold Supplied at h ⊢
  rw [hsame]
  exact h

end Runs

/-! ### Taking turns -/

/-- When an upload of the slug registers, its file holds what `R` accepts for its body, or
    else the body of another upload of the file that is still to register. -/
def InTurn (d : Daemon) (R : ByteArray → ByteArray → Prop) (slug : String) (w : DaemonWorld)
    (l : DaemonLabel) : Prop :=
  ∀ id params auth body record ans,
    l = .call id (.putProduct slug params auth body) ⟨.upsertProduct record, ans⟩ →
      ∃ contents, w.shared.files (d.artifactFile slug params.format) = some contents ∧
        (R contents body ∨ ∃ id', id' ≠ id ∧ Awaiting w id' slug params.format contents)

/-- The product's file holds what `R` accepts for the contents that came with its record,
    or else the body of an upload that is still to register. -/
def Tracked (d : Daemon) (R : ByteArray → ByteArray → Prop) (s₀ : Shared) (τ : List DaemonLabel)
    (w : DaemonWorld) (slug : String) (p : ProductRecord) : Prop :=
  Ordinary slug p ∧ ∃ supplied contents, Supplied d s₀ τ slug p supplied ∧
    p.sizeBytes.toNat = supplied.size ∧
    w.shared.files (d.artifactFile slug p.format) = some contents ∧
    (R contents supplied ∨ ∃ id, Awaiting w id slug p.format contents)

/-- What is registered under the slug is tracked. -/
def SlugTracked (d : Daemon) (R : ByteArray → ByteArray → Prop) (s₀ : Shared)
    (τ : List DaemonLabel) (w : DaemonWorld) (slug : String) : Prop :=
  ∀ p, w.shared.store.getProduct slug = some p → Tracked d R s₀ τ w slug p

section Runs

variable {d : Daemon} {R : ByteArray → ByteArray → Prop} {s₀ : Shared} {τ : List DaemonLabel}
variable {w w' : DaemonWorld} {l : DaemonLabel} {slug : String}

/-- Only registrations have a turn. -/
theorem inTurn_of_other (hother : ∀ id job c, l = .call id job c → c.1.isUpsert = false) :
    InTurn d R slug w l := by
  rintro id params auth body record ans rfl
  cases hother _ _ _ rfl

theorem SlugTracked.initial (hR : ∀ contents, R contents contents) (hmatched : Matched d s₀)
    (slug : String) : SlugTracked d R s₀ [] (World.initial s₀) slug := by
  intro p hp
  obtain ⟨hordinary, contents, hfile, hsize⟩ := hmatched slug p hp
  exact ⟨hordinary, contents, contents, ⟨hp, hfile⟩, hsize, hfile, Or.inl (hR contents)⟩

/-- What is enough to keep track of a product that is not registered anew. -/
theorem Tracked.keep {τ' : List DaemonLabel} {p : ProductRecord}
    (h : Tracked d R s₀ τ w slug p) (hsame : registrant slug τ' = registrant slug τ)
    (hfile : w'.shared.files (d.artifactFile slug p.format) =
      w.shared.files (d.artifactFile slug p.format))
    (hwaits : ∀ id contents, Awaiting w id slug p.format contents →
      Awaiting w' id slug p.format contents) : Tracked d R s₀ τ' w' slug p := by
  obtain ⟨hordinary, supplied, contents, hsupplied, hsize, hheld, hwhose⟩ := h
  refine ⟨hordinary, supplied, contents, hsupplied.congr hsame, hsize, hfile.trans hheld, ?_⟩
  apply hwhose.imp_right
  rintro ⟨id, hawaiting⟩
  exact ⟨id, hwaits id contents hawaiting⟩

theorem sizeBytes_upload {params : Gate.UploadParams} {body : ByteArray}
    (hlimit : body.size ≤ bodyLimit) :
    (Gate.uploadRecord slug params body).sizeBytes.toNat = body.size := by
  unfold bodyLimit at hlimit
  simp only [Gate.uploadRecord, UInt64.toNat_ofNat']
  omega

/-- A body that is written or registered is one that the router has let through. -/
theorem DaemonRun.within_limit (hrun : DaemonRun d s₀ τ w) (hsmooth : ∀ l ∈ τ, Smooth l)
    {id : Nat} {params : Gate.UploadParams} {auth : Option String} {body : ByteArray}
    {h : List DaemonCall} {q : Handler Response}
    (hthread : w.threads id = some ⟨.putProduct slug params auth body, h, q⟩) :
    body.size ≤ bodyLimit :=
  hsmooth _ (hrun.traced _ _ hthread).started

theorem SlugTracked.wrote (hrun : DaemonRun d s₀ τ w) (h : SlugTracked d R s₀ τ w slug) {id : Nat}
    {slug' : String} {params : Gate.UploadParams} {auth : Option String} {body : ByteArray}
    (hs : Step (system d) w (.call id (.putProduct slug' params auth body)
      ⟨.writeFile (d.artifactFile slug' params.format) body, .ok ()⟩) w')
    (hslug : validSlug slug' = true) (hstore : w'.shared.store = w.shared.store)
    (hfiles : w'.shared.files = w.shared.files.write (d.artifactFile slug' params.format) body)
    (hawaiting : Awaiting w' id slug' params.format body) :
    SlugTracked d R s₀ (τ ++ [.call id (.putProduct slug' params auth body)
      ⟨.writeFile (d.artifactFile slug' params.format) body, .ok ()⟩]) w' slug := by
  intro p hp
  rw [hstore] at hp
  have htracked := h p hp
  have hsame : registrant slug (τ ++ [.call id (.putProduct slug' params auth body)
      ⟨.writeFile (d.artifactFile slug' params.format) body, .ok ()⟩]) = registrant slug τ := by
    apply registrant_other
    intro id' job c hc
    cases hc
    rfl
  by_cases hpath : d.artifactFile slug p.format = d.artifactFile slug' params.format
  · -- the file now holds the body of the upload that has just written it
    obtain ⟨hordinary, supplied, -, hsupplied, hsize, -⟩ := htracked
    obtain ⟨rfl, hformat⟩ :=
      artifact_path_inj hordinary.validSlug hslug hordinary.validFormat hpath
    refine ⟨hordinary, supplied, body, hsupplied.congr hsame, hsize, ?_, Or.inr ⟨id, ?_⟩⟩
    · rw [hfiles, hpath]
      exact Files.write_same _ _ _
    · rw [hformat]
      exact hawaiting
  · refine htracked.keep hsame ?_ ?_
    · rw [hfiles]
      exact Files.write_other hpath
    · intro id' contents hwaits
      refine hwaits.step hrun hs (by simp) ?_
      intro job c hc
      cases hc
      rfl

theorem SlugTracked.registered (hrun : DaemonRun d s₀ τ w) (hsmooth : ∀ l ∈ τ, Smooth l)
    (h : SlugTracked d R s₀ τ w slug) {id : Nat} {slug' : String} {params : Gate.UploadParams}
    {auth : Option String} {body : ByteArray}
    (hturn : InTurn d R slug w (.call id (.putProduct slug' params auth body)
      ⟨.upsertProduct (Gate.uploadRecord slug' params body), some (.ok ())⟩))
    (hs : Step (system d) w (.call id (.putProduct slug' params auth body)
      ⟨.upsertProduct (Gate.uploadRecord slug' params body), some (.ok ())⟩) w')
    (hslug : validSlug slug' = true) (hformat : validFormat params.format = true)
    (hproducts : w'.shared.store.state.products =
      w.shared.store.state.products.insert slug' (Gate.uploadRecord slug' params body))
    (hfiles : ∀ path, path ≠ joinPath d.productsDir "index.json" →
      path ≠ joinPath d.productsDir "index.json.tmp" →
        w'.shared.files path = w.shared.files path) :
    SlugTracked d R s₀ (τ ++ [.call id (.putProduct slug' params auth body)
      ⟨.upsertProduct (Gate.uploadRecord slug' params body), some (.ok ())⟩]) w' slug := by
  -- another upload that waits goes on waiting
  have hwaits : ∀ id' format contents, id' ≠ id → Awaiting w id' slug format contents →
      Awaiting w' id' slug format contents := by
    intro id' format contents hne hawaiting
    refine hawaiting.step hrun hs (by simp) ?_
    intro job c hc
    cases hc
    exact absurd rfl hne
  obtain ⟨hist, k, hthread⟩ := hs.caller
  intro p hp
  unfold Store.getProduct at hp
  rw [hproducts] at hp
  by_cases hkey : slug = slug'
  · subst hkey
    rw [Finmap.lookup_insert] at hp
    obtain rfl := Option.some.inj hp
    obtain ⟨contents, hheld, hwhose⟩ := hturn id params auth body _ _ rfl
    obtain ⟨hindex, htmp⟩ := artifactFile_ne_index (d := d) hslug hformat
    refine ⟨⟨hslug, hformat, rfl⟩, body, contents, ?_,
      sizeBytes_upload (hrun.within_limit hsmooth hthread), (hfiles _ hindex htmp).trans hheld, ?_⟩
    · unfold Supplied
      rw [registrant_upsert]
      simp only [Gate.uploadRecord, if_true]
      exact ⟨params, auth, rfl, rfl⟩
    · apply hwhose.imp_right
      rintro ⟨id', hne, hawaiting⟩
      exact ⟨id', hwaits id' _ _ hne hawaiting⟩
  · rw [Finmap.lookup_insert_of_ne _ hkey] at hp
    have htracked := h p hp
    obtain ⟨hindex, htmp⟩ := artifactFile_ne_index (d := d) htracked.1.validSlug
      htracked.1.validFormat
    refine htracked.keep ?_ (hfiles _ hindex htmp) ?_
    · rw [registrant_upsert]
      exact if_neg fun heq => hkey heq.symm
    · intro id' contents hawaiting
      refine hwaits id' _ _ ?_ hawaiting
      rintro rfl
      -- that upload is one of another slug
      obtain ⟨params', auth', h', k', -, hthread'⟩ := hawaiting
      cases hthread.symm.trans hthread'
      exact hkey rfl

theorem SlugTracked.step (hopened : Opened d s₀) (hrun : DaemonRun d s₀ τ w)
    (hsmooth : ∀ l ∈ τ, Smooth l) (h : SlugTracked d R s₀ τ w slug) (hturn : InTurn d R slug w l)
    (hs : Step (system d) w l w') (hl : Smooth l) : SlugTracked d R s₀ (τ ++ [l]) w' slug := by
  cases hrun.catalogStep hopened hs hl with
  | same catalog other =>
    intro p hp
    unfold Store.getProduct at hp
    rw [catalog.products] at hp
    have htracked := h p hp
    obtain ⟨hindex, htmp⟩ := artifactFile_ne_index (d := d) htracked.1.validSlug
      htracked.1.validFormat
    refine htracked.keep ?_ (catalog.files _ hindex htmp) ?_
    · exact registrant_other fun id job c hc => (other id job c hc).2
    · intro id contents hawaiting
      have hrestart : l ≠ .restart := by
        rintro rfl
        exact hl
      exact hawaiting.step hrun hs hrestart fun job c hc => (other id job c hc).2
  | wrote id slug' params auth body label hslug hformat store files awaiting =>
    subst label
    exact h.wrote hrun hs hslug store files awaiting
  | registered id slug' params auth body label hslug hformat products files =>
    subst label
    exact h.registered hrun hsmooth hturn hs hslug hformat products files

theorem slugTracked_of_run (hopened : Opened d s₀) (hmatched : Matched d s₀)
    (hR : ∀ contents, R contents contents) (hsmooth : ∀ l ∈ τ, Smooth l)
    (hrun : RunWith (system d) (InTurn d R slug) (World.initial s₀) τ w) :
    SlugTracked d R s₀ τ w slug := by
  revert hsmooth
  refine RunWith.induct (I := fun τ w => (∀ l ∈ τ, Smooth l) → SlugTracked d R s₀ τ w slug)
    (fun _ => .initial hR hmatched slug) (fun {τ w l w'} hr ih hturn hs hsmooth => ?_) hrun
  have hbefore : ∀ l ∈ τ, Smooth l := fun l hl => hsmooth l (List.mem_append_left _ hl)
  exact (ih hbefore).step hopened hr hbefore hturn hs (hsmooth l List.mem_concat_self)

/-! ### The result -/

/-- If no upload is between its two effects, each product's file is in the products
    directory, has the registered size and holds the body of the request that supplied the
    record. -/
def InStep (d : Daemon) (s₀ : Shared) (τ : List DaemonLabel) (w : DaemonWorld) : Prop :=
  (∀ id slug format body, ¬ Awaiting w id slug format body) →
    ∀ slug p, w.shared.store.getProduct slug = some p →
      ∃ contents, w.shared.files (joinPath d.productsDir p.fileName) = some contents ∧
        contents.size = p.sizeBytes.toNat ∧ Supplied d s₀ τ slug p contents

/-- Registry and artifacts stay in step in every run in which each upload registers while
    its file still holds its body, or holds that of an upload that is to register after
    it. -/
theorem registry_in_step (hopened : Opened d s₀) (hmatched : Matched d s₀)
    (hsmooth : ∀ l ∈ τ, Smooth l)
    (hrun : RunWith (system d) (fun w l => ∀ slug, InTurn d (· = ·) slug w l) (World.initial s₀)
      τ w) : InStep d s₀ τ w := by
  intro hquiet slug p hp
  have hturns : RunWith (system d) (InTurn d (· = ·) slug) (World.initial s₀) τ w :=
    hrun.mono fun _ _ hturn => hturn slug
  obtain ⟨hordinary, supplied, contents, hsupplied, hsize, hfile, hwhose⟩ :=
    slugTracked_of_run hopened hmatched (fun _ => rfl) hsmooth hturns p hp
  rcases hwhose with rfl | ⟨id, hawaiting⟩
  · rw [hordinary.fileName]
    exact ⟨contents, hfile, hsize.symm, hsupplied⟩
  · exact absurd hawaiting (hquiet id slug p.format contents)

end Runs

/-! ### Two masters of one track -/

namespace Sample

def remasterEvent : Event where
  id := ⟨#[207, 204, 135, 87, 136, 100, 24, 130, 105, 128, 135, 46, 238, 110, 13, 130, 149, 23, 80,
    64, 112, 55, 4, 94, 39, 38, 227, 75, 206, 176, 250, 125]⟩
  pubkey := artistKey
  createdAt := 1700000010
  kind := 27235
  tags := [["u", "https://node.example.com/products/midnight"], ["method", "PUT"],
    ["payload", "aa4ea90164c94cbe70d227853bc2d0802d15a09fb93d66cc12401382e0c7202f"]]
  content := ""
  sig := ⟨#[101, 142, 29, 70, 238, 107, 184, 234, 59, 190, 21, 136, 164, 61, 55, 208, 71, 91, 20,
    27, 189, 217, 55, 53, 240, 217, 133, 199, 33, 161, 251, 145, 134, 190, 244, 16, 37, 118, 132,
    223, 24, 171, 249, 249, 235, 12, 199, 233, 91, 243, 58, 3, 212, 62, 249, 51, 214, 83, 127, 36,
    80, 28, 118, 164]⟩

def remasterJson : String :=
  "\x7b\"id\":\"cfcc8757886418826980872eee6e0d82951750407037045e2726e34bceb0fa7d\",\"pu" ++
  "bkey\":\"f9308a019258c31049344f85f89d5229b531c845836f99b08601f113bce036f9\",\"create" ++
  "d_at\":1700000010,\"kind\":27235,\"tags\":[[\"u\",\"https://node.example.com/product" ++
  "s/midnight\"],[\"method\",\"PUT\"],[\"payload\",\"aa4ea90164c94cbe70d227853bc2d0802d" ++
  "15a09fb93d66cc12401382e0c7202f\"]],\"content\":\"\",\"sig\":\"658e1d46ee6bb8ea3bbe15" ++
  "88a43d37d0475b141bbdd93735f0d985c721a1fb9186bef410257684df18abf9f9eb0cc7e95bf33a03d4" ++
  "3ef933d6537f24501c76a4\"\x7d"

def remasterBase64 : String :=
  "eyJp" ++ ("ZCI6ImNmY2M4NzU3ODg2NDE4ODI2OTgwODcyZWVlNmUwZDgyOTUxNzUwNDA3MDM3MDQ1ZTI3MjZlMzRiY2Vi" ++
  "MGZhN2QiLCJwdWJrZXkiOiJmOTMwOGEwMTkyNThjMzEwNDkzNDRmODVmODlkNTIyOWI1MzFjODQ1ODM2Zjk5" ++
  "YjA4NjAxZjExM2JjZTAzNmY5IiwiY3JlYXRlZF9hdCI6MTcwMDAwMDAxMCwia2luZCI6MjcyMzUsInRhZ3Mi" ++
  "OltbInUiLCJodHRwczovL25vZGUuZXhhbXBsZS5jb20vcHJvZHVjdHMvbWlkbmlnaHQiXSxbIm1ldGhvZCIs" ++
  "IlBVVCJdLFsicGF5bG9hZCIsImFhNGVhOTAxNjRjOTRjYmU3MGQyMjc4NTNiYzJkMDgwMmQxNWEwOWZiOTNk" ++
  "NjZjYzEyNDAxMzgyZTBjNzIwMmYiXV0sImNvbnRlbnQiOiIiLCJzaWciOiI2NThlMWQ0NmVlNmJiOGVhM2Ji" ++
  "ZTE1ODhhNDNkMzdkMDQ3NWIxNDFiYmRkOTM3MzVmMGQ5ODVjNzIxYTFmYjkxODZiZWY0MTAyNTc2ODRkZjE4" ++
  "YWJmOWY5ZWIwY2M3ZTk1YmYzM2EwM2Q0M2VmOTMzZDY1MzdmMjQ1MDFjNzZh" ++
  "NCJ9")

def remaster : SignedHeader := ⟨remasterBase64, remasterJson, remasterEvent⟩

/-- A longer master of the same track. -/
def remasterBody : ByteArray := ⟨#[102, 76, 97, 67, 0, 0, 0, 34]⟩

/-- SHA-256 of the longer master. -/
def remasterHash : ByteArray :=
  ⟨#[170, 78, 169, 1, 100, 201, 76, 190, 112, 210, 39, 133, 59, 194, 208, 128, 45, 21, 160, 159,
    185, 61, 102, 204, 18, 64, 19, 130, 224, 199, 32, 47]⟩

def remastered : ProductRecord := { midnight with sizeBytes := 8 }

/-- The index with the longer master. -/
def remasteredText (purchases : String) : String :=
  "\x7b\n  \"products\": \x7b\n    \"midnight\": \x7b\n      \"slug\": \"midnight\",\n" ++
  "      \"title\": \"Midnight\",\n      \"price_sats\": 5000,\n" ++
  "      \"floor_sats\": null,\n      \"format\": \"flac\",\n" ++
  "      \"file_name\": \"midnight.flac\",\n      \"size_bytes\": 8\n    \x7d\n  \x7d,\n" ++
  "  \"purchases\": " ++ purchases ++ "\n\x7d"

def studioJson : SerdeJson :=
  .ofTable [(settled, indexText (saleText "true")), (listed, indexText "\x7b\x7d"),
    (sold, indexText (saleText "false")),
    ((default : Persisted).upsertProduct remastered, remasteredText "\x7b\x7d"),
    (settled.upsertProduct remastered, remasteredText (saleText "true"))]

/-- The daemon of an artist who uploads both masters. -/
def studio : Daemon := pairDaemon remaster studioJson remasterBody remasterHash

theorem uploadBase64_ne : uploadBase64 ≠ remasterBase64 := by
  unfold uploadBase64 remasterBase64
  rw [Ne, String.append_right_inj]
  repeat rw [String.append_assoc]
  apply append_ne_append
  · decide
  · decide

theorem uploadJson_ne : uploadJson ≠ remasterJson := by
  unfold uploadJson remasterJson
  repeat rw [String.append_assoc]
  apply append_ne_append
  · decide
  · decide

theorem trim_remaster : trim remaster.base64 = remaster.base64 := by
  have hhead : remaster.base64.toList.head? = some 'e' := by
    simp only [remaster, remasterBase64, String.toList_append]
    rfl
  have hlast : remaster.base64.toList.getLast? = some '9' := by
    simp only [remaster, remasterBase64, String.toList_append, List.getLast?_append]
    rfl
  exact trim_eq_self hhead hlast (by decide) (by decide)

theorem studio_authorizes_upload :
    UploadAuthorized studio ("Nostr " ++ uploadBase64) "midnight" body 1700000030 :=
  pair_authorizes_upload uploadBase64_ne uploadJson_ne (by decide)

theorem studio_authorizes_remaster :
    UploadAuthorized studio ("Nostr " ++ remasterBase64) "midnight" remasterBody 1700000030 := by
  have hurl : Nip98.tagValue remasterEvent "u" =
      some (Gate.uploadUrl (daemon upload).gateState "midnight") := by decide
  have hpayload : Nip98.tagValue remasterEvent "payload" = some (Hex.encode remasterHash) := by
    decide
  have hauthorized : UploadAuthorized studio ("Nostr " ++ remaster.base64) "midnight" remasterBody
      1700000030 :=
    pair_authorizes_second trim_remaster (by decide) (by decide) rfl hurl (by decide) (by decide)
      hpayload rfl
  exact hauthorized

def remasterUpload : Job :=
  .putProduct "midnight" ⟨"Midnight", 5000, none, "flac"⟩ (some ("Nostr " ++ remasterBase64))
    remasterBody

/-- An authorized upload of the track comes to the write of its file. -/
theorem studio_reaches {header : String} {bytes : ByteArray}
    (h : UploadAuthorized studio header "midnight" bytes 1700000030) (l : Locked)
    (hdir : l.store.dir = dir) :
    Reaches ((system studio).program
        (.putProduct "midnight" ⟨"Midnight", 5000, none, "flac"⟩ (some header) bytes))
      [⟨.nowSecs, 1700000030⟩, ⟨.lock, some l⟩]
      (.call (.writeFile "/data/products/midnight.flac" bytes)
        (registerUpload "midnight" ⟨"Midnight", 5000, none, "flac"⟩ bytes)) := by
  have hreaches := h.reaches ⟨"Midnight", 5000, none, "flac"⟩ rfl (by decide) l
  have hname : Gate.fileNameOf "midnight" "flac" = "midnight.flac" := rfl
  rw [hname, hdir, joinPath_midnight] at hreaches
  exact hreaches

/-- As long as nothing is registered, the checks of an upload can run. -/
theorem studio_checked {s : Shared} (hstore : s.store = ⟨dir, default⟩)
    (hhealthy : s.poisoned = false) : Performs (system studio) s checkedCalls s := by
  have hlock : act studio s .lock (some blankLocked) s :=
    act_lock_healthy hhealthy hstore.symm
  exact ⟨s, rfl, s, hlock, rfl⟩

def firstWrite : DaemonCall := ⟨.writeFile "/data/products/midnight.flac" body, .ok ()⟩

def secondWrite : DaemonCall := ⟨.writeFile "/data/products/midnight.flac" remasterBody, .ok ()⟩

def firstUpsert : DaemonCall := ⟨.upsertProduct midnight, some (.ok ())⟩

def secondUpsert : DaemonCall := ⟨.upsertProduct remastered, some (.ok ())⟩

def firstCalls : List DaemonLabel := (checkedCalls ++ [firstWrite]).map (.call 0 firstUpload)

def secondCalls : List DaemonLabel :=
  (checkedCalls ++ [secondWrite] ++ [secondUpsert]).map (.call 1 remasterUpload)

def lastCalls : List DaemonLabel :=
  [.call 0 firstUpload firstUpsert, .answer 1 remasterUpload (.productCreated "midnight"),
    .answer 0 firstUpload (.productCreated "midnight")]

/-- Both uploads write, the second one registers, and then the first one does. -/
def overlapTrace : List DaemonLabel :=
  .start 0 firstUpload :: .start 1 remasterUpload :: (firstCalls ++ secondCalls ++ lastCalls)

/-- Both masters have been written. -/
def bothWritten : Shared :=
  { afterWrite with files := afterWrite.files.write "/data/products/midnight.flac" remasterBody }

/-- The second master has been registered. -/
def secondRegistered : Shared := bothWritten.mutate studioJson (.upsertProduct remastered) ⟨0, none⟩

/-- The first master has been registered after it. -/
def bothRegistered : Shared := secondRegistered.mutate studioJson (.upsertProduct midnight) ⟨0, none⟩

theorem secondRegistered_act :
    act studio bothWritten (.upsertProduct remastered) (some (.ok ())) secondRegistered :=
  Or.inr ⟨rfl, ⟨0, none⟩, rfl, rfl⟩

theorem bothRegistered_act :
    act studio secondRegistered (.upsertProduct midnight) (some (.ok ())) bothRegistered :=
  Or.inr ⟨rfl, ⟨0, none⟩, rfl, rfl⟩

/-- The uploads up to their writes, the first one first. -/
def writtenTrace : List DaemonLabel :=
  .start 0 firstUpload :: .start 1 remasterUpload ::
    (firstCalls ++ (checkedCalls ++ [secondWrite]).map (.call 1 remasterUpload))

theorem written_run : ∃ w, DaemonRun studio blank writtenTrace w ∧ w.shared = bothWritten ∧
    w.next = 2 ∧
    w.threads 0 = some ⟨firstUpload, checkedCalls ++ [firstWrite],
      registerUpload "midnight" ⟨"Midnight", 5000, none, "flac"⟩ body (.ok ())⟩ ∧
    w.threads 1 = some ⟨remasterUpload, checkedCalls ++ [secondWrite],
      registerUpload "midnight" ⟨"Midnight", 5000, none, "flac"⟩ remasterBody (.ok ())⟩ := by
  have hinitial : DaemonRun studio blank [] (World.initial blank) := .refl
  obtain ⟨w₁, hrun₁, hshared₁, hnext₁, hfirst₁, -⟩ := hinitial.begin firstUpload
  obtain ⟨w₂, hrun₂, hshared₂, hnext₂, hsecond₂, hothers₂⟩ := hrun₁.begin remasterUpload
  have hnext : w₁.next = 1 := hnext₁
  rw [hnext] at hrun₂ hsecond₂ hothers₂ hnext₂
  have hfirst₂ : w₂.threads 0 = some ⟨firstUpload, [], (system studio).program firstUpload⟩ :=
    (hothers₂ 0 (by decide)).trans hfirst₁
  have hblank : w₂.shared = blank := hshared₂.trans hshared₁
  -- the first upload writes
  have hwrite₁ : Performs (system studio) w₂.shared (checkedCalls ++ [firstWrite]) afterWrite := by
    rw [hblank]
    exact performs_append.mpr ⟨blank, studio_checked rfl rfl, afterWrite, Or.inl ⟨rfl, rfl⟩, rfl⟩
  have hreach₁ := (studio_reaches studio_authorizes_upload blankLocked rfl).step
    (.ok () : Except String Unit)
  obtain ⟨w₃, hrun₃, hshared₃, hnext₃, hfirst₃, hothers₃⟩ :=
    hrun₂.advance hfirst₂ hreach₁ hwrite₁
  -- the second upload writes
  have hsecond₃ := (hothers₃ 1 (by decide)).trans hsecond₂
  have hwrite₂ : Performs (system studio) w₃.shared (checkedCalls ++ [secondWrite])
      bothWritten := by
    rw [hshared₃]
    exact performs_append.mpr
      ⟨afterWrite, studio_checked rfl rfl, bothWritten, Or.inl ⟨rfl, rfl⟩, rfl⟩
  have hreach₂ := (studio_reaches studio_authorizes_remaster blankLocked rfl).step
    (.ok () : Except String Unit)
  obtain ⟨w₄, hrun₄, hshared₄, hnext₄, hsecond₄, hothers₄⟩ :=
    hrun₃.advance hsecond₃ hreach₂ hwrite₂
  have hfirst₄ := (hothers₄ 0 (by decide)).trans hfirst₃
  exact ⟨w₄, hrun₄, hshared₄, hnext₄.trans (hnext₃.trans hnext₂), hfirst₄, hsecond₄⟩

/-- Both uploads answer, and no thread is left. -/
theorem uploads_answered {τ : List DaemonLabel} {w : DaemonWorld} {h₀ h₁ : List DaemonCall}
    {a₀ a₁ : Response} (hrun : DaemonRun studio blank τ w) (hnext : w.next = 2)
    (hfirst : w.threads 0 = some ⟨firstUpload, h₀, .done a₀⟩)
    (hsecond : w.threads 1 = some ⟨remasterUpload, h₁, .done a₁⟩) :
    ∃ w', Run (system studio) w [.answer 1 remasterUpload a₁, .answer 0 firstUpload a₀] w' ∧
      w'.shared = w.shared ∧ ∀ id, w'.threads id = none := by
  have hhere : Run (system studio) w [] w := .refl
  obtain ⟨w₁, hrun₁, hshared₁, hnext₁, hsecond₁, hothers₁⟩ := hhere.finish hsecond
  have hfirst₁ := (hothers₁ 0 (by decide)).trans hfirst
  obtain ⟨w₂, hrun₂, hshared₂, hnext₂, hfirst₂, hothers₂⟩ := hrun₁.finish hfirst₁
  refine ⟨w₂, hrun₂, hshared₂.trans hshared₁, ?_⟩
  intro id
  by_cases hzero : id = 0
  · rw [hzero]
    exact hfirst₂
  by_cases hone : id = 1
  · rw [hone]
    exact (hothers₂ 1 (by decide)).trans hsecond₁
  rcases hthread : w₂.threads id with _ | t
  · rfl
  · have hlt := (hrun.trans hrun₂).call_lt.1 id t hthread
    omega

theorem overlap_run : ∃ w, DaemonRun studio blank overlapTrace w ∧ w.shared = bothRegistered ∧
    ∀ id, w.threads id = none := by
  obtain ⟨w, hrun, hshared, hnext, hfirst, hsecond⟩ := written_run
  -- the second upload registers
  have hregister₁ : Performs (system studio) w.shared [secondUpsert] secondRegistered := by
    rw [hshared]
    exact ⟨secondRegistered, secondRegistered_act, rfl⟩
  obtain ⟨w₁, hrun₁, hshared₁, hnext₁, hsecond₁, hothers₁⟩ := hrun.advance hsecond
    (registerUpload_reaches "midnight" ⟨"Midnight", 5000, none, "flac"⟩ remasterBody) hregister₁
  -- the first upload registers
  have hfirst₁ := (hothers₁ 0 (by decide)).trans hfirst
  have hregister₂ : Performs (system studio) w₁.shared [firstUpsert] bothRegistered := by
    rw [hshared₁]
    exact ⟨bothRegistered, bothRegistered_act, rfl⟩
  obtain ⟨w₂, hrun₂, hshared₂, hnext₂, hfirst₂, hothers₂⟩ := hrun₁.advance hfirst₁
    (registerUpload_reaches "midnight" ⟨"Midnight", 5000, none, "flac"⟩ body) hregister₂
  have hsecond₂ := (hothers₂ 1 (by decide)).trans hsecond₁
  obtain ⟨w₃, hrun₃, hshared₃, hthreads⟩ :=
    uploads_answered hrun₂ (hnext₂.trans (hnext₁.trans hnext)) hfirst₂ hsecond₂
  exact ⟨w₃, hrun₂.trans hrun₃, hshared₃.trans hshared₂, hthreads⟩

/-- An empty registry matches its files. -/
theorem matched_blank (d : Daemon) : Matched d blank := by
  intro slug p hp
  cases hp

theorem bothWritten_file :
    bothWritten.files "/data/products/midnight.flac" = some remasterBody :=
  Files.write_same afterWrite.files "/data/products/midnight.flac" remasterBody

/-- Registering leaves the second master in its file. -/
theorem registered_file (m : Mutation) :
    (bothWritten.mutate studioJson m ⟨0, none⟩).files "/data/products/midnight.flac" =
      some remasterBody :=
  (mutate_artifact rfl studioJson m).trans bothWritten_file

theorem registeredTwice_file (m m' : Mutation) :
    ((bothWritten.mutate studioJson m ⟨0, none⟩).mutate studioJson m' ⟨0, none⟩).files
      "/data/products/midnight.flac" = some remasterBody :=
  (mutate_artifact (m.run_dir studioJson _ _ _) studioJson m').trans (registered_file m)

theorem writtenTrace_labels : ∀ l ∈ writtenTrace,
    Smooth l ∧ ∀ id job c, l = .call id job c → c.1.isUpsert = false := by
  intro l hl
  simp only [writtenTrace, firstCalls, checkedCalls, List.cons_append, List.nil_append,
    List.map_cons, List.map_nil, List.mem_cons, List.not_mem_nil, or_false] at hl
  rcases hl with rfl | rfl | rfl | rfl | rfl | rfl | rfl | rfl
  · exact ⟨(show body.size ≤ bodyLimit by decide), by intro id job c hc; cases hc⟩
  · exact ⟨(show remasterBody.size ≤ bodyLimit by decide), by intro id job c hc; cases hc⟩
  · exact ⟨trivial, by intro id job c hc; cases hc; rfl⟩
  · exact ⟨trivial, by intro id job c hc; cases hc; rfl⟩
  · exact ⟨rfl, by intro id job c hc; cases hc; rfl⟩
  · exact ⟨trivial, by intro id job c hc; cases hc; rfl⟩
  · exact ⟨trivial, by intro id job c hc; cases hc; rfl⟩
  · exact ⟨rfl, by intro id job c hc; cases hc; rfl⟩

/-- Whichever upload registers first, nothing fails. -/
theorem registering_smooth {τ : List DaemonLabel}
    (hτ : τ ⊆ [.call 0 firstUpload firstUpsert, .call 1 remasterUpload secondUpsert,
      .answer 1 remasterUpload (.productCreated "midnight"),
      .answer 0 firstUpload (.productCreated "midnight")]) :
    ∀ l ∈ writtenTrace ++ τ, Smooth l := by
  intro l hl
  rcases List.mem_append.mp hl with hl | hl
  · exact (writtenTrace_labels l hl).1
  · have hmem := hτ hl
    simp only [List.mem_cons, List.not_mem_nil, or_false] at hmem
    rcases hmem with rfl | rfl | rfl | rfl
    · rfl
    · rfl
    · trivial
    · trivial

theorem overlap_smooth : ∀ l ∈ overlapTrace, Smooth l := by
  have hsplit : overlapTrace = writtenTrace ++ [.call 1 remasterUpload secondUpsert,
      .call 0 firstUpload firstUpsert, .answer 1 remasterUpload (.productCreated "midnight"),
      .answer 0 firstUpload (.productCreated "midnight")] := rfl
  rw [hsplit]
  exact registering_smooth (by simp)

/-- The first master has been registered, and the file already holds the second one. -/
def firstRegistered : Shared := bothWritten.mutate studioJson (.upsertProduct midnight) ⟨0, none⟩

/-- The second master has been registered after it. -/
def turnsRegistered : Shared :=
  firstRegistered.mutate studioJson (.upsertProduct remastered) ⟨0, none⟩

/-- Both uploads write, and then they register in the same order. -/
def turnsTrace : List DaemonLabel :=
  writtenTrace ++ [.call 0 firstUpload firstUpsert, .call 1 remasterUpload secondUpsert,
    .answer 1 remasterUpload (.productCreated "midnight"),
    .answer 0 firstUpload (.productCreated "midnight")]

theorem turns_smooth : ∀ l ∈ turnsTrace, Smooth l := registering_smooth (by simp)

/-- Each of the two uploads registers in its turn. -/
theorem turns_run : ∃ w, RunWith (system studio)
      (fun w l => ∀ slug, InTurn studio (· = ·) slug w l) (World.initial blank) turnsTrace w ∧
    w.shared = turnsRegistered ∧ ∀ id, w.threads id = none := by
  obtain ⟨w, hrun, hshared, hnext, hfirst, hsecond⟩ := written_run
  have hwritten := RunWith.of_run (C := fun w l => ∀ slug, InTurn studio (· = ·) slug w l) hrun
    fun _ _ hpre _ => inTurn_of_other (writtenTrace_labels _ (hpre.subset List.mem_concat_self)).2
  have hpath : studio.artifactFile "midnight" "flac" = "/data/products/midnight.flac" := by decide
  -- the first upload registers while its file holds the body of the second one
  have hfirstTurn : ∀ slug, InTurn studio (· = ·) slug w (.call 0 firstUpload firstUpsert) := by
    intro slug id params auth bytes record ans hlabel
    cases hlabel
    refine ⟨remasterBody, ?_, Or.inr ⟨1, by decide, ⟨"Midnight", 5000, none, "flac"⟩, _, _, _, rfl,
      hsecond⟩⟩
    rw [hpath, hshared]
    exact bothWritten_file
  have hact₁ : act studio w.shared (.upsertProduct midnight) (some (.ok ())) firstRegistered := by
    rw [hshared]
    exact Or.inr ⟨rfl, ⟨0, none⟩, rfl, rfl⟩
  obtain ⟨w₁, hrun₁, hshared₁, hnext₁, hfirst₁, hothers₁⟩ := hwritten.call hfirst hfirstTurn hact₁
  have hsecond₁ := (hothers₁ 1 (by decide)).trans hsecond
  -- the second upload registers what its file holds
  have hsecondTurn : ∀ slug,
      InTurn studio (· = ·) slug w₁ (.call 1 remasterUpload secondUpsert) := by
    intro slug id params auth bytes record ans hlabel
    cases hlabel
    refine ⟨remasterBody, ?_, Or.inl rfl⟩
    rw [hpath, hshared₁]
    exact registered_file _
  have hact₂ : act studio w₁.shared (.upsertProduct remastered) (some (.ok ()))
      turnsRegistered := by
    rw [hshared₁]
    exact Or.inr ⟨rfl, ⟨0, none⟩, rfl, rfl⟩
  obtain ⟨w₂, hrun₂, hshared₂, hnext₂, hsecond₂, hothers₂⟩ :=
    hrun₁.call hsecond₁ hsecondTurn hact₂
  have hfirst₂ := (hothers₂ 0 (by decide)).trans hfirst₁
  -- both are answered
  obtain ⟨w₃, hrun₃, hshared₃, hthreads⟩ :=
    uploads_answered hrun₂.run (hnext₂.trans (hnext₁.trans hnext)) hfirst₂ hsecond₂
  have hanswered := RunWith.of_run (C := fun w l => ∀ slug, InTurn studio (· = ·) slug w l) hrun₃
    fun _ _ hpre slug => inTurn_of_other (by
      intro id job c hc
      have hmem := hpre.subset List.mem_concat_self
      rw [hc] at hmem
      simp at hmem)
  exact ⟨w₃, hrun₂.trans hanswered, hshared₃.trans hshared₂, hthreads⟩

end Sample

/-- Both masters are uploaded at once and registered in the order in which they were
    written: the first one while its file already holds the second one. -/
theorem registry_in_step_midnight : ∃ w, (∀ id, w.threads id = none) ∧
    w.shared.store.getProduct "midnight" = some Sample.remastered ∧
    w.shared.files "/data/products/midnight.flac" = some Sample.remasterBody ∧
    InStep Sample.studio Sample.blank Sample.turnsTrace w := by
  obtain ⟨w, hrun, hshared, hthreads⟩ := Sample.turns_run
  refine ⟨w, hthreads, ?_, ?_, registry_in_step (Sample.opened_empty rfl)
    (Sample.matched_blank _) Sample.turns_smooth hrun⟩
  · rw [hshared]
    rfl
  · rw [hshared]
    exact Sample.registeredTwice_file _ _

/-- Both uploads are accepted and nothing fails; afterwards the record is that of the first
    and the file is that of the second. -/
theorem overlap_out_of_step : ∃ w, Opened Sample.studio Sample.blank ∧
    DaemonRun Sample.studio Sample.blank Sample.overlapTrace w ∧
    Matched Sample.studio Sample.blank ∧ (∀ l ∈ Sample.overlapTrace, Smooth l) ∧
    .answer 0 Sample.firstUpload (.productCreated "midnight") ∈ Sample.overlapTrace ∧
    .answer 1 Sample.remasterUpload (.productCreated "midnight") ∈ Sample.overlapTrace ∧
    (∀ id, w.threads id = none) ∧
    w.shared.store.getProduct "midnight" = some Sample.midnight ∧
    w.shared.files "/data/products/midnight.flac" = some Sample.remasterBody ∧
    ¬ InStep Sample.studio Sample.blank Sample.overlapTrace w := by
  obtain ⟨w, hrun, hshared, hthreads⟩ := Sample.overlap_run
  have hproduct : w.shared.store.getProduct "midnight" = some Sample.midnight := by
    rw [hshared]
    rfl
  have hfile : w.shared.files "/data/products/midnight.flac" = some Sample.remasterBody := by
    rw [hshared]
    exact Sample.registeredTwice_file _ _
  refine ⟨w, Sample.opened_empty rfl, hrun, Sample.matched_blank _, Sample.overlap_smooth,
    by simp [Sample.overlapTrace, Sample.lastCalls],
    by simp [Sample.overlapTrace, Sample.lastCalls], hthreads, hproduct, hfile, ?_⟩
  intro hinstep
  have hquiet : ∀ id slug format body, ¬ Awaiting w id slug format body := by
    rintro id slug format body ⟨params, auth, h, k, -, hthread⟩
    cases (hthreads id).symm.trans hthread
  obtain ⟨contents, hcontents, hsize, -⟩ := hinstep hquiet "midnight" Sample.midnight hproduct
  have hpath : joinPath Sample.studio.productsDir "midnight.flac" =
      "/data/products/midnight.flac" := by decide
  rw [show Sample.midnight.fileName = "midnight.flac" from rfl, hpath, hfile] at hcontents
  obtain rfl := Option.some.inj hcontents
  exact absurd hsize (by decide)

end ArtistNode
