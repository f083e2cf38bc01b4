import ArtistNode.FailedUpload

/-!
# Whose bytes a download opens

An artifact's file is written in place, by uploads that overlap, fail part-way or are cut
off by a restart, and a download opens it without a lock. What the file holds when it is
opened is in each case what the artist has signed for this track, or the beginning of it.
Each write is one step here, and what is written to the file after the opening, while the
download is being streamed, is not followed.
-/

namespace ArtistNode

open Base

/-- What writing a body leaves in the file: the body, or its beginning where the write
    fails. -/
def Leaves (body contents : ByteArray) : Except String Unit → Prop
  | .ok () => contents = body
  | .error _ => ∃ written, contents = body.extract 0 written

/-- The bytes were left in the artifact's file by an upload of a body that the artist has
    signed for this slug. -/
def SignedBytes (d : Daemon) (τ : List DaemonLabel) (slug format : String)
    (contents : ByteArray) : Prop :=
  ∃ id params header body now ans, params.format = format ∧
    UploadAuthorized d header slug body now ∧
    .call id (.putProduct slug params (some header) body) ⟨.nowSecs, now⟩ ∈ τ ∧
    .call id (.putProduct slug params (some header) body)
      ⟨.writeFile (d.artifactFile slug format) body, ans⟩ ∈ τ ∧ Leaves body contents ans

/-- Each artifact's file holds what it held at the start, or signed bytes. -/
def Vouched (d : Daemon) (s₀ : Shared) (τ : List DaemonLabel) (s : Shared) : Prop :=
  ∀ slug format contents, validSlug slug = true → validFormat format = true →
    s.files (d.artifactFile slug format) = some contents →
      s₀.files (d.artifactFile slug format) = some contents ∨ SignedBytes d τ slug format contents

section Runs

variable {d : Daemon} {s₀ s s' : Shared} {τ τ' : List DaemonLabel} {w w' : DaemonWorld}
variable {l : DaemonLabel} {slug format : String} {contents : ByteArray}

theorem SignedBytes.mono (h : SignedBytes d τ slug format contents) (hsub : τ ⊆ τ') :
    SignedBytes d τ' slug format contents := by
  obtain ⟨id, params, header, body, now, ans, hformat, hauthorized, hnow, hwrite, hleft⟩ := h
  exact ⟨id, params, header, body, now, ans, hformat, hauthorized, hsub hnow, hsub hwrite, hleft⟩

/-- A step that leaves the artifacts alone. -/
theorem Vouched.keep (h : Vouched d s₀ τ s) (hfiles : ∀ slug format, validSlug slug = true →
      validFormat format = true →
      s'.files (d.artifactFile slug format) = s.files (d.artifactFile slug format)) :
    Vouched d s₀ (τ ++ [l]) s' := by
  intro slug format contents hslug hformat hheld
  rw [hfiles slug format hslug hformat] at hheld
  apply (h slug format contents hslug hformat hheld).imp_right
  intro hsigned
  exact hsigned.mono (List.subset_append_left _ _)

/-- An upload that has been admitted carries the artist's signature. -/
theorem Admitted.uploadAuthorized {params : Gate.UploadParams} {auth : Option String}
    {body : ByteArray} {h : List DaemonCall} (hadmitted : Admitted d slug params auth body h) :
    ∃ header now, auth = some header ∧ ⟨.nowSecs, now⟩ ∈ h ∧
      UploadAuthorized d header slug body now := by
  obtain ⟨header, key, now, event, hauth, hkey, hnow, hauthorizes⟩ := hadmitted.authorizes
  exact ⟨header, now, hauth, hnow, hadmitted.validSlug, hadmitted.notEmpty, key, event, hkey,
    hauthorizes⟩

/-- What the write of an artifact leaves is signed. -/
theorem Vouched.wrote (hopened : Opened d s₀) (hrun : DaemonRun d s₀ τ w)
    (h : Vouched d s₀ τ w.shared) {id : Nat} {job : Job} {hist : List DaemonCall} {path : String}
    {body : ByteArray} {k : Answer (.writeFile path body) → Handler Response}
    {ans : Answer (.writeFile path body)}
    (hthread : w.threads id = some ⟨job, hist, .call (.writeFile path body) k⟩)
    (hact : act d w.shared (.writeFile path body) ans s') :
    Vouched d s₀ (τ ++ [.call id job ⟨.writeFile path body, ans⟩]) s' := by
  have hpending := hrun.upload_pending hthread (Or.inl rfl)
  obtain ⟨slug', params, auth, body', rfl, hadmitted, rfl, ⟨lock, hlock, rfl⟩, -⟩ := hpending
  have htraced := hrun.traced _ _ hthread
  rw [(hrun.housed hopened).snapshots id _ lock (htraced.called _ hlock)] at hact ⊢
  obtain ⟨header, now, rfl, hnow, hauthorized⟩ := hadmitted.uploadAuthorized
  have hclock := htraced.called _ hnow
  intro slug format contents hslug hformat hheld
  have hbefore : s'.files (d.artifactFile slug format) =
      w.shared.files (d.artifactFile slug format) →
        s₀.files (d.artifactFile slug format) = some contents ∨
          SignedBytes d (τ ++ [.call id (.putProduct slug' params (some header) body)
            ⟨.writeFile (d.artifactFile slug' params.format) body, ans⟩]) slug format contents := by
    intro hsame
    apply (h slug format contents hslug hformat (hsame.symm.trans hheld)).imp_right
    intro hsigned
    exact hsigned.mono (List.subset_append_left _ _)
  by_cases hpath : d.artifactFile slug format = d.artifactFile slug' params.format
  · obtain ⟨rfl, rfl⟩ := artifact_path_inj hslug hadmitted.validSlug hformat hpath
    -- it is this file that is written
    have hsigned : Leaves body contents ans → SignedBytes d
        (τ ++ [.call id (.putProduct slug params (some header) body)
          ⟨.writeFile (d.artifactFile slug params.format) body, ans⟩]) slug params.format
        contents := by
      intro hleft
      exact ⟨id, params, header, body, now, ans, rfl, hauthorized, List.mem_append_left _ hclock,
        List.mem_concat_self, hleft⟩
    have hbytes : ∀ bytes, s'.files = w.shared.files.write (d.artifactFile slug params.format) bytes →
        contents = bytes := by
      intro bytes hfiles
      rw [hfiles, Files.write_same] at hheld
      exact (Option.some.inj hheld).symm
    rcases hact with ⟨rfl, hs'⟩ | ⟨e, rfl, hs' | ⟨written, hs'⟩⟩
    · exact Or.inr (hsigned (hbytes body (congrArg Shared.files hs')))
    · exact hbefore (by rw [hs'])
    · exact Or.inr (hsigned ⟨written, hbytes _ (congrArg Shared.files hs')⟩)
  · apply hbefore
    rcases hact with ⟨rfl, rfl⟩ | ⟨e, rfl, rfl | ⟨written, rfl⟩⟩
    · exact Files.write_other hpath
    · rfl
    · exact Files.write_other hpath

theorem Vouched.step (hopened : Opened d s₀) (hrun : DaemonRun d s₀ τ w)
    (h : Vouched d s₀ τ w.shared) (hs : Step (system d) w l w') :
    Vouched d s₀ (τ ++ [l]) w'.shared := by
  have hdir := (hrun.housed hopened).dir
  cases hs with
  | start job => exact h.keep fun _ _ _ _ => rfl
  | answer thread => exact h.keep fun _ _ _ _ => rfl
  | env act =>
    obtain ⟨-, hfiles⟩ := env_files act
    exact h.keep fun _ _ _ _ => congrFun hfiles _
  | restart act =>
    obtain ⟨store, -, rfl⟩ := act
    exact h.keep fun _ _ _ _ => rfl
  | call thread act =>
    rcases act_cases act with rfl | ⟨m, io, -, rfl⟩ | ⟨path, body, written, rfl, -⟩
    · exact h.keep fun _ _ _ _ => rfl
    · -- a mutator writes the index and its temporary file
      apply h.keep
      intro slug format hslug hformat
      obtain ⟨hindex, htmp⟩ := artifactFile_ne_index (d := d) hslug hformat
      rw [← hdir] at hindex htmp
      exact m.run_other d.lib.toSerdeJson io w.shared.store w.shared.files htmp hindex
    · exact h.wrote hopened hrun thread act

theorem DaemonRun.vouched (hopened : Opened d s₀) (hrun : DaemonRun d s₀ τ w) :
    Vouched d s₀ τ w.shared := by
  refine Run.induct (I := fun τ w => Vouched d s₀ τ w.shared) ?_ (fun {τ w l w'} hr ih hs => ?_)
    hrun
  · exact fun slug format contents _ _ hheld => Or.inl hheld
  · exact ih.step hopened hr hs

/-- What a download has opened is the file of the record that it has read, at the time of
    opening. -/
theorem DaemonRun.opened_vouched (hopened : Opened d s₀) (hordinary : AllOrdinary s₀)
    (hrun : DaemonRun d s₀ τ w) (hjson : .restart ∈ τ → d.lib.Lossless) {id : Nat}
    {params : Gate.DownloadParams} {t : Thread Answer Job Response}
    (htraced : t.Traced (system d) τ id) (hjob : t.job = .getDownload slug params)
    {p : ProductRecord} {lock : Locked} (hread : recordRead params t.history = some lock)
    (hp : lock.store.getProduct slug = some p) {path : String}
    (hopen : ⟨.openFile path, .ok contents⟩ ∈ t.history) :
    (s₀.store.getProduct slug = some p ∨ PublishedAs d τ slug p) ∧
      (s₀.files (d.artifactFile slug p.format) = some contents ∨
        SignedBytes d τ slug p.format contents) := by
  have hreaches := htraced.reaches
  rw [hjob] at hreaches
  -- the path is that of the record
  obtain ⟨before, hprefix, -, lock₁, lock₂, p', hread', hp', hlock₂, hpath⟩ :=
    (getDownload_opens d.lib slug params).performed hreaches _ hopen
  obtain ⟨rest, hrest⟩ := hprefix
  have hsame : recordRead params t.history = some lock₁ := by
    rw [← hrest]
    exact recordRead_append hread' rest
  obtain rfl := Option.some.inj (hsame.symm.trans hread)
  obtain rfl := Option.some.inj (hp'.symm.trans hp)
  have hmem₂ : ⟨.lock, some lock₂⟩ ∈ t.history := by
    rw [← hrest]
    exact List.mem_append_left _ hlock₂
  obtain ⟨hown, hprovided⟩ :=
    hrun.path_of_read hopened hordinary hjson htraced (recordRead_mem hread) hmem₂ hp
  have hrecord := Ordinary.of_provided hordinary hprovided
  refine ⟨hprovided, ?_⟩
  -- back to the step that opened the file
  obtain ⟨τ₁, τ₂, w₁, w₂, rfl, hbefore, hs, -⟩ := Run.split hrun (htraced.called _ hopen)
  have hbefore' : DaemonRun d s₀ τ₁ w₁ := hbefore
  cases hs with
  | call thread act =>
    have hheld : w₁.shared.files path = some contents := act.2 contents rfl
    rw [hpath, hown] at hheld
    apply (hbefore'.vouched hopened slug p'.format contents hrecord.validSlug
      hrecord.validFormat hheld).imp_right
    intro hsigned
    exact hsigned.mono fun l hl => List.mem_append_left _ (List.mem_append_left _ hl)

/-- The artist has signed what a download opens. Through overlapping uploads that write one
    after the other, failed writes and restarts, a download that answers 200 announces the size
    and the format of a record of the start or of an upload, and when it was opened the file
    held what an upload in this format that the artist signed for this slug had left in it, or
    what it held at the start. -/
theorem downloads_signed (hopened : Opened d s₀) (hordinary : AllOrdinary s₀)
    (hrun : DaemonRun d s₀ τ w) (hjson : .restart ∈ τ → d.lib.Lossless) {id : Nat}
    {params : Gate.DownloadParams} {size : UInt64} {disposition : String}
    (hanswer : .answer id (.getDownload slug params) (.artifact size disposition contents) ∈ τ) :
    ∃ p, (s₀.store.getProduct slug = some p ∨ PublishedAs d τ slug p) ∧ size = p.sizeBytes ∧
      disposition = Gate.contentDisposition slug p.format ∧
      (s₀.files (d.artifactFile slug p.format) = some contents ∨
        SignedBytes d τ slug p.format contents) := by
  obtain ⟨h, htraced⟩ := Run.answered hrun id _ _ hanswer
  obtain ⟨lock, p, path, hread, hp, hopen, rfl, rfl⟩ :=
    ((getDownload_opens d.lib slug params).result htraced.reaches).artifact _ _ _ rfl
  obtain ⟨hprovided, hcontents⟩ :=
    hrun.opened_vouched hopened hordinary hjson htraced rfl hread hp hopen
  exact ⟨p, hprovided, rfl, rfl, hcontents⟩

end Runs

namespace Sample

/-- The upload of the longer master fails after two bytes, and the buyer downloads. -/
def shortTrace : List DaemonLabel :=
  served 0 remasterUpload noSpaceCalls
      (.err .internalServerError "Failed to store artifact: No space left on device (os error 28)") ++
    served 1 downloadRequest (readCalls ++ [openCall (remasterBody.extract 0 2)])
      (sent (remasterBody.extract 0 2))

theorem short_run : ∃ w, DaemonRun studio soldOut shortTrace w := by
  have hinitial : DaemonRun studio soldOut [] (World.initial soldOut) := .refl
  obtain ⟨w₁, hrun₁, hshared₁, hnext₁⟩ :=
    hinitial.serve noSpace_executes.reaches noSpace_executes.performs
  have hreach := download_opening.step (.ok (remasterBody.extract 0 2) : Except String ByteArray)
  rw [sendArtifact_sent] at hreach
  have hopen := openCall_performs (s := truncated)
    (Files.write_same soldOut.files "/data/products/midnight.flac" (remasterBody.extract 0 2))
  have hcalls : Performs (system studio) w₁.shared
      (readCalls ++ [openCall (remasterBody.extract 0 2)]) truncated := by
    rw [hshared₁]
    exact performs_append.mpr ⟨truncated, readCalls_performs rfl rfl, hopen⟩
  obtain ⟨w₂, hrun₂, -⟩ := hrun₁.serve hreach hcalls
  have hfirst : (World.initial soldOut : DaemonWorld).next = 0 := rfl
  rw [hnext₁, hfirst] at hrun₂
  exact ⟨w₂, hrun₂⟩

end Sample

/-- The two bytes that the download opens are the beginning of a body that the artist
    signed. -/
theorem downloads_signed_midnight : ∃ p,
    (Sample.soldOut.store.getProduct "midnight" = some p ∨
      PublishedAs Sample.studio Sample.shortTrace "midnight" p) ∧ 4 = p.sizeBytes ∧
    "attachment; filename=\"midnight.flac\"" = Gate.contentDisposition "midnight" p.format ∧
    (Sample.soldOut.files (Sample.studio.artifactFile "midnight" p.format) =
        some (Sample.remasterBody.extract 0 2) ∨
      SignedBytes Sample.studio Sample.shortTrace "midnight" p.format
        (Sample.remasterBody.extract 0 2)) := by
  obtain ⟨w, hrun⟩ := Sample.short_run
  have hjson : .restart ∈ Sample.shortTrace → Sample.studio.lib.Lossless := by
    intro hmem
    simp [Sample.shortTrace, served] at hmem
  have hanswer : .answer 1 Sample.downloadRequest (Sample.sent (Sample.remasterBody.extract 0 2)) ∈
      Sample.shortTrace := by
    simp [Sample.shortTrace, served]
  exact downloads_signed Sample.opened_soldOut Sample.matched_soldOut.ordinary hrun hjson hanswer

end ArtistNode
