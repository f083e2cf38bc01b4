import ArtistNode.Credentials
import ArtistNode.Downloads

/-!
# Uploads that fail

An upload that is refused changes nothing. One that comes further writes its file before it
registers its record, in place, and nothing takes that back when a later effect fails. What
a buyer of the track is served afterwards follows from where the upload ended, from the two
formats and from the bytes.
-/

namespace ArtistNode

open Base

/-! ### Downloads by a buyer who has paid -/

/-- The purchase of the slug is paid, and the buyer holds its credential. -/
structure PaidFor (lib : Crates) (s : Shared) (slug : String) (creds : Gate.DownloadParams)
    (q : PurchaseRecord) : Prop where
  recorded : s.store.getPurchase q.paymentHash = some q
  product : q.slug = slug
  paid : countsAsPaid lib s q = true
  credential : HoldsCredential lib q creds

section Downloads

variable {d : Daemon} {s : Shared} {slug : String} {p : ProductRecord} {contents : ByteArray}
variable {creds : Gate.DownloadParams} {q : PurchaseRecord} {h : List DaemonCall}

end Downloads

/-! ### Where an upload can end -/

/-- Where an upload that is not accepted has ended: before its first effect, at the write of
    its file, with so many bytes written if the file was opened at all, at the lock for its
    registration, or at the commit of the index. -/
inductive UploadFault where
  | refused
  | write (written : Option Nat)
  | lock
  | persist (io : PersistIo)

namespace UploadFault

/-- What the upload has left in its own file, if it has come to write it. -/
def left (body : ByteArray) : UploadFault → Option ByteArray
  | .refused => none
  | .write written => written.map (body.extract 0)
  | .lock => some body
  | .persist _ => some body

/-- The state after the upload's write. -/
def stored (d : Daemon) (s : Shared) (slug : String) (params : Gate.UploadParams)
    (body : ByteArray) (fault : UploadFault) : Shared :=
  match fault.left body with
  | none => s
  | some contents =>
    { s with files := s.files.write (d.artifactFile slug params.format) contents }

/-- The state after the upload. A registration that is not committed stays in memory. -/
def after (d : Daemon) (s : Shared) (slug : String) (params : Gate.UploadParams)
    (body : ByteArray) (fault : UploadFault) : Shared :=
  match fault with
  | .persist io => (fault.stored d s slug params body).mutate d.lib.toSerdeJson
      (.upsertProduct (Gate.uploadRecord slug params body)) io
  | _ => fault.stored d s slug params body

/-- The upload has ended in `s'` with this fault. -/
structure Ends (d : Daemon) (s : Shared) (slug : String) (params : Gate.UploadParams)
    (body : ByteArray) (fault : UploadFault) (s' : Shared) : Prop where
  shared : ∃ b, s' = { fault.after d s slug params body with poisoned := b }
  admitted : fault.left body ≠ none → validSlug slug = true ∧ validFormat params.format = true
  locked : fault = .lock → s'.poisoned = true
  failed : ∀ io, fault = .persist io → ∃ e,
    ((Mutation.upsertProduct (Gate.uploadRecord slug params body)).run d.lib.toSerdeJson io
      (fault.stored d s slug params body).store (fault.stored d s slug params body).files).1 =
        .error e

end UploadFault

/-- The daemon whose store lock may be poisoned at any time by a thread that panics. -/
abbrev brittle (d : Daemon) : System Answer Job Response Shared EnvEvent :=
  (system d).disturbed (· = .poison)

/-- What happens in the brittle daemon happens in a run of the daemon in which nothing but
    the job and the poisoning takes place. -/
theorem brittle_run {d : Daemon} {s₀ s' : Shared} {τ : List DaemonLabel} {w : DaemonWorld}
    {job : Job} {h : List DaemonCall} {resp : Response} (hrun : DaemonRun d s₀ τ w)
    (hx : Executes (brittle d) job w.shared h resp s') :
    ∃ τ' w', DaemonRun d s₀ (τ ++ τ') w' ∧ w'.shared = s' ∧ .answer w.next job resp ∈ τ' ∧
      ∀ l ∈ τ', l.Within w.next (· = .poison) :=
  hx.disturbed_run hrun

section Faults

variable {d : Daemon} {s s' : Shared} {slug : String} {params : Gate.UploadParams}
variable {body : ByteArray} {h : List DaemonCall}

end Faults

/-! ### What is sold afterwards -/

namespace UploadFault

/-- What the file on sale holds after the upload. -/
def shelf (params : Gate.UploadParams) (p : ProductRecord) (body contents : ByteArray)
    (fault : UploadFault) : ByteArray :=
  match fault.left body with
  | none => contents
  | some left => if params.format = p.format then left else contents

end UploadFault

section Aftermath

variable {d : Daemon} {s s' s'' : Shared} {slug : String} {params : Gate.UploadParams}
variable {body contents : ByteArray} {fault : UploadFault} {p : ProductRecord}
variable {creds : Gate.DownloadParams} {q : PurchaseRecord}

namespace UploadFault

/-- A restart finds the index as it was. -/
theorem Ends.reopens (h : fault.Ends d s slug params body s') (hdir : s.store.dir = d.productsDir) :
    Store.open d.lib.toSerdeJson none s'.files d.dataDir =
      Store.open d.lib.toSerdeJson none s.files d.dataDir := by
  obtain ⟨b, rfl⟩ := h.shared
  have hstored : Store.open d.lib.toSerdeJson none (fault.stored d s slug params body).files
      d.dataDir = Store.open d.lib.toSerdeJson none s.files d.dataDir := by
    apply Store.open_congr
    have hadmitted := h.admitted
    unfold stored
    rcases hleft : fault.left body with _ | left
    · rfl
    · rw [hleft] at hadmitted
      obtain ⟨hslug, hformat⟩ := hadmitted (Option.some_ne_none left)
      exact Files.write_other (artifactFile_ne_index (d := d) hslug hformat).1.symm
  cases fault with
  | persist io =>
    obtain ⟨e, herr⟩ := h.failed io rfl
    have hdir' : ((UploadFault.persist io).stored d s slug params body).store.dir =
        joinPath d.dataDir "products" := hdir
    exact (Mutation.open_run_error hdir' herr).2.trans hstored
  | _ => exact hstored

end UploadFault

/-- Whether the buyer has paid depends on the purchases and the payments alone. -/
theorem PaidFor.congr (h : PaidFor d.lib s slug creds q)
    (hpurchases : s'.store.state.purchases = s.store.state.purchases)
    (hpayments : s'.payments = s.payments) : PaidFor d.lib s' slug creds q where
  recorded := (congrArg (·.lookup q.paymentHash) hpurchases).trans h.recorded
  product := h.product
  paid := by
    unfold countsAsPaid
    rw [hpayments]
    exact h.paid
  credential := h.credential

end Aftermath

/-! ### A track that is lost to a full disk -/

namespace Sample

def noSpace : String := "No space left on device (os error 28)"

/-- The upload of the longer master, up to the failure of its write. -/
def noSpaceCalls : List DaemonCall :=
  [⟨.nowSecs, 1700000030⟩, ⟨.lock, some settledLocked⟩,
    ⟨.writeFile "/data/products/midnight.flac" remasterBody, .error noSpace⟩]

/-- Two bytes of the longer master have been written. -/
def truncated : Shared where
  store := soldOut.store
  files := soldOut.files.write "/data/products/midnight.flac" (remasterBody.extract 0 2)
  poisoned := false
  payments := []

theorem noSpace_executes : Executes (system studio) remasterUpload soldOut noSpaceCalls
    (.err .internalServerError "Failed to store artifact: No space left on device (os error 28)")
    truncated := by
  constructor
  · exact (studio_reaches studio_authorizes_remaster settledLocked rfl).step
      (.error noSpace : Except String Unit)
  · have hlock : act studio soldOut .lock (some settledLocked) soldOut :=
      act_lock_healthy rfl rfl
    exact ⟨soldOut, rfl, soldOut, hlock, truncated, Or.inr ⟨noSpace, rfl, Or.inr ⟨2, rfl⟩⟩, rfl⟩

end Sample

end ArtistNode
