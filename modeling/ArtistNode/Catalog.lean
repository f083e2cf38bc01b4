import ArtistNode.Base.Sequential
import ArtistNode.Delivery

/-!
# The catalog

The products and their artifact files. The file of a product is named after its slug and
its format; the names are plain, they are not those of the index, and no two are equal.
Only uploads that passed every check write them or register a product.
-/

namespace ArtistNode

open Base

/-! ### Names of artifacts -/

/-- A single ordinary path component of printable ASCII. -/
structure PlainName (name : String) : Prop where
  chars : ∀ c ∈ name.toList, c ≠ '/' ∧ c ≠ '\\' ∧ 32 ≤ c.toNat ∧ c.toNat < 127
  notDot : name ≠ "."
  notDotDot : name ≠ ".."
  short : name.utf8ByteSize ≤ 133

/-- The characters that slugs and formats are made of. -/
def slugChar (c : Char) : Bool := c.isLower || c.isDigit || c == '-'

theorem slugChar_plain {c : Char} (h : slugChar c = true) :
    c ≠ '.' ∧ c ≠ '/' ∧ c ≠ '\\' ∧ 32 ≤ c.toNat ∧ c.toNat < 127 := by
  have hrange : 45 = c.toNat ∨ 48 ≤ c.toNat ∧ c.toNat ≤ 57 ∨ 97 ≤ c.toNat ∧ c.toNat ≤ 122 := by
    simp only [slugChar, Char.isLower, Char.isDigit, Bool.or_eq_true, Bool.and_eq_true,
      decide_eq_true_eq, beq_iff_eq, UInt32.le_iff_toNat_le, ge_iff_le] at h
    unfold Char.toNat
    rcases h with (⟨hlow, hhigh⟩ | ⟨hlow, hhigh⟩) | rfl
    · exact Or.inr (Or.inr ⟨hlow, hhigh⟩)
    · exact Or.inr (Or.inl ⟨hlow, hhigh⟩)
    · exact Or.inl rfl
  refine ⟨?_, ?_, ?_, by omega, by omega⟩
  all_goals
    rintro rfl
    revert hrange
    decide

theorem validSlug_chars {slug : String} (h : validSlug slug = true) :
    ∀ c ∈ slug.toList, slugChar c = true := by
  simp only [validSlug, Bool.and_eq_true, List.all_eq_true] at h
  exact h.2

theorem validSlug_size {slug : String} (h : validSlug slug = true) : slug.utf8ByteSize ≤ 128 := by
  simp only [validSlug, Bool.and_eq_true, decide_eq_true_eq] at h
  exact h.1.2

theorem validFormat_chars {format : String} (h : validFormat format = true) :
    format.toList ≠ [] ∧ format.utf8ByteSize ≤ 4 ∧ ∀ c ∈ format.toList, slugChar c = true := by
  simp only [validFormat, List.contains_eq_mem, decide_eq_true_eq, List.mem_cons,
    List.not_mem_nil, or_false] at h
  rcases h with rfl | rfl | rfl | rfl | rfl | rfl | rfl | rfl | rfl | rfl
  all_goals exact ⟨by decide, by decide, List.all_eq_true.mp (by decide)⟩

theorem fileNameOf_toList (slug format : String) :
    (Gate.fileNameOf slug format).toList = slug.toList ++ '.' :: format.toList := by
  simp [Gate.fileNameOf, String.toList_append]

theorem fileNameOf_plain {slug format : String} (hslug : validSlug slug = true)
    (hformat : validFormat format = true) : PlainName (Gate.fileNameOf slug format) := by
  have hslugChars := validSlug_chars hslug
  obtain ⟨hne, hsize, hformatChars⟩ := validFormat_chars hformat
  obtain ⟨c, rest, hcons⟩ := List.exists_cons_of_ne_nil hne
  have hfirst : c ≠ '.' := (slugChar_plain (hformatChars c (by simp [hcons]))).1
  -- what follows the slug's dot does not start with a dot
  have hdots : ∀ n, Gate.fileNameOf slug format ≠ String.ofList (List.replicate n '.') := by
    intro n heq
    have hall : ∀ c' ∈ (Gate.fileNameOf slug format).toList, c' = '.' := by
      rw [heq, String.toList_ofList]
      exact fun c' hc' => List.eq_of_mem_replicate hc'
    exact hfirst (hall c (by simp [fileNameOf_toList, hcons]))
  refine ⟨?_, hdots 1, hdots 2, ?_⟩
  · intro c' hc'
    rw [fileNameOf_toList] at hc'
    rcases List.mem_append.mp hc' with hmem | hmem
    · exact (slugChar_plain (hslugChars c' hmem)).2
    · rcases List.mem_cons.mp hmem with rfl | hmem
      · decide
      · exact (slugChar_plain (hformatChars c' hmem)).2
  · have hslugSize := validSlug_size hslug
    have hdot : ".".utf8ByteSize = 1 := by decide
    simp only [Gate.fileNameOf, String.utf8ByteSize_append, hdot]
    omega

/-- A file name shows its slug and its format. -/
theorem fileNameOf_inj {slug slug' format format' : String} (hslug : validSlug slug = true)
    (hslug' : validSlug slug' = true) (hformat : validFormat format = true)
    (h : Gate.fileNameOf slug format = Gate.fileNameOf slug' format') :
    slug = slug' ∧ format = format' := by
  have hnotin : '.' ∉ slug'.toList := fun hmem =>
    (slugChar_plain (validSlug_chars hslug' _ hmem)).1 rfl
  have hnotin' : '.' ∉ slug.toList := fun hmem =>
    (slugChar_plain (validSlug_chars hslug _ hmem)).1 rfl
  have hformatNotin : '.' ∉ format.toList := fun hmem =>
    (slugChar_plain ((validFormat_chars hformat).2.2 _ hmem)).1 rfl
  have hchars := congrArg String.toList h
  rw [fileNameOf_toList, fileNameOf_toList,
    List.append_cons_inj_of_notMem hnotin' hformatNotin] at hchars
  exact ⟨String.toList_inj.mp hchars.1, String.toList_inj.mp hchars.2.2⟩

theorem fileNameOf_ne_index {slug format : String} (hslug : validSlug slug = true)
    (hformat : validFormat format = true) :
    Gate.fileNameOf slug format ≠ "index.json" ∧
      Gate.fileNameOf slug format ≠ "index.json.tmp" := by
  obtain ⟨hindex, htmp⟩ := artifact_ne_index "" hslug hformat
  exact ⟨fun heq => hindex (congrArg (joinPath "") heq), fun heq => htmp (congrArg (joinPath "") heq)⟩

/-- The products directory does not end in a slash, so joining adds one. -/
theorem productsDir_join (d : Daemon) {name : String} (hname : PlainName name) :
    joinPath d.productsDir name = d.productsDir ++ "/" ++ name := by
  have hlast : ∃ dir, d.productsDir = dir ++ "products" := by
    unfold Daemon.productsDir joinPath
    rw [if_neg (by decide)]
    split
    · exact ⟨_, rfl⟩
    · exact ⟨_, rfl⟩
  obtain ⟨dir, hdir⟩ := hlast
  have hchars : d.productsDir.toList = dir.toList ++ "products".toList := by
    rw [hdir, String.toList_append]
  have hrelative : name.toList.head? ≠ some '/' := fun hhead =>
    (hname.chars _ (List.mem_of_mem_head? hhead)).1 rfl
  unfold joinPath
  rw [if_neg hrelative, if_neg]
  rintro (hempty | hslash)
  · rw [hchars] at hempty
    exact absurd (List.append_eq_nil_iff.mp hempty).2 (by decide)
  · have hs : "products".toList.getLast? = some 's' := by decide
    rw [hchars, List.getLast?_append, hs] at hslash
    exact absurd (Option.some.inj hslash) (by decide)

/-! ### Uploads that were admitted -/

/-- The upload has passed every check, the last one being that of its header. -/
structure Admitted (d : Daemon) (slug : String) (params : Gate.UploadParams)
    (auth : Option String) (body : ByteArray) (h : List DaemonCall) : Prop where
  validSlug : validSlug slug = true
  validFormat : validFormat params.format = true
  notEmpty : body.size ≠ 0
  priced : ¬ (params.priceSats = 0 ∧ params.floorSats = none)
  checked : Checked d (.putProduct slug params auth body) h

def Op.isWriteFile : Op → Bool
  | .writeFile .. => true
  | _ => false

def Op.isUpsert : Op → Bool
  | .upsertProduct _ => true
  | _ => false

/-- What an upload does, in this order: it reads the clock, passes its checks, reads the
    directory from the store, writes its body to its file once and registers its record
    once. -/
def UploadStep (d : Daemon) (slug : String) (params : Gate.UploadParams) (auth : Option String)
    (body : ByteArray) (h : List DaemonCall) : Op → Prop
  | .nowSecs => True
  | .lock => True
  | .writeFile path contents => Admitted d slug params auth body h ∧ contents = body ∧
      (∃ l, ⟨.lock, some l⟩ ∈ h ∧
        path = joinPath l.store.dir (Gate.fileNameOf slug params.format)) ∧
      ∀ c ∈ h, c.1.isWriteFile = false ∧ c.1.isUpsert = false
  | .upsertProduct record => Admitted d slug params auth body h ∧
      record = Gate.uploadRecord slug params body ∧
      (∃ l, ⟨.lock, some l⟩ ∈ h ∧ ⟨.writeFile
        (joinPath l.store.dir (Gate.fileNameOf slug params.format)) body, .ok ()⟩ ∈ h) ∧
      ∀ c ∈ h, c.1.isUpsert = false
  | _ => False

/-- An upload answers 201 only when it has registered its record. -/
def UploadAnswer (slug : String) (params : Gate.UploadParams) (body : ByteArray)
    (h : List DaemonCall) (resp : Response) : Prop :=
  resp.status = .created →
    ⟨.upsertProduct (Gate.uploadRecord slug params body), some (.ok ())⟩ ∈ h

section Handlers

variable {d : Daemon} {slug : String} {params : Gate.UploadParams} {auth : Option String}
variable {body : ByteArray} {h : List DaemonCall}

theorem Admitted.extend (hadmitted : Admitted d slug params auth body h) (h' : List DaemonCall) :
    Admitted d slug params auth body (h ++ h') :=
  { hadmitted with checked := hadmitted.checked.extend h' }

theorem UploadAnswer.of_err {status : StatusCode} {e : String} (hstatus : status ≠ .created) :
    UploadAnswer slug params body h (.err status e) := fun hcreated => absurd hcreated hstatus

theorem storeUpload_steps (hadmitted : Admitted d slug params auth body h)
    (hnone : ∀ c ∈ h, c.1.isWriteFile = false ∧ c.1.isUpsert = false) :
    Guarded (UploadStep d slug params auth body) (UploadAnswer slug params body) h
      (Gate.storeUpload slug params body) := by
  unfold Gate.storeUpload
  simp only [perform_bind, guarded_call]
  refine ⟨trivial, ?_⟩
  rintro (_ | l)
  · exact UploadAnswer.of_err (by decide)
  have hlocked : ⟨.lock, some l⟩ ∈ h ++ [(⟨.lock, some l⟩ : DaemonCall)] := List.mem_concat_self
  have hnone₁ : ∀ c ∈ h ++ [(⟨.lock, some l⟩ : DaemonCall)],
      c.1.isWriteFile = false ∧ c.1.isUpsert = false := by
    intro c hc
    rcases List.mem_append.mp hc with hc | hc
    · exact hnone c hc
    · obtain rfl := List.mem_singleton.mp hc
      exact ⟨rfl, rfl⟩
  simp only [guarded_call]
  refine ⟨⟨hadmitted.extend _, rfl, ⟨l, hlocked, rfl⟩, hnone₁⟩, ?_⟩
  rintro (e | ⟨⟩)
  · exact UploadAnswer.of_err (by decide)
  simp only [guarded_call]
  refine ⟨⟨(hadmitted.extend _).extend _, rfl,
    ⟨l, List.mem_append_left _ hlocked, List.mem_concat_self⟩, ?_⟩, ?_⟩
  · intro c hc
    rcases List.mem_append.mp hc with hc | hc
    · exact (hnone₁ c hc).2
    · obtain rfl := List.mem_singleton.mp hc
      rfl
  · rintro (_ | (e | ⟨⟩))
    · exact UploadAnswer.of_err (by decide)
    · exact UploadAnswer.of_err (by decide)
    · exact fun _ => List.mem_concat_self

theorem putProduct_steps (slug : String) (params : Gate.UploadParams) (auth : Option String)
    (body : ByteArray) :
    Guarded (UploadStep d slug params auth body) (UploadAnswer slug params body) []
      (Gate.putProduct d.lib d.gateState slug params auth body) := by
  unfold Gate.putProduct
  rcases hkey : d.gateState.artistPubkey with _ | key
  · exact UploadAnswer.of_err (by decide)
  rcases hslug : validSlug slug with _ | _
  · exact UploadAnswer.of_err (by decide)
  rcases hformat : validFormat params.format with _ | _
  · exact UploadAnswer.of_err (by decide)
  simp only [Bool.not_true, Bool.false_eq_true, if_false]
  by_cases hbody : body.size = 0
  · rw [if_pos hbody]
    exact UploadAnswer.of_err (by decide)
  rw [if_neg hbody]
  by_cases hprice : params.priceSats = 0 ∧ params.floorSats = none
  · rw [if_pos hprice]
    exact UploadAnswer.of_err (by decide)
  rw [if_neg hprice]
  rcases auth with _ | auth
  · exact UploadAnswer.of_err (by decide)
  simp only [perform_bind, guarded_call]
  refine ⟨trivial, fun now => ?_⟩
  split
  · exact UploadAnswer.of_err (by decide)
  rename_i pk hverify
  apply storeUpload_steps
  · refine ⟨hslug, hformat, hbody, hprice, _, now, rfl, List.mem_singleton_self _, ?_⟩
    have hkey' : d.artistPubkey = some key := hkey
    have hurl : Gate.uploadUrl d.gateState slug =
        Gate.trimSlashes d.publicUrl ++ ("/products/" ++ slug) := String.append_assoc
    rw [hurl] at hverify
    rw [hkey']
    exact passes_of_verify hverify
  · intro c hc
    obtain rfl := List.mem_singleton.mp hc
    exact ⟨rfl, rfl⟩

end Handlers

/-! ### The course of an upload -/

/-- The rest of an upload after the write of its file. -/
def registerUpload (slug : String) (params : Gate.UploadParams) (body : ByteArray) :
    Except String Unit → Handler Response
  | .error e => .done (.err .internalServerError s!"Failed to store artifact: {e}")
  | .ok () => .call (.upsertProduct (Gate.uploadRecord slug params body)) fun r => match r with
    | none => .done Gate.poisoned
    | some (.error e) => .done (.err .internalServerError e)
    | some (.ok ()) => .done (.productCreated slug)

theorem storeUpload_eq (slug : String) (params : Gate.UploadParams) (body : ByteArray) :
    Gate.storeUpload slug params body = .call .lock fun r => match r with
      | none => .done Gate.poisoned
      | some l => .call
        (.writeFile (joinPath l.store.dir (Gate.fileNameOf slug params.format)) body)
        (registerUpload slug params body) := by
  simp only [Gate.storeUpload, perform_bind]
  congr 1
  funext r
  rcases r with _ | l
  · rfl
  · simp only
    congr 1
    funext r
    rcases r with e | ⟨⟩
    · rfl
    · simp only [registerUpload]
      congr 1
      funext r
      rcases r with _ | (e | ⟨⟩)
      all_goals rfl

/-- An authorized upload comes to the write of its file. -/
theorem UploadAuthorized.reaches {d : Daemon} {header slug : String} {body : ByteArray}
    {now : UInt64} (h : UploadAuthorized d header slug body now) (params : Gate.UploadParams)
    (hformat : validFormat params.format = true) (hprice : params.priceSats ≠ 0) (l : Locked) :
    Reaches (handle d (.putProduct slug params (some header) body))
      [⟨.nowSecs, now⟩, ⟨.lock, some l⟩]
      (.call (.writeFile (joinPath l.store.dir (Gate.fileNameOf slug params.format)) body)
        (registerUpload slug params body)) := by
  have hchecked := h.checked params hformat hprice
  rw [storeUpload_eq] at hchecked
  exact hchecked.step (some l)

/-- And from there to its answer, if nothing fails. -/
theorem UploadAuthorized.created {d : Daemon} {header slug : String} {body : ByteArray}
    {now : UInt64} (h : UploadAuthorized d header slug body now) (params : Gate.UploadParams)
    (hformat : validFormat params.format = true) (hprice : params.priceSats ≠ 0) (l : Locked) :
    Reaches (handle d (.putProduct slug params (some header) body))
      [⟨.nowSecs, now⟩, ⟨.lock, some l⟩,
        ⟨.writeFile (joinPath l.store.dir (Gate.fileNameOf slug params.format)) body, .ok ()⟩,
        ⟨.upsertProduct (Gate.uploadRecord slug params body), some (.ok ())⟩]
      (.done (.productCreated slug)) := by
  have hwritten := (h.reaches params hformat hprice l).step (.ok () : Except String Unit)
  exact hwritten.step (some (.ok ()) : Option (Except String Unit))

/-! ### Only admitted uploads change the catalog -/

/-- The products are the same, and so is every file but the index and its temporary
    file. -/
structure SameCatalog (d : Daemon) (s s' : Shared) : Prop where
  products : s'.store.state.products = s.store.state.products
  files : ∀ path, path ≠ joinPath d.productsDir "index.json" →
    path ≠ joinPath d.productsDir "index.json.tmp" → s'.files path = s.files path

/-- The step is the file write or the registration of an upload whose header the artist
    signed for this slug and this body. -/
def AdmittedCall (d : Daemon) (τ : List DaemonLabel) (l : DaemonLabel) : Prop :=
  ∃ id slug params auth body key now event c,
    l = .call id (.putProduct slug params (some auth) body) c ∧
    (c.1 = .writeFile (joinPath d.productsDir (Gate.fileNameOf slug params.format)) body ∨
      c.1 = .upsertProduct (Gate.uploadRecord slug params body)) ∧
    validSlug slug = true ∧ validFormat params.format = true ∧ body.size ≠ 0 ∧
    d.artistPubkey = some key ∧
    .call id (.putProduct slug params (some auth) body) ⟨.nowSecs, now⟩ ∈ τ ∧
    Nip98.Authorizes d.lib.toNostrCrates auth "PUT"
      (Gate.trimSlashes d.publicUrl ++ "/products/" ++ slug) (some (bodyHash d.lib body)) key now
      event

section Runs

variable {d : Daemon} {s s' s₀ : Shared} {τ τ₁ τ₂ : List DaemonLabel} {w w₁ w' : DaemonWorld}

theorem SameCatalog.refl (d : Daemon) (s : Shared) : SameCatalog d s s :=
  ⟨rfl, fun _ _ _ => rfl⟩

theorem SameCatalog.trans {s'' : Shared} (h : SameCatalog d s s') (h' : SameCatalog d s' s'') :
    SameCatalog d s s'' :=
  ⟨h'.products.trans h.products,
    fun path hindex htmp => (h'.files path hindex htmp).trans (h.files path hindex htmp)⟩

/-- A mutator that registers no product leaves the catalog. -/
theorem mutate_sameCatalog {m : Mutation} {io : PersistIo} (hdir : s.store.dir = d.productsDir)
    (hkey : m.productKey = none) : SameCatalog d s (s.mutate d.lib.toSerdeJson m io) := by
  constructor
  · rcases m.run_cases d.lib.toSerdeJson io s.store s.files with ⟨-, hrun⟩ | ⟨state, hsome, hrun⟩
    · simp only [Shared.mutate, hrun]
    · simp only [Shared.mutate, hrun]
      exact Mutation.products_eq hsome hkey
  · intro path hindex htmp
    rw [← hdir] at hindex htmp
    exact m.run_other d.lib.toSerdeJson io s.store s.files htmp hindex

theorem act_sameCatalog {op : Op} {ans : Answer op} (hdir : s.store.dir = d.productsDir)
    (h : act d s op ans s') (hwrite : op.isWriteFile = false) (hupsert : op.isUpsert = false) :
    SameCatalog d s s' := by
  rcases act_cases h with rfl | ⟨m, io, hop, rfl⟩ | ⟨path, contents, written, rfl, -⟩
  · exact .refl d s'
  · apply mutate_sameCatalog hdir
    cases op with
    | upsertProduct record => cases hupsert
    | createPurchase paymentHash slug amountMsat createdAt claimToken =>
      obtain rfl := Option.some.inj hop
      rfl
    | markPaid paymentHash =>
      obtain rfl := Option.some.inj hop
      rfl
    | _ => cases hop
  · cases hwrite

/-- A thread about to write a file or to register a product is an upload. -/
theorem DaemonRun.upload_pending (hrun : DaemonRun d s₀ τ w) {id : Nat} {job : Job}
    {h : List DaemonCall} {op : Op} {k : Answer op → Handler Response}
    (hthread : w.threads id = some ⟨job, h, .call op k⟩)
    (hop : op.isWriteFile = true ∨ op.isUpsert = true) :
    ∃ slug params auth body, job = .putProduct slug params auth body ∧
      UploadStep d slug params auth body h op := by
  have htraced := hrun.traced _ _ hthread
  have hjust : Justified d job h op := (handle_guarded d job).pending htraced.reaches
  have hjob : ∃ slug params auth body, job = .putProduct slug params auth body := by
    cases op with
    | writeFile path contents =>
      obtain ⟨-, slug, params, auth, l, rfl, -⟩ := hjust
      exact ⟨slug, params, auth, contents, rfl⟩
    | upsertProduct record =>
      obtain ⟨-, slug, params, auth, body, rfl, -⟩ := hjust
      exact ⟨slug, params, auth, body, rfl⟩
    | _ => rcases hop with hop | hop <;> cases hop
  obtain ⟨slug, params, auth, body, rfl⟩ := hjob
  exact ⟨slug, params, auth, body, rfl,
    (putProduct_steps slug params auth body).pending htraced.reaches⟩

theorem Admitted.authorizes {slug : String} {params : Gate.UploadParams} {auth : Option String}
    {body : ByteArray} {h : List DaemonCall} (hadmitted : Admitted d slug params auth body h) :
    ∃ auth' key now event, auth = some auth' ∧ d.artistPubkey = some key ∧ ⟨.nowSecs, now⟩ ∈ h ∧
      Nip98.Authorizes d.lib.toNostrCrates auth' "PUT"
        (Gate.trimSlashes d.publicUrl ++ "/products/" ++ slug) (some (bodyHash d.lib body)) key now
        event := by
  obtain ⟨check, now, hcheck, hnow, auth', key, event, hauth, hkey, hauthorizes⟩ :=
    hadmitted.checked
  simp only [Job.check, Job.route, Job.signed, Option.some.injEq] at hcheck
  subst hcheck
  rw [← String.append_assoc] at hauthorizes
  exact ⟨auth', key, now, event, hauth, hkey, hnow, hauthorizes⟩

/-- Within one lifetime of the process, each step leaves the catalog as it was, unless it
    is the file write or the registration of an upload that the artist signed for this
    slug and this body and that passed every other check. -/
theorem catalog_changes_signed (hopened : Opened d s₀) (hrun : DaemonRun d s₀ τ w)
    {l : DaemonLabel} (hs : Step (system d) w l w') (hl : l ≠ .restart) :
    SameCatalog d w.shared w'.shared ∨ AdmittedCall d τ l := by
  have hhoused := hrun.housed hopened
  cases hs with
  | start job => exact Or.inl (.refl d _)
  | answer thread => exact Or.inl (.refl d _)
  | env act =>
    obtain ⟨hstore, hfiles⟩ := env_files act
    exact Or.inl ⟨congrArg (·.state.products) hstore, fun path _ _ => congrFun hfiles path⟩
  | restart act => exact absurd rfl hl
  | @call id job h op k ans s' thread act =>
    by_cases hop : op.isWriteFile = true ∨ op.isUpsert = true
    · obtain ⟨slug, params, auth, body, rfl, hstep⟩ := hrun.upload_pending thread hop
      have htraced := hrun.traced _ _ thread
      have hcall : Admitted d slug params auth body h ∧
          (op = .writeFile (joinPath d.productsDir (Gate.fileNameOf slug params.format)) body ∨
            op = .upsertProduct (Gate.uploadRecord slug params body)) := by
        cases op with
        | writeFile path contents =>
          obtain ⟨hadmitted, rfl, ⟨l, hlock, rfl⟩, -⟩ := hstep
          rw [hhoused.snapshots id _ l (htraced.called _ hlock)]
          exact ⟨hadmitted, Or.inl rfl⟩
        | upsertProduct record =>
          obtain ⟨hadmitted, rfl, -⟩ := hstep
          exact ⟨hadmitted, Or.inr rfl⟩
        | _ => rcases hop with hop | hop <;> cases hop
      obtain ⟨hadmitted, hop'⟩ := hcall
      obtain ⟨auth', key, now, event, rfl, hkey, hnow, hauthorizes⟩ := hadmitted.authorizes
      exact Or.inr ⟨id, slug, params, auth', body, key, now, event, ⟨op, ans⟩, rfl, hop',
        hadmitted.validSlug, hadmitted.validFormat, hadmitted.notEmpty, hkey,
        htraced.called _ hnow, hauthorizes⟩
    · simp only [not_or, Bool.not_eq_true] at hop
      exact Or.inl (act_sameCatalog hhoused.dir act hop.1 hop.2)

end Runs

/-! ### What a download opens -/

def fallback : Response := .err .internalServerError "Failed to build response"

/-- The stores that a handler has looked at, in order. -/
def snapshots (h : List DaemonCall) : List Locked :=
  h.filterMap fun c => match c with
    | ⟨.lock, some l⟩ => some l
    | _ => none

/-- Which of these a download reads the record in: a claim token takes one look before. -/
def recordIndex (params : Gate.DownloadParams) : Nat := if params.preimage.isSome then 0 else 1

def recordRead (params : Gate.DownloadParams) (h : List DaemonCall) : Option Locked :=
  (snapshots h)[recordIndex params]?

def Op.isOpenFile : Op → Bool
  | .openFile _ => true
  | _ => false

/-- A download opens, once, the file of the record it has read for its own slug. -/
def OpensOwn (slug : String) (params : Gate.DownloadParams) (h : List DaemonCall) : Op → Prop
  | .openFile path => (∀ c ∈ h, c.1.isOpenFile = false) ∧ ∃ l l' product,
      recordRead params h = some l ∧ l.store.getProduct slug = some product ∧
      ⟨.lock, some l'⟩ ∈ h ∧ path = joinPath l'.store.dir product.fileName
  | _ => True

/-- The fallback is answered only for a header value that is not legal, and an artifact
    only with size and name of the record that has been read. -/
structure DownloadAnswer (lib : Crates) (slug : String) (params : Gate.DownloadParams)
    (h : List DaemonCall) (resp : Response) : Prop where
  fallback : resp = fallback → ∃ l product, recordRead params h = some l ∧
    l.store.getProduct slug = some product ∧
    lib.headerValueOk (Gate.contentDisposition slug product.format) = false
  artifact : ∀ size disposition contents, resp = .artifact size disposition contents →
    ∃ l product path, recordRead params h = some l ∧ l.store.getProduct slug = some product ∧
      ⟨.openFile path, .ok contents⟩ ∈ h ∧
      size = product.sizeBytes ∧ disposition = Gate.contentDisposition slug product.format

theorem snapshots_append (h h' : List DaemonCall) :
    snapshots (h ++ h') = snapshots h ++ snapshots h' := List.filterMap_append

theorem recordRead_append {params : Gate.DownloadParams} {h : List DaemonCall} {l : Locked}
    (hl : recordRead params h = some l) (h' : List DaemonCall) :
    recordRead params (h ++ h') = some l := by
  unfold recordRead at hl ⊢
  rw [snapshots_append]
  exact List.getElem?_append_left (List.getElem?_eq_some_iff.mp hl).1 ▸ hl

/-- The look at which the record is read. -/
theorem recordRead_now {params : Gate.DownloadParams} {h : List DaemonCall}
    (hlength : (snapshots h).length = recordIndex params) (l : Locked) :
    recordRead params (h ++ [⟨.lock, some l⟩]) = some l := by
  unfold recordRead
  rw [snapshots_append, ← hlength]
  exact List.getElem?_concat_length

theorem mem_snapshots {h : List DaemonCall} {l : Locked} : l ∈ snapshots h ↔ ⟨.lock, some l⟩ ∈ h := by
  unfold snapshots
  rw [List.mem_filterMap]
  constructor
  · rintro ⟨c, hc, hsome⟩
    split at hsome
    · obtain rfl := Option.some.inj hsome
      exact hc
    · cases hsome
  · exact fun hl => ⟨_, hl, rfl⟩

theorem recordRead_mem {params : Gate.DownloadParams} {h : List DaemonCall} {l : Locked}
    (hl : recordRead params h = some l) : ⟨.lock, some l⟩ ∈ h :=
  mem_snapshots.mp (List.mem_of_getElem? hl)

section Handlers

variable {lib : Crates} {slug : String} {params : Gate.DownloadParams} {h : List DaemonCall}

theorem DownloadAnswer.of_err {status : StatusCode} {e : String}
    (hne : status = .internalServerError → e ≠ "Failed to build response") :
    DownloadAnswer lib slug params h (.err status e) := by
  constructor
  · intro hresp
    obtain ⟨hstatus, he⟩ := Response.err.inj hresp
    exact absurd he (hne hstatus)
  · intro size disposition contents hresp
    cases hresp

theorem DownloadAnswer.of_status {status : StatusCode} {e : String}
    (hstatus : status ≠ .internalServerError) : DownloadAnswer lib slug params h (.err status e) :=
  .of_err fun heq => absurd heq hstatus

theorem DownloadAnswer.of_poisoned : DownloadAnswer lib slug params h Gate.poisoned :=
  .of_err fun _ => by decide

theorem missing_ne_fallback (e : String) :
    s!"Artifact missing on disk: {e}" ≠ "Failed to build response" := by
  intro heq
  have hchars := congrArg String.toList heq
  simp [toString] at hchars

theorem not_open_concat {op : Op} {ans : Answer op} (hnone : ∀ c ∈ h, c.1.isOpenFile = false)
    (hop : op.isOpenFile = false) :
    ∀ c ∈ h ++ [(⟨op, ans⟩ : DaemonCall)], c.1.isOpenFile = false := by
  intro c hc
  rcases List.mem_append.mp hc with hc | hc
  · exact hnone c hc
  · obtain rfl := List.mem_singleton.mp hc
    exact hop

/-- When the credential is resolved, the record is the next thing to be read. -/
theorem credentialHash_opens : Guarded (OpensOwn slug params) (fun h r =>
      (∀ resp, r = .error resp → DownloadAnswer lib slug params h resp) ∧
        (∀ hash, r = .ok hash → (snapshots h).length = recordIndex params ∧
          ∀ c ∈ h, c.1.isOpenFile = false)) []
    (Gate.credentialHash lib params) := by
  have hrefused : ∀ {status : StatusCode} {e : String} {h : List DaemonCall},
      status ≠ .internalServerError → (∀ resp,
        (.error (.err status e) : Except Response String) = .error resp →
          DownloadAnswer lib slug params h resp) ∧
        ∀ hash, (.error (.err status e) : Except Response String) = .ok hash →
          (snapshots h).length = recordIndex params ∧ ∀ c ∈ h, c.1.isOpenFile = false := by
    intro status e h hstatus
    constructor
    · intro resp hresp
      obtain rfl := Except.error.inj hresp
      exact .of_status hstatus
    · intro hash hhash
      cases hhash
  unfold Gate.credentialHash
  rcases hpreimage : params.preimage with _ | preimage
  · rcases params.claim with _ | claim
    · exact hrefused (by decide)
    simp only [perform_bind, guarded_call]
    refine ⟨trivial, ?_⟩
    rintro (_ | l)
    · constructor
      · intro resp hresp
        obtain rfl := Except.error.inj hresp
        exact .of_poisoned
      · intro hash hhash
        cases hhash
    simp only
    rcases l.getPurchaseByClaim claim with _ | p
    · exact hrefused (by decide)
    · constructor
      · intro resp hresp
        cases hresp
      · intro hash hhash
        exact ⟨by simp [snapshots, recordIndex, hpreimage], not_open_concat (by simp) rfl⟩
  · simp only
    rcases Gate.preimageBytes lib preimage with _ | bytes
    · exact hrefused (by decide)
    · constructor
      · intro resp hresp
        cases hresp
      · intro hash hhash
        exact ⟨by simp [snapshots, recordIndex, hpreimage], by simp⟩

theorem paidOrSettled_opens {paid : Bool} {paymentHash : String}
    (hnone : ∀ c ∈ h, c.1.isOpenFile = false) :
    Guarded (OpensOwn slug params) (fun h' _ => h <+: h' ∧ ∀ c ∈ h', c.1.isOpenFile = false) h
      (Gate.paidOrSettled lib paid paymentHash) := by
  apply Guarded.extends (List.prefix_refl h)
  unfold Gate.paidOrSettled
  split
  · exact hnone
  simp only [perform_bind, guarded_call]
  refine ⟨trivial, fun payments => ?_⟩
  split
  · exact ⟨trivial, fun _ => not_open_concat (not_open_concat hnone rfl) rfl⟩
  · exact not_open_concat hnone rfl

theorem serveArtifact_opens {l : Locked} {product : ProductRecord}
    (hl : recordRead params h = some l) (hproduct : l.store.getProduct slug = some product)
    (hnone : ∀ c ∈ h, c.1.isOpenFile = false) :
    Guarded (OpensOwn slug params) (DownloadAnswer lib slug params) h
      (Gate.serveArtifact lib slug product) := by
  unfold Gate.serveArtifact
  simp only [perform_bind, guarded_call]
  refine ⟨trivial, ?_⟩
  rintro (_ | l')
  · exact .of_poisoned
  have hl₁ := recordRead_append hl [⟨.lock, some l'⟩]
  simp only [guarded_call]
  refine ⟨⟨not_open_concat hnone rfl, l, l', product, hl₁, hproduct, List.mem_concat_self, rfl⟩,
    ?_⟩
  rintro (e | contents)
  · exact .of_err fun _ => missing_ne_fallback e
  simp only
  split
  · constructor
    · intro hresp
      cases hresp
    · intro size disposition contents' hresp
      obtain ⟨rfl, rfl, rfl⟩ := Response.artifact.inj hresp
      exact ⟨l, product, _, recordRead_append hl₁ _, hproduct, List.mem_concat_self, rfl, rfl⟩
  · rename_i hheader
    constructor
    · exact fun _ => ⟨l, product, recordRead_append hl₁ _, hproduct, Bool.not_eq_true _ ▸ hheader⟩
    · intro size disposition contents' hresp
      cases hresp

theorem getDownload_opens (lib : Crates) (slug : String) (params : Gate.DownloadParams) :
    Guarded (OpensOwn slug params) (DownloadAnswer lib slug params) []
      (Gate.getDownload lib slug params) := by
  unfold Gate.getDownload
  apply credentialHash_opens.bind
  rintro h r ⟨hrefused, hresolved⟩
  rcases r with resp | paymentHash
  · exact hrefused resp rfl
  obtain ⟨hlength, hnone⟩ := hresolved paymentHash rfl
  simp only [perform_bind, guarded_call]
  refine ⟨trivial, ?_⟩
  rintro (_ | l)
  · exact .of_poisoned
  simp only
  rcases l.store.getPurchase paymentHash with _ | purchase
  · exact .of_status (by decide)
  simp only
  split
  · exact .of_status (by decide)
  rcases hproduct : l.store.getProduct slug with _ | product
  · exact .of_status (by decide)
  apply (paidOrSettled_opens (not_open_concat hnone rfl)).bind
  rintro h₁ paid ⟨⟨rest, rfl⟩, hnone₁⟩
  split
  · exact .of_status (by decide)
  · exact serveArtifact_opens (recordRead_append (recordRead_now hlength l) rest) hproduct hnone₁

end Handlers

/-! ### Every record names its own file -/

/-- The record is that of an upload for its slug, which has written the body to the file
    that the record names. -/
def PublishedAs (d : Daemon) (τ : List DaemonLabel) (slug : String) (p : ProductRecord) : Prop :=
  ∃ id params auth body, p = Gate.uploadRecord slug params body ∧ validSlug slug = true ∧
    validFormat params.format = true ∧
    .call id (.putProduct slug params auth body)
      ⟨.writeFile (joinPath d.productsDir (Gate.fileNameOf slug params.format)) body,
        .ok ()⟩ ∈ τ

/-- Each record is that of an upload that has written its file. -/
def Published (d : Daemon) (τ : List DaemonLabel) (state : Persisted) : Prop :=
  ∀ slug p, state.products.lookup slug = some p → PublishedAs d τ slug p

/-- Each record was there at the start, or is that of an upload that has written its
    file. -/
def Provided (d : Daemon) (s₀ : Shared) (τ : List DaemonLabel) (state : Persisted) : Prop :=
  ∀ slug p, state.products.lookup slug = some p →
    s₀.store.getProduct slug = some p ∨ PublishedAs d τ slug p

section Runs

variable {d : Daemon} {s₀ : Shared} {τ : List DaemonLabel} {w : DaemonWorld}

theorem Provided.extend {state : Persisted} (h : Provided d s₀ τ state) (l : DaemonLabel) :
    Provided d s₀ (τ ++ [l]) state := by
  intro slug p hp
  apply (h slug p hp).imp_right
  rintro ⟨id, params, auth, body, hrecord, hslug, hformat, hwrite⟩
  exact ⟨id, params, auth, body, hrecord, hslug, hformat, List.mem_append_left _ hwrite⟩

/-- Through failures and restarts. -/
theorem DaemonRun.provided (hopened : Opened d s₀) (hrun : DaemonRun d s₀ τ w)
    (hjson : .restart ∈ τ → d.lib.Lossless) : Kept d (Provided d s₀) τ w.shared := by
  have hbase : DaemonRun d s₀ [] (World.initial s₀) := .refl
  refine Kept.run hopened hbase (Kept.opened hopened ?_) ?_ ?_ hrun hjson
  · exact fun slug p hp => Or.inl hp
  · intro τ state l h
    exact h.extend l
  · intro τ w id job h op k m state ans hr hprovided hthread hjust hop hchange slug p hp
    by_cases hkey : m.productKey = some slug
    · have hrecorded := Mutation.recorded_of_change hchange
      cases m with
      | upsertProduct record =>
        cases op with
        | upsertProduct record' =>
          cases hop
          obtain rfl := Option.some.inj hkey
          obtain rfl := Option.some.inj (hrecorded.symm.trans hp)
          have hpending := hr.upload_pending hthread (Or.inr rfl)
          obtain ⟨slug, params, auth, body, rfl, hadmitted, rfl, ⟨l, hl, hwrite⟩, -⟩ := hpending
          have htraced := hr.traced _ _ hthread
          rw [(hr.housed hopened).snapshots id _ l (htraced.called _ hl)] at hwrite
          exact Or.inr ⟨id, params, auth, body, rfl, hadmitted.validSlug, hadmitted.validFormat,
            List.mem_append_left _ (htraced.called _ hwrite)⟩
        | _ => cases hop
      | createPurchase paymentHash slug' amountMsat createdAt claimToken => cases hkey
      | markPaid paymentHash => cases hkey
    · rw [m.products_of_change hchange hkey] at hp
      exact hprovided.extend _ slug p hp

/-- From an empty registry on. -/
theorem DaemonRun.published (hopened : Opened d s₀) (hempty : s₀.store.state.products = ∅)
    (hrun : DaemonRun d s₀ τ w) (hjson : .restart ∈ τ → d.lib.Lossless) :
    Kept d (Published d) τ w.shared := by
  apply (hrun.provided hopened hjson).mono
  intro state hprovided slug p hp
  rcases hprovided slug p hp with hstart | hpublished
  · unfold Store.getProduct at hstart
    rw [hempty] at hstart
    cases (Finmap.lookup_empty slug).symm.trans hstart
  · exact hpublished

/-- Where the paths of a run lead, and what is answered from them. -/
structure Confined (d : Daemon) (τ : List DaemonLabel) (s : Shared) : Prop where
  apart : ∀ slug slug' p p', s.store.getProduct slug = some p →
    s.store.getProduct slug' = some p' → slug ≠ slug' →
      s.store.artifactPath p ≠ s.store.artifactPath p'
  written : ∀ id slug params auth body path contents ans,
    .call id (.putProduct slug params auth body) ⟨.writeFile path contents, ans⟩ ∈ τ →
      ∃ name, PlainName name ∧ path = d.productsDir ++ "/" ++ name
  opened : ∀ id slug params path ans,
    .call id (.getDownload slug params) ⟨.openFile path, ans⟩ ∈ τ →
      ∃ name, PlainName name ∧ path = d.productsDir ++ "/" ++ name
  /-- A download opens a file that uploads for its slug have written, and only they. -/
  own : ∀ id slug params path ans,
    .call id (.getDownload slug params) ⟨.openFile path, ans⟩ ∈ τ →
      (∃ id' params' auth body,
        .call id' (.putProduct slug params' auth body) ⟨.writeFile path body, .ok ()⟩ ∈ τ) ∧
      ∀ id' slug' params' auth body contents ans',
        .call id' (.putProduct slug' params' auth body) ⟨.writeFile path contents, ans'⟩ ∈ τ →
          slug' = slug
  legal : ∀ slug p, s.store.getProduct slug = some p →
    d.lib.headerValueOk (Gate.contentDisposition slug p.format) = true
  noFallback : ∀ id slug params resp, .answer id (.getDownload slug params) resp ∈ τ →
    resp ≠ fallback

/-- What a write in the trace says about its path. -/
theorem DaemonRun.written (hopened : Opened d s₀) (hrun : DaemonRun d s₀ τ w) {id : Nat}
    {slug : String} {params : Gate.UploadParams} {auth : Option String} {body : ByteArray}
    {path : String} {contents : ByteArray} {ans : Answer (.writeFile path contents)}
    (hwrite : .call id (.putProduct slug params auth body)
      ⟨.writeFile path contents, ans⟩ ∈ τ) :
    validSlug slug = true ∧ validFormat params.format = true ∧
      path = joinPath d.productsDir (Gate.fileNameOf slug params.format) := by
  obtain ⟨h, ⟨-, slug', params', auth', l, hjob, hslug, hformat, hl, hpath⟩, hcalled⟩ :=
    hrun.justified hwrite
  obtain ⟨rfl, rfl, rfl, rfl⟩ := Job.putProduct.inj hjob
  rw [(hrun.housed hopened).snapshots id _ l (hcalled _ hl)] at hpath
  exact ⟨hslug, hformat, hpath⟩

theorem artifact_path {slug format : String} (hslug : validSlug slug = true)
    (hformat : validFormat format = true) :
    ∃ name, PlainName name ∧
      joinPath d.productsDir (Gate.fileNameOf slug format) = d.productsDir ++ "/" ++ name := by
  have hplain := fileNameOf_plain hslug hformat
  exact ⟨_, hplain, productsDir_join d hplain⟩

/-- Two products whose artifacts share a path are one product in one format. -/
theorem artifact_path_inj {slug slug' format format' : String} (hslug : validSlug slug = true)
    (hslug' : validSlug slug' = true) (hformat : validFormat format = true)
    (h : joinPath d.productsDir (Gate.fileNameOf slug format) =
      joinPath d.productsDir (Gate.fileNameOf slug' format')) :
    slug = slug' ∧ format = format' := by
  rw [joinPath_inj (fileNameOf_relative format hslug) (fileNameOf_relative format' hslug')] at h
  exact fileNameOf_inj hslug hslug' hformat h

/-- A `Content-Disposition` of a plain name is printable ASCII. -/
theorem contentDisposition_ok {lib : Crates} {slug format : String}
    (hheader : ∀ text : String, (∀ c ∈ text.toList, 32 ≤ c.toNat ∧ c.toNat < 127) →
      lib.headerValueOk text = true)
    (hslug : validSlug slug = true) (hformat : validFormat format = true) :
    lib.headerValueOk (Gate.contentDisposition slug format) = true := by
  have heq : Gate.contentDisposition slug format =
      "attachment; filename=\"" ++ slug ++ "." ++ format ++ "\"" := rfl
  have hhead : "attachment; filename=\"".toList.all
      (fun c => decide (32 ≤ c.toNat ∧ c.toNat < 127)) = true := by decide
  apply hheader
  rw [heq]
  repeat rw [String.toList_append]
  intro c hc
  repeat rw [List.mem_append] at hc
  rcases hc with (((hc | hc) | hc) | hc) | hc
  · exact of_decide_eq_true (List.all_eq_true.mp hhead c hc)
  · exact (slugChar_plain (validSlug_chars hslug c hc)).2.2.2
  · obtain rfl := List.mem_singleton.mp hc
    decide
  · exact (slugChar_plain ((validFormat_chars hformat).2.2 c hc)).2.2.2
  · obtain rfl := List.mem_singleton.mp hc
    decide

/-- What a download opens belongs to its slug. -/
theorem DaemonRun.opened_own (hopened : Opened d s₀) (hempty : s₀.store.state.products = ∅)
    (hrun : DaemonRun d s₀ τ w) (hjson : .restart ∈ τ → d.lib.Lossless) {id : Nat}
    {slug path : String} {params : Gate.DownloadParams} {ans : Answer (.openFile path)}
    (hopen : .call id (.getDownload slug params) ⟨.openFile path, ans⟩ ∈ τ) :
    ∃ id' params' auth body, validSlug slug = true ∧ validFormat params'.format = true ∧
      path = joinPath d.productsDir (Gate.fileNameOf slug params'.format) ∧
      .call id' (.putProduct slug params' auth body) ⟨.writeFile path body, .ok ()⟩ ∈ τ := by
  obtain ⟨h, k, hreaches, hcalled⟩ := Run.called hrun hopen
  obtain ⟨-, l, l', product, hread, hproduct, hl', rfl⟩ :=
    (getDownload_opens d.lib slug params).pending hreaches
  have hl := recordRead_mem hread
  obtain ⟨id', params', auth, body, rfl, hslug, hformat, hwrite⟩ :=
    (hrun.published hopened hempty hjson).snapshots id _ l (hcalled _ hl) slug product hproduct
  rw [(hrun.housed hopened).snapshots id _ l' (hcalled _ hl')]
  exact ⟨id', params', auth, body, hslug, hformat, rfl, hwrite⟩

theorem DaemonRun.confined (hopened : Opened d s₀) (hempty : s₀.store.state.products = ∅)
    (hrun : DaemonRun d s₀ τ w) (hjson : .restart ∈ τ → d.lib.Lossless)
    (hheader : ∀ text : String, (∀ c ∈ text.toList, 32 ≤ c.toNat ∧ c.toNat < 127) →
      d.lib.headerValueOk text = true) : Confined d τ w.shared := by
  have hpublished := hrun.published hopened hempty hjson
  have hdir := (hrun.housed hopened).dir
  constructor
  · intro slug slug' p p' hp hp' hne hpath
    obtain ⟨_, params, _, body, rfl, hslug, hformat, -⟩ := hpublished.memory slug p hp
    obtain ⟨_, params', _, body', rfl, hslug', -, -⟩ := hpublished.memory slug' p' hp'
    unfold Store.artifactPath at hpath
    rw [hdir] at hpath
    exact hne (artifact_path_inj hslug hslug' hformat hpath).1
  · intro id slug params auth body path contents ans hwrite
    obtain ⟨hslug, hformat, rfl⟩ := hrun.written hopened hwrite
    exact artifact_path hslug hformat
  · intro id slug params path ans hopen
    obtain ⟨_, params', _, body, hslug, hformat, rfl, -⟩ :=
      hrun.opened_own hopened hempty hjson hopen
    exact artifact_path hslug hformat
  · intro id slug params path ans hopen
    obtain ⟨id', params', auth, body, hslug, hformat, rfl, hwrite⟩ :=
      hrun.opened_own hopened hempty hjson hopen
    refine ⟨⟨id', params', auth, body, hwrite⟩, ?_⟩
    intro id'' slug' params'' auth' body' contents ans' hother
    obtain ⟨hslug', -, hpath⟩ := hrun.written hopened hother
    exact (artifact_path_inj hslug hslug' hformat hpath).1.symm
  · intro slug p hp
    obtain ⟨_, params, _, body, rfl, hslug, hformat, -⟩ := hpublished.memory slug p hp
    exact contentDisposition_ok hheader hslug hformat
  · intro id slug params resp hanswer hfallback
    obtain ⟨h, -, hreaches, hcalled⟩ := Run.answered hrun id _ resp hanswer
    obtain ⟨l, product, hread, hproduct, hfalse⟩ :=
      ((getDownload_opens d.lib slug params).result hreaches).fallback hfallback
    have hl := recordRead_mem hread
    obtain ⟨_, params', _, body, rfl, hslug, hformat, -⟩ :=
      hpublished.snapshots id _ l (hcalled _ hl) slug product hproduct
    have hok := contentDisposition_ok hheader hslug hformat
    exact absurd (hfalse.symm.trans hok) (by decide)

/-- Artifact names are plain and never those of the index, they determine slug and format,
    and in every run from an empty registry, through failures and restarts, each path stays
    in the products directory, each download opens a file of its own slug, and the header
    of each response can be built. -/
theorem artifacts_confined (hopened : Opened d s₀) (hempty : s₀.store.state.products = ∅)
    (hrun : DaemonRun d s₀ τ w) (hjson : .restart ∈ τ → d.lib.Lossless)
    (hheader : ∀ text : String, (∀ c ∈ text.toList, 32 ≤ c.toNat ∧ c.toNat < 127) →
      d.lib.headerValueOk text = true) :
    (∀ slug format, validSlug slug = true → validFormat format = true →
      PlainName (Gate.fileNameOf slug format) ∧ Gate.fileNameOf slug format ≠ "index.json" ∧
        Gate.fileNameOf slug format ≠ "index.json.tmp") ∧
      (∀ slug slug' format format', validSlug slug = true → validSlug slug' = true →
        validFormat format = true → validFormat format' = true →
        Gate.fileNameOf slug format = Gate.fileNameOf slug' format' →
          slug = slug' ∧ format = format') ∧
      Confined d τ w.shared := by
  refine ⟨?_, ?_, hrun.confined hopened hempty hjson hheader⟩
  · intro slug format hslug hformat
    exact ⟨fileNameOf_plain hslug hformat, fileNameOf_ne_index hslug hformat⟩
  · intro slug slug' format format' hslug hslug' hformat _ hname
    exact fileNameOf_inj hslug hslug' hformat hname

end Runs

/-! ### The first upload -/

namespace Sample

/-- The daemon has come up on an empty products directory. -/
def blank : Shared := ⟨⟨dir, default⟩, fun _ => none, false, []⟩

/-- An empty ledger has nothing to iterate over. -/
theorem blank_values : (([] : List PurchaseRecord) : Multiset PurchaseRecord) =
    (default : Persisted).purchases.entries.map Sigma.snd := rfl

def blankLocked : Locked := ⟨⟨dir, default⟩, [], blank_values⟩

/-- Any daemon on this directory comes up so. -/
theorem opened_empty {d : Daemon} (hdata : d.dataDir = dataDir) : Opened d blank := by
  have hdir : joinPath dataDir "products" = dir := by decide
  refine ⟨?_, rfl⟩
  rw [hdata]
  show Except.ok ⟨joinPath dataDir "products", default⟩ = Except.ok blank.store
  rw [hdir]
  rfl

theorem opened_blank (header : SignedHeader) : Opened (daemon header) blank := opened_empty rfl

def firstUpload : Job := uploadRequest 5000

/-- The file has been written. -/
def afterWrite : Shared :=
  { blank with files := blank.files.write "/data/products/midnight.flac" body }

/-- The calls of the upload up to the write of its file. -/
def checkedCalls : List DaemonCall := [⟨.nowSecs, 1700000030⟩, ⟨.lock, some blankLocked⟩]

theorem joinPath_midnight : joinPath dir "midnight.flac" = "/data/products/midnight.flac" := by
  decide

theorem firstUpload_reaches :
    Reaches ((system (daemon upload)).program firstUpload) checkedCalls
      (.call (.writeFile "/data/products/midnight.flac" body)
        (registerUpload "midnight" ⟨"Midnight", 5000, none, "flac"⟩ body)) := by
  have hreaches := (@upload_authorized 1700000030 (by decide)).reaches
    ⟨"Midnight", 5000, none, "flac"⟩ rfl (by decide) blankLocked
  have hname : Gate.fileNameOf "midnight" "flac" = "midnight.flac" := rfl
  rw [hname, show blankLocked.store.dir = dir from rfl, joinPath_midnight] at hreaches
  exact hreaches

theorem firstUpload_performs : Performs (system (daemon upload)) blank checkedCalls blank :=
  ⟨blank, rfl, blank, act_lock_healthy (d := daemon upload) rfl rfl, rfl⟩

theorem headerValueOk_printable (header : SignedHeader) (text : String)
    (h : ∀ c ∈ text.toList, 32 ≤ c.toNat ∧ c.toNat < 127) :
    (crates header).headerValueOk text = true := by
  simp only [crates, List.all_eq_true, Bool.or_eq_true, Bool.and_eq_true, decide_eq_true_eq]
  intro c hc
  have hrange := h c hc
  exact Or.inl ⟨hrange.1, by omega⟩

end Sample

/-- The write of the first artifact is a step of the upload that the artist signed. -/
theorem catalog_changes_signed_upload : ∃ τ l,
    AdmittedCall (Sample.daemon Sample.upload) τ l ∧
      l = .call 0 Sample.firstUpload
        ⟨.writeFile "/data/products/midnight.flac" Sample.body, .ok ()⟩ := by
  have hinitial : DaemonRun (Sample.daemon Sample.upload) Sample.blank []
    (World.initial Sample.blank) := .refl
  obtain ⟨w, hrun, hshared, -, hthread⟩ :=
    hinitial.perform Sample.firstUpload_reaches Sample.firstUpload_performs
  have hwrite : (system (Sample.daemon Sample.upload)).act w.shared
      (.writeFile "/data/products/midnight.flac" Sample.body) (.ok ()) Sample.afterWrite := by
    rw [hshared]
    exact Or.inl ⟨rfl, rfl⟩
  rcases catalog_changes_signed (Sample.opened_blank Sample.upload) hrun (.call hthread hwrite)
    (by simp) with hsame | hadmitted
  · have hfile := hsame.files "/data/products/midnight.flac" (by decide) (by decide)
    rw [hshared] at hfile
    have hcontents : Sample.afterWrite.files "/data/products/midnight.flac" = some Sample.body :=
      Files.write_same Sample.blank.files "/data/products/midnight.flac" Sample.body
    cases hcontents.symm.trans hfile
  · exact ⟨_, _, hadmitted, rfl⟩

/-! ### Two tracks -/

namespace Sample

def dawnEvent : Event where
  id := ⟨#[98, 119, 17, 26, 215, 78, 20, 219, 181, 65, 23, 28, 249, 143, 204, 234, 112, 86, 7, 175,
    195, 102, 51, 60, 33, 163, 209, 11, 220, 140, 7, 159]⟩
  pubkey := artistKey
  createdAt := 1700000020
  kind := 27235
  tags := [["u", "https://node.example.com/products/dawn"], ["method", "PUT"],
    ["payload", "a40ff3d5900fb7698b8c865041347cb49eccedc8f93945f89629ad104aaecce4"]]
  content := ""
  sig := ⟨#[100, 132, 46, 63, 233, 190, 167, 221, 242, 241, 169, 5, 148, 39, 62, 206, 25, 214, 183,
    214, 209, 238, 114, 92, 36, 30, 238, 183, 220, 108, 58, 157, 164, 128, 204, 149, 127, 223, 123,
    238, 178, 5, 216, 231, 184, 147, 60, 153, 228, 162, 63, 172, 23, 78, 228, 72, 97, 246, 164, 50,
    194, 73, 241, 84]⟩

def dawnJson : String :=
  "\x7b\"id\":\"6277111ad74e14dbb541171cf98fccea705607afc366333c21a3d10bdc8c079f\",\"pu" ++
  "bkey\":\"f9308a019258c31049344f85f89d5229b531c845836f99b08601f113bce036f9\",\"create" ++
  "d_at\":1700000020,\"kind\":27235,\"tags\":[[\"u\",\"https://node.example.com/product" ++
  "s/dawn\"],[\"method\",\"PUT\"],[\"payload\",\"a40ff3d5900fb7698b8c865041347cb49ecced" ++
  "c8f93945f89629ad104aaecce4\"]],\"content\":\"\",\"sig\":\"64842e3fe9bea7ddf2f1a90594" ++
  "273ece19d6b7d6d1ee725c241eeeb7dc6c3a9da480cc957fdf7beeb205d8e7b8933c99e4a23fac174ee4" ++
  "4861f6a432c249f154\"\x7d"

def dawnBase64 : String :=
  "eyJp" ++ ("ZCI6IjYyNzcxMTFhZDc0ZTE0ZGJiNTQxMTcxY2Y5OGZjY2VhNzA1NjA3YWZjMzY2MzMzYzIxYTNkMTBiZGM4" ++
  "YzA3OWYiLCJwdWJrZXkiOiJmOTMwOGEwMTkyNThjMzEwNDkzNDRmODVmODlkNTIyOWI1MzFjODQ1ODM2Zjk5" ++
  "YjA4NjAxZjExM2JjZTAzNmY5IiwiY3JlYXRlZF9hdCI6MTcwMDAwMDAyMCwia2luZCI6MjcyMzUsInRhZ3Mi" ++
  "OltbInUiLCJodHRwczovL25vZGUuZXhhbXBsZS5jb20vcHJvZHVjdHMvZGF3biJdLFsibWV0aG9kIiwiUFVU" ++
  "Il0sWyJwYXlsb2FkIiwiYTQwZmYzZDU5MDBmYjc2OThiOGM4NjUwNDEzNDdjYjQ5ZWNjZWRjOGY5Mzk0NWY4" ++
  "OTYyOWFkMTA0YWFlY2NlNCJdXSwiY29udGVudCI6IiIsInNpZyI6IjY0ODQyZTNmZTliZWE3ZGRmMmYxYTkw" ++
  "NTk0MjczZWNlMTlkNmI3ZDZkMWVlNzI1YzI0MWVlZWI3ZGM2YzNhOWRhNDgwY2M5NTdmZGY3YmVlYjIwNWQ4" ++
  "ZTdiODkzM2M5OWU0YTIzZmFjMTc0ZWU0NDg2MWY2YTQzMmMyNDlmMTU0" ++
  "In0=")

def dawnHeader : SignedHeader := ⟨dawnBase64, dawnJson, dawnEvent⟩

/-- The bytes `RIFF`. -/
def dawnBody : ByteArray := ⟨#[82, 73, 70, 70]⟩

/-- Their SHA-256. -/
def dawnHash : ByteArray :=
  ⟨#[164, 15, 243, 213, 144, 15, 183, 105, 139, 140, 134, 80, 65, 52, 124, 180, 158, 204, 237, 200,
    249, 57, 69, 248, 150, 41, 173, 16, 74, 174, 204, 228]⟩

/-- The other crates, as they behave on two headers and on the two bodies signed by them. -/
def pairCrates (first second : SignedHeader) (json : SerdeJson) (bytes hash : ByteArray) : Crates :=
  { crates first with
    toSerdeJson := json
    base64Decode := fun text =>
      if text = second.base64 then some second.json.toUTF8 else (crates first).base64Decode text
    eventFromJson := fun text =>
      if text = second.json then .ok second.event else (crates first).eventFromJson text
    eventVerify := fun event => decide (event = second.event) || (crates first).eventVerify event
    sha256 := fun body => if body = bytes then hash else sha256 body }

/-- The daemon of an artist who uploads the track and something else. -/
def pairDaemon (second : SignedHeader) (json : SerdeJson) (bytes hash : ByteArray) : Daemon :=
  { daemon upload with lib := pairCrates upload second json bytes hash }

section Pair

variable {first second : SignedHeader} {json : SerdeJson} {bytes hash : ByteArray}

theorem authEvent_first (htrim : trim first.base64 = first.base64)
    (hbase64 : first.base64 ≠ second.base64) (hjson : first.json ≠ second.json) :
    Nip98.authEvent (pairCrates first second json bytes hash).toNostrCrates
      ("Nostr " ++ first.base64) = .ok first.event := by
  have hstrip : stripPrefix "Nostr " ("Nostr " ++ first.base64) = some first.base64 :=
    stripPrefix_eq_some.mpr rfl
  have hdecode : (pairCrates first second json bytes hash).base64Decode first.base64 =
      some first.json.toUTF8 := (if_neg hbase64).trans (if_pos rfl)
  have hevent : (pairCrates first second json bytes hash).eventFromJson first.json =
      .ok first.event := (if_neg hjson).trans (if_pos rfl)
  unfold Nip98.authEvent
  simp only [hstrip, htrim, hdecode, fromUTF8_toUTF8, hevent]

theorem authEvent_second (htrim : trim second.base64 = second.base64) :
    Nip98.authEvent (pairCrates first second json bytes hash).toNostrCrates
      ("Nostr " ++ second.base64) = .ok second.event := by
  have hstrip : stripPrefix "Nostr " ("Nostr " ++ second.base64) = some second.base64 :=
    stripPrefix_eq_some.mpr rfl
  have hdecode : (pairCrates first second json bytes hash).base64Decode second.base64 =
      some second.json.toUTF8 := if_pos rfl
  have hevent : (pairCrates first second json bytes hash).eventFromJson second.json =
      .ok second.event := if_pos rfl
  unfold Nip98.authEvent
  simp only [hstrip, htrim, hdecode, fromUTF8_toUTF8, hevent]

/-- The daemon takes the upload of the track. -/
theorem pair_authorizes_upload (hbase64 : uploadBase64 ≠ second.base64)
    (hjson : uploadJson ≠ second.json) (hbytes : body ≠ bytes) :
    UploadAuthorized (pairDaemon second json bytes hash) ("Nostr " ++ uploadBase64) "midnight" body
      1700000030 := by
  have hdecodes := @authEvent_first upload second json bytes hash trim_upload hbase64 hjson
  have hverifies : (pairCrates upload second json bytes hash).eventVerify uploadEvent = true :=
    (congrArg (_ || ·) eventVerify_crates).trans (Bool.or_true _)
  have hsha : (pairCrates upload second json bytes hash).sha256 body = sha256 body := if_neg hbytes
  have hhash : bodyHash (pairCrates upload second json bytes hash) body =
      "70bf93310284b039f237e82db4407df3e3ca642fac2b9ebb02973764424c7418" := by
    unfold bodyHash
    rw [hsha]
    show Hex.encode (sha256 body) = _
    decide
  have hpayload : Nip98.tagValue uploadEvent "payload" =
      some (bodyHash (pairCrates upload second json bytes hash) body) := by
    rw [hhash]
    decide
  have hurl : Nip98.tagValue uploadEvent "u" =
      some (Gate.uploadUrl (daemon upload).gateState "midnight") := by decide
  exact .of_signed (by decide) (by decide) rfl hdecodes hverifies rfl hurl (by decide) (by decide)
    hpayload rfl

/-- The daemon takes what the second header is for. -/
theorem pair_authorizes_second {slug : String} (htrim : trim second.base64 = second.base64)
    (hslug : validSlug slug = true) (hbytes : bytes.size ≠ 0)
    (hkind : second.event.kind = Nip98.httpAuth)
    (hurl : Nip98.tagValue second.event "u" = some (Gate.uploadUrl (daemon upload).gateState slug))
    (hmethod : Nip98.tagValue second.event "method" = some "PUT")
    (hfresh : Nip98.outsideWindow second.event.createdAt 1700000030 = false)
    (hpayload : Nip98.tagValue second.event "payload" = some (Hex.encode hash))
    (hsigner : second.event.pubkey = artistKey) :
    UploadAuthorized (pairDaemon second json bytes hash) ("Nostr " ++ second.base64) slug bytes
      1700000030 := by
  have hdecodes := @authEvent_second upload second json bytes hash htrim
  have hverifies : (pairCrates upload second json bytes hash).eventVerify second.event = true :=
    (congrArg (· || _) (decide_eq_true rfl)).trans (Bool.true_or _)
  have hsha : (pairCrates upload second json bytes hash).sha256 bytes = hash := if_pos rfl
  have hsigned : Nip98.tagValue second.event "payload" =
      some (bodyHash (pairCrates upload second json bytes hash) bytes) := by
    unfold bodyHash
    rw [hsha]
    exact hpayload
  exact .of_signed hslug hbytes rfl hdecodes hverifies hkind hurl hmethod hfresh hsigned hsigner

end Pair

def dawn : ProductRecord := ⟨"dawn", "Dawn", 3000, none, "wav", "dawn.wav", 4⟩

def album : Persisted := listed.upsertProduct dawn

def albumSold : Persisted := album.createPurchase sale

def albumSettled : Persisted := albumSold.setPaid hash sale

/-- The index with both tracks, up to the purchases. -/
def albumHead : String :=
  "\x7b\n  \"products\": \x7b\n    \"dawn\": \x7b\n      \"slug\": \"dawn\",\n      \"t" ++
  "itle\": \"Dawn\",\n      \"price_sats\": 3000,\n      \"floor_sats\": null,\n" ++
  "      \"format\": \"wav\",\n      \"file_name\": \"dawn.wav\",\n" ++
  "      \"size_bytes\": 4\n    \x7d,\n    \"midnight\": \x7b\n" ++
  "      \"slug\": \"midnight\",\n      \"title\": \"Midnight\",\n" ++
  "      \"price_sats\": 5000,\n      \"floor_sats\": null,\n" ++
  "      \"format\": \"flac\",\n      \"file_name\": \"midnight.flac\",\n" ++
  "      \"size_bytes\": 4\n    \x7d\n  \x7d,\n  \"purchases\": "

def albumText (purchases : String) : String := albumHead ++ (purchases ++ "\n\x7d")

def albumJson : SerdeJson :=
  .ofTable [(listed, indexText "\x7b\x7d"), (album, albumText "\x7b\x7d"),
    (albumSold, albumText (saleText "false")), (albumSettled, albumText (saleText "true"))]

/-- The daemon of the artist with both tracks. -/
def release : Daemon := pairDaemon dawnHeader albumJson dawnBody dawnHash

theorem albumText_inj {a b : String} : albumText a = albumText b ↔ a = b := by
  unfold albumText
  rw [String.append_right_inj, String.append_left_inj]

theorem indexText_ne_albumText (a b : String) : indexText a ≠ albumText b := by
  unfold indexText indexHead albumText albumHead
  repeat rw [String.append_assoc]
  apply append_ne_append
  · decide
  · decide

theorem release_lossless : release.lib.Lossless := by
  apply SerdeJson.lossless_ofTable
  simp only [List.map_cons, List.map_nil, List.nodup_cons, List.mem_cons, indexText_ne_albumText,
    albumText_inj, saleText_inj, saleText_ne_empty]
  decide

theorem trim_dawn : trim dawnHeader.base64 = dawnHeader.base64 := by
  have hhead : dawnHeader.base64.toList.head? = some 'e' := by
    simp only [dawnHeader, dawnBase64, String.toList_append]
    rfl
  have hlast : dawnHeader.base64.toList.getLast? = some '=' := by
    simp only [dawnHeader, dawnBase64, String.toList_append, List.getLast?_append]
    rfl
  exact trim_eq_self hhead hlast (by decide) (by decide)

theorem uploadBase64_ne_dawn : uploadBase64 ≠ dawnBase64 := by
  unfold uploadBase64 dawnBase64
  rw [Ne, String.append_right_inj]
  repeat rw [String.append_assoc]
  apply append_ne_append
  · decide
  · decide

theorem uploadJson_ne_dawn : uploadJson ≠ dawnJson := by
  unfold uploadJson dawnJson
  repeat rw [String.append_assoc]
  apply append_ne_append
  · decide
  · decide

theorem release_authorizes_dawn :
    UploadAuthorized release ("Nostr " ++ dawnHeader.base64) "dawn" dawnBody 1700000030 := by
  have hurl : Nip98.tagValue dawnEvent "u" =
      some (Gate.uploadUrl (daemon upload).gateState "dawn") := by decide
  have hpayload : Nip98.tagValue dawnEvent "payload" = some (Hex.encode dawnHash) := by decide
  exact pair_authorizes_second trim_dawn (by decide) (by decide) rfl hurl (by decide) (by decide)
    hpayload rfl

def dawnUpload : Job :=
  .putProduct "dawn" ⟨"Dawn", 3000, none, "wav"⟩ (some ("Nostr " ++ dawnHeader.base64))
    dawnBody

theorem album_values : (([] : List PurchaseRecord) : Multiset PurchaseRecord) =
    album.purchases.entries.map Sigma.snd := rfl

theorem albumSold_values : (([sale] : List PurchaseRecord) : Multiset PurchaseRecord) =
    albumSold.purchases.entries.map Sigma.snd := rfl

theorem albumSettled_values :
    (([{ sale with paid := true }] : List PurchaseRecord) : Multiset PurchaseRecord) =
      albumSettled.purchases.entries.map Sigma.snd := rfl

def albumLocked : Locked := ⟨⟨dir, album⟩, [], album_values⟩

def albumSoldLocked : Locked := ⟨⟨dir, albumSold⟩, [sale], albumSold_values⟩

def albumSettledLocked : Locked :=
  ⟨⟨dir, albumSettled⟩, [{ sale with paid := true }], albumSettled_values⟩

/-- The first track has been uploaded. -/
def trackListed : Shared := afterWrite.mutate albumJson (.upsertProduct midnight) ⟨0, none⟩

/-- The file of the second track has been written. -/
def dawnWritten : Shared :=
  { trackListed with files := trackListed.files.write "/data/products/dawn.wav" dawnBody }

/-- Both tracks have been uploaded. -/
def albumListed : Shared := dawnWritten.mutate albumJson (.upsertProduct dawn) ⟨0, none⟩

/-- The first track has been sold and paid. -/
def albumPaid : Shared :=
  { albumListed.mutate albumJson createSale ⟨0, none⟩ with payments := paidList }

/-- The sale has been marked as paid. -/
def albumServed : Shared := albumPaid.mutate albumJson markSale ⟨0, none⟩

/-- The calls of an upload that succeeds. -/
def uploadCalls (l : Locked) (path : String) (bytes : ByteArray) (record : ProductRecord) :
    List DaemonCall :=
  [⟨.nowSecs, 1700000030⟩, ⟨.lock, some l⟩, ⟨.writeFile path bytes, .ok ()⟩,
    ⟨.upsertProduct record, some (.ok ())⟩]

def trackCalls : List DaemonCall :=
  uploadCalls blankLocked "/data/products/midnight.flac" body midnight

def dawnCalls : List DaemonCall :=
  uploadCalls (locked midnight) "/data/products/dawn.wav" dawnBody dawn

def albumSaleCalls : List DaemonCall :=
  saleHistory release.lib "midnight" (5000 * 1000) description albumLocked [wideChannel] invoice
    tokenBytes 1700000000

def albumDownloadCalls : List DaemonCall :=
  downloadHistory albumSoldLocked albumSettledLocked paidList hash "midnight.flac" body

theorem track_executes : Executes (system release) firstUpload blank trackCalls
    (.productCreated "midnight") trackListed := by
  have hauthorized : UploadAuthorized release ("Nostr " ++ uploadBase64) "midnight" body
      1700000030 := pair_authorizes_upload uploadBase64_ne_dawn uploadJson_ne_dawn (by decide)
  have hcreated := hauthorized.created ⟨"Midnight", 5000, none, "flac"⟩ rfl (by decide) blankLocked
  have hpath : joinPath blankLocked.store.dir (Gate.fileNameOf "midnight" "flac") =
      "/data/products/midnight.flac" := by decide
  rw [hpath] at hcreated
  have hlock : act release blank .lock (some blankLocked) blank := act_lock_healthy rfl rfl
  exact ⟨hcreated, blank, rfl, blank, hlock, afterWrite, Or.inl ⟨rfl, rfl⟩, trackListed,
    Or.inr ⟨rfl, ⟨0, none⟩, rfl, rfl⟩, rfl⟩

theorem dawn_executes : Executes (system release) dawnUpload trackListed dawnCalls
    (.productCreated "dawn") albumListed := by
  have hcreated := release_authorizes_dawn.created ⟨"Dawn", 3000, none, "wav"⟩ rfl (by decide)
    (locked midnight)
  have hpath : joinPath (locked midnight).store.dir (Gate.fileNameOf "dawn" "wav") =
      "/data/products/dawn.wav" := by decide
  rw [hpath] at hcreated
  have hlock : act release trackListed .lock (some (locked midnight)) trackListed :=
    act_lock_healthy rfl rfl
  exact ⟨hcreated, trackListed, rfl, trackListed, hlock, dawnWritten, Or.inl ⟨rfl, rfl⟩,
    albumListed, Or.inr ⟨rfl, ⟨0, none⟩, rfl, rfl⟩, rfl⟩

theorem albumSale_executes : Executes (system release) saleRequest albumListed albumSaleCalls
    saleAnswer (albumListed.mutate albumJson createSale ⟨0, none⟩) := by
  have hamount : Gate.resolveAmount midnight.priceSats midnight.floorSats
      ((some (⟨none⟩ : Gate.InvoiceRequest)).bind (·.amountSats)) = .ok 5000 := rfl
  have hdesc : release.lib.descriptionNew (Gate.saleDescription release.gateState midnight.title) =
      some description := by
    show (crates upload).descriptionNew
      (Gate.saleDescription (daemon upload).gateState "Midnight") = some description
    decide
  have hp : albumLocked.store.getProduct "midnight" = some midnight := rfl
  have hreaches : Reaches (Gate.postInvoice release.lib release.gateState "midnight" (some ⟨none⟩))
      albumSaleCalls (.done (.purchaseInvoice ⟨invoice.bolt11, Hex.encode invoice.paymentHash, 5000,
        Gate.INVOICE_EXPIRY_SECS, Hex.encode tokenBytes⟩)) :=
    postInvoice_reaches hp hamount (by decide) hdesc (by decide)
  simp only [invoice, encode_paymentHash, encode_tokenBytes] at hreaches
  have hlock : act release albumListed .lock (some albumLocked) albumListed :=
    act_lock_healthy rfl rfl
  have hcreate : act release albumListed (.createPurchase (Hex.encode paymentHash) "midnight"
      (5000 * 1000) 1700000000 (Hex.encode tokenBytes)) (some (.ok ()))
      (albumListed.mutate albumJson createSale ⟨0, none⟩) := by
    rw [encode_paymentHash, encode_tokenBytes]
    exact Or.inr ⟨rfl, ⟨0, none⟩, rfl, rfl⟩
  exact ⟨hreaches, _, hlock, _, rfl, _, rfl, _, rfl, _, rfl, _, hcreate, rfl⟩

/-- A mutator leaves the file of the track alone. -/
theorem mutate_artifact {s : Shared} (hdir : s.store.dir = dir) (json : SerdeJson) (m : Mutation) :
    (s.mutate json m ⟨0, none⟩).files "/data/products/midnight.flac" =
      s.files "/data/products/midnight.flac" := by
  have htmp : "/data/products/midnight.flac" ≠ s.store.tmpPath := by
    unfold Store.tmpPath
    rw [hdir]
    decide
  have hindex : "/data/products/midnight.flac" ≠ s.store.indexPath := by
    unfold Store.indexPath
    rw [hdir]
    decide
  exact m.run_other json ⟨0, none⟩ s.store s.files htmp hindex

theorem albumServed_artifact :
    albumServed.files "/data/products/midnight.flac" = some body := by
  have hmarked : albumServed.files "/data/products/midnight.flac" =
      (albumListed.mutate albumJson createSale ⟨0, none⟩).files "/data/products/midnight.flac" :=
    mutate_artifact (s := albumPaid) rfl albumJson markSale
  have hsold := mutate_artifact (s := albumListed) rfl albumJson createSale
  have hlisted : albumListed.files "/data/products/midnight.flac" =
      dawnWritten.files "/data/products/midnight.flac" := mutate_artifact rfl albumJson _
  have hne : "/data/products/midnight.flac" ≠ "/data/products/dawn.wav" := by decide
  have hwritten : dawnWritten.files "/data/products/midnight.flac" =
      trackListed.files "/data/products/midnight.flac" :=
    @Files.write_other trackListed.files _ _ dawnBody hne
  have hfirst : trackListed.files "/data/products/midnight.flac" =
      afterWrite.files "/data/products/midnight.flac" := mutate_artifact rfl albumJson _
  have hbody : afterWrite.files "/data/products/midnight.flac" = some body :=
    Files.write_same blank.files "/data/products/midnight.flac" body
  calc albumServed.files "/data/products/midnight.flac"
      = albumListed.files "/data/products/midnight.flac" := hmarked.trans hsold
    _ = trackListed.files "/data/products/midnight.flac" := hlisted.trans hwritten
    _ = some body := hfirst.trans hbody

theorem albumDownload_executes : Executes (system release) downloadRequest albumPaid
    albumDownloadCalls downloadAnswer albumServed := by
  have hclaim : albumSoldLocked.getPurchaseByClaim token = some sale := rfl
  have hproduct : albumSoldLocked.store.getProduct "midnight" = some midnight := rfl
  have hsettled : Gate.settledOnNode release.lib paidList hash = true :=
    settledOnNode_iff.mpr settled_paidList
  have hheader : release.lib.headerValueOk (Gate.contentDisposition "midnight" midnight.format) =
      true := by
    show (crates upload).headerValueOk (Gate.contentDisposition "midnight" "flac") = true
    decide
  have hreaches : Reaches (Gate.getDownload release.lib "midnight" ⟨none, some token⟩)
      albumDownloadCalls (.done downloadAnswer) :=
    getDownload_reaches hclaim rfl rfl hproduct rfl hsettled hheader
  have hlock : act release albumPaid .lock (some albumSoldLocked) albumPaid :=
    act_lock_healthy rfl rfl
  have hmark : act release albumPaid (.markPaid hash) (some (.ok true)) albumServed :=
    Or.inr ⟨rfl, ⟨0, none⟩, rfl, rfl⟩
  have hlocked : act release albumServed .lock (some albumSettledLocked) albumServed :=
    act_lock_healthy rfl rfl
  have hopen : act release albumServed
      (.openFile (joinPath albumSettledLocked.store.dir "midnight.flac")) (.ok body)
      albumServed := by
    refine ⟨rfl, ?_⟩
    intro contents hcontents
    obtain rfl := Except.ok.inj hcontents
    rw [show joinPath albumSettledLocked.store.dir "midnight.flac" =
      "/data/products/midnight.flac" from joinPath_midnight]
    exact albumServed_artifact
  exact ⟨hreaches, _, hlock, _, hlock, _, ⟨rfl, rfl⟩, _, hmark, _, hlocked, _, hopen, rfl⟩

/-- Two uploads, a sale of the first track, its payment and its download. -/
def albumTrace : List DaemonLabel :=
  served 0 firstUpload trackCalls (.productCreated "midnight") ++
    served 1 dawnUpload dawnCalls (.productCreated "dawn") ++
    served 2 saleRequest albumSaleCalls saleAnswer ++ [.env (.payments paidList)] ++
    served 3 downloadRequest albumDownloadCalls downloadAnswer

theorem album_run : ∃ w, DaemonRun release blank albumTrace w ∧ w.shared = albumServed := by
  have hinitial : DaemonRun release blank [] (World.initial blank) := .refl
  obtain ⟨w₁, hrun₁, hshared₁, hnext₁⟩ := track_executes.serve hinitial
  have hdawn := dawn_executes
  rw [← hshared₁] at hdawn
  obtain ⟨w₂, hrun₂, hshared₂, hnext₂⟩ := hdawn.serve hrun₁
  have hsale := albumSale_executes
  rw [← hshared₂] at hsale
  obtain ⟨w₃, hrun₃, hshared₃, hnext₃⟩ := hsale.serve hrun₂
  have henv : (system release).env w₃.shared (.payments paidList) albumPaid := by
    rw [hshared₃, hshared₂]
    rfl
  have hrun₄ := hrun₃.snoc (.env henv)
  obtain ⟨w₅, hrun₅, hshared₅, -⟩ :=
    Executes.serve (w := { w₃ with shared := albumPaid }) albumDownload_executes hrun₄
  have hzero : (World.initial blank : DaemonWorld).next = 0 := rfl
  simp only [hnext₃, hnext₂, hnext₁, hzero] at hrun₅
  exact ⟨w₅, hrun₅, hshared₅⟩

end Sample

/-- Two tracks are uploaded, and one of them is sold and downloaded. -/
theorem artifacts_confined_album :
    Confined Sample.release Sample.albumTrace Sample.albumServed ∧
      .call 3 Sample.downloadRequest ⟨.openFile "/data/products/midnight.flac", .ok Sample.body⟩ ∈
        Sample.albumTrace := by
  obtain ⟨w, hrun, hshared⟩ := Sample.album_run
  rw [← hshared]
  have hconfined := (artifacts_confined (Sample.opened_empty rfl) rfl hrun
    (fun _ => Sample.release_lossless) (Sample.headerValueOk_printable Sample.upload)).2.2
  refine ⟨hconfined, ?_⟩
  have hpath : joinPath Sample.albumSettledLocked.store.dir "midnight.flac" =
      "/data/products/midnight.flac" := Sample.joinPath_midnight
  simp [Sample.albumTrace, served, Sample.albumDownloadCalls, downloadHistory, hpath]

end ArtistNode
