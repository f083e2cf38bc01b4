import ArtistNode.Base.Hex
import ArtistNode.Durability
import ArtistNode.Justification

/-!
# What a signed header authorizes

The seven signed endpoints. A header binds the endpoint, its path and its body,
and it expires; what it does not bind is the query of an upload.
-/

namespace ArtistNode

open Base

/-! ### Passed checks -/

/-- What a passed check says in terms of the router and the header. -/
theorem Checked.authorizes {d : Daemon} {job : Job} {h : List DaemonCall}
    (hchecked : Checked d job h) :
    ∃ method path auth body key now event,
      job.route = some (method, path) ∧ job.signed d = some (some auth, body, some key) ∧
      ⟨.nowSecs, now⟩ ∈ h ∧
      Nip98.Authorizes d.lib.toNostrCrates auth method (Gate.trimSlashes d.publicUrl ++ path)
        (body.map (bodyHash d.lib)) key now event := by
  obtain ⟨check, now, hcheck, hnow, hpasses⟩ := hchecked
  unfold Job.check at hcheck
  split at hcheck
  · rename_i method path auth body key hroute hsigned
    obtain rfl := Option.some.inj hcheck
    obtain ⟨auth', key', event, hauth, hkey, hauthorizes⟩ := hpasses
    obtain rfl : auth = some auth' := hauth
    obtain rfl : key = some key' := hkey
    exact ⟨method, path, auth', body, key', now, event, hroute, hsigned, hnow, hauthorizes⟩
  · cases hcheck

/-! ### A daemon for the examples

Two headers as the signing helper prints them: one uploads the four bytes `fLaC`
as `midnight`, the other asks for a funding address. -/

/-- A header, the JSON in it and the event that the JSON encodes. -/
structure SignedHeader where
  base64 : String
  json : String
  event : Event

namespace Sample

def artistKey : PublicKey :=
  ⟨⟨#[249, 48, 138, 1, 146, 88, 195, 16, 73, 52, 79, 133, 248, 157, 82, 41, 181, 49, 200, 69, 131,
    111, 153, 176, 134, 1, 241, 19, 188, 224, 54, 249]⟩⟩

def operatorKey : PublicKey :=
  ⟨⟨#[47, 139, 222, 77, 26, 7, 32, 147, 85, 180, 167, 37, 10, 92, 81, 40, 232, 139, 132, 189, 220,
    97, 154, 183, 203, 168, 213, 105, 178, 64, 239, 228]⟩⟩

def uploadEvent : Event where
  id := ⟨#[223, 182, 47, 196, 61, 115, 85, 151, 70, 152, 143, 98, 172, 177, 136, 209, 14, 34, 79, 203,
    9, 68, 82, 195, 35, 238, 79, 84, 180, 109, 97, 68]⟩
  pubkey := artistKey
  createdAt := 1700000000
  kind := 27235
  tags := [["u", "https://node.example.com/products/midnight"], ["method", "PUT"],
    ["payload", "70bf93310284b039f237e82db4407df3e3ca642fac2b9ebb02973764424c7418"]]
  content := ""
  sig := ⟨#[234, 118, 202, 175, 66, 168, 107, 47, 42, 156, 181, 19, 155, 159, 36, 25, 14, 78, 83, 146,
    207, 16, 97, 6, 4, 31, 15, 79, 80, 106, 93, 6, 139, 244, 67, 104, 155, 209, 253, 172, 23,
    202, 121, 72, 135, 149, 107, 92, 131, 13, 111, 128, 207, 225, 155, 137, 228, 167, 210, 79,
    246, 187, 16, 248]⟩

def uploadJson : String :=
  "\x7b\"id\":\"dfb62fc43d73559746988f62acb188d10e224fcb094452c323ee4f54b46d6144\",\"pu" ++
  "bkey\":\"f9308a019258c31049344f85f89d5229b531c845836f99b08601f113bce036f9\",\"create" ++
  "d_at\":1700000000,\"kind\":27235,\"tags\":[[\"u\",\"https://node.example.com/product" ++
  "s/midnight\"],[\"method\",\"PUT\"],[\"payload\",\"70bf93310284b039f237e82db4407df3e3" ++
  "ca642fac2b9ebb02973764424c7418\"]],\"content\":\"\",\"sig\":\"ea76caaf42a86b2f2a9cb5" ++
  "139b9f24190e4e5392cf106106041f0f4f506a5d068bf443689bd1fdac17ca794887956b5c830d6f80cf" ++
  "e19b89e4a7d24ff6bb10f8\"\x7d"

def uploadBase64 : String :=
  "eyJp" ++ ("ZCI6ImRmYjYyZmM0M2Q3MzU1OTc0Njk4OGY2MmFjYjE4OGQxMGUyMjRmY2IwOTQ0NTJjMzIzZWU0ZjU0YjQ2" ++
  "ZDYxNDQiLCJwdWJrZXkiOiJmOTMwOGEwMTkyNThjMzEwNDkzNDRmODVmODlkNTIyOWI1MzFjODQ1ODM2Zjk5" ++
  "YjA4NjAxZjExM2JjZTAzNmY5IiwiY3JlYXRlZF9hdCI6MTcwMDAwMDAwMCwia2luZCI6MjcyMzUsInRhZ3Mi" ++
  "OltbInUiLCJodHRwczovL25vZGUuZXhhbXBsZS5jb20vcHJvZHVjdHMvbWlkbmlnaHQiXSxbIm1ldGhvZCIs" ++
  "IlBVVCJdLFsicGF5bG9hZCIsIjcwYmY5MzMxMDI4NGIwMzlmMjM3ZTgyZGI0NDA3ZGYzZTNjYTY0MmZhYzJi" ++
  "OWViYjAyOTczNzY0NDI0Yzc0MTgiXV0sImNvbnRlbnQiOiIiLCJzaWciOiJlYTc2Y2FhZjQyYTg2YjJmMmE5" ++
  "Y2I1MTM5YjlmMjQxOTBlNGU1MzkyY2YxMDYxMDYwNDFmMGY0ZjUwNmE1ZDA2OGJmNDQzNjg5YmQxZmRhYzE3" ++
  "Y2E3OTQ4ODc5NTZiNWM4MzBkNmY4MGNmZTE5Yjg5ZTRhN2QyNGZmNmJiMTBm" ++
  "OCJ9")

def addressEvent : Event where
  id := ⟨#[70, 238, 102, 26, 238, 237, 234, 181, 217, 17, 48, 81, 14, 113, 19, 100, 173, 20, 26, 113,
    250, 237, 50, 69, 68, 150, 235, 248, 120, 207, 87, 178]⟩
  pubkey := operatorKey
  createdAt := 1700000000
  kind := 27235
  tags := [["u", "https://node.example.com/admin/address"], ["method", "GET"]]
  content := ""
  sig := ⟨#[174, 190, 121, 112, 174, 205, 99, 74, 117, 25, 4, 91, 134, 236, 204, 29, 44, 138, 36, 17,
    200, 10, 243, 80, 13, 170, 226, 80, 8, 40, 176, 202, 82, 135, 243, 46, 193, 145, 86, 38, 82,
    144, 153, 76, 158, 45, 148, 87, 37, 102, 221, 222, 214, 75, 202, 200, 0, 81, 129, 210, 39,
    162, 214, 92]⟩

def addressJson : String :=
  "\x7b\"id\":\"46ee661aeeedeab5d91130510e711364ad141a71faed32454496ebf878cf57b2\",\"pu" ++
  "bkey\":\"2f8bde4d1a07209355b4a7250a5c5128e88b84bddc619ab7cba8d569b240efe4\",\"create" ++
  "d_at\":1700000000,\"kind\":27235,\"tags\":[[\"u\",\"https://node.example.com/admin/a" ++
  "ddress\"],[\"method\",\"GET\"]],\"content\":\"\",\"sig\":\"aebe7970aecd634a7519045b8" ++
  "6eccc1d2c8a2411c80af3500daae2500828b0ca5287f32ec19156265290994c9e2d94572566ddded64bc" ++
  "ac8005181d227a2d65c\"\x7d"

def addressBase64 : String :=
  "eyJp" ++ ("ZCI6IjQ2ZWU2NjFhZWVlZGVhYjVkOTExMzA1MTBlNzExMzY0YWQxNDFhNzFmYWVkMzI0NTQ0OTZlYmY4Nzhj" ++
  "ZjU3YjIiLCJwdWJrZXkiOiIyZjhiZGU0ZDFhMDcyMDkzNTViNGE3MjUwYTVjNTEyOGU4OGI4NGJkZGM2MTlh" ++
  "YjdjYmE4ZDU2OWIyNDBlZmU0IiwiY3JlYXRlZF9hdCI6MTcwMDAwMDAwMCwia2luZCI6MjcyMzUsInRhZ3Mi" ++
  "OltbInUiLCJodHRwczovL25vZGUuZXhhbXBsZS5jb20vYWRtaW4vYWRkcmVzcyJdLFsibWV0aG9kIiwiR0VU" ++
  "Il1dLCJjb250ZW50IjoiIiwic2lnIjoiYWViZTc5NzBhZWNkNjM0YTc1MTkwNDViODZlY2NjMWQyYzhhMjQx" ++
  "MWM4MGFmMzUwMGRhYWUyNTAwODI4YjBjYTUyODdmMzJlYzE5MTU2MjY1MjkwOTk0YzllMmQ5NDU3MjU2NmRk" ++
  "ZGVkNjRiY2FjODAwNTE4MWQyMjdhMmQ2NWMi" ++
  "fQ==")

def upload : SignedHeader := ⟨uploadBase64, uploadJson, uploadEvent⟩

def address : SignedHeader := ⟨addressBase64, addressJson, addressEvent⟩

/-- The bytes `fLaC`. -/
def body : ByteArray := ⟨#[102, 76, 97, 67]⟩

def preimage : ByteArray := ⟨(List.replicate 32 7).toArray⟩

def paymentHash : ByteArray :=
  ⟨#[75, 176, 111, 142, 78, 58, 119, 21, 210, 1, 213, 115, 208, 170, 66, 55, 98, 229, 93, 171, 214,
    26, 44, 2, 39, 143, 165, 108, 198, 210, 148, 224]⟩

/-- SHA-256 where the examples need it. -/
def sha256 (bytes : ByteArray) : ByteArray :=
  if bytes = body then
    ⟨#[112, 191, 147, 49, 2, 132, 176, 57, 242, 55, 232, 45, 180, 64, 125, 243, 227, 202, 100, 47,
      172, 43, 158, 187, 2, 151, 55, 100, 66, 76, 116, 24]⟩
  else if bytes = preimage then paymentHash
  else .empty

/-- The other crates, as they behave on one header and on the data above. -/
def crates (header : SignedHeader) : Crates where
  toSerdeJson := json
  base64Decode text := if text = header.base64 then some header.json.toUTF8 else none
  eventFromJson text := if text = header.json then .ok header.event else .error "not in the table"
  eventVerify event := decide (event = header.event)
  sha256 := sha256
  hexEncode := Hex.encode
  hexDecode := Hex.decode
  descriptionNew text := if text.utf8ByteSize ≤ 639 then some text else none
  headerValueOk text := text.toList.all fun c => (32 ≤ c.toNat && c.toNat ≠ 127) || c == '\t'
  connectRequestFromSlice _ := .error "not in the table"
  sendOnchainRequestFromSlice _ := .error "not in the table"
  lsps1OrderRequestFromSlice _ := .error "not in the table"
  nodePublicKeyFromStr _ := .error "not in the table"
  socketAddressFromStr _ := none
  addressFromStr _ := .error "not in the table"
  requireNetwork _ _ := none
  jsonPairs _ := "[]"

def daemon (header : SignedHeader) : Daemon where
  lib := crates header
  dataDir := dataDir
  artistName := "Midnight Artist"
  artistPubkey := some artistKey
  adminPubkey := some operatorKey
  publicUrl := "https://node.example.com"
  network := .regtest
  lsps1ApiUrl := none
  lnurlAddress := "artist@node.example.com"

theorem authEvent_crates {header : SignedHeader} (htrim : trim header.base64 = header.base64) :
    Nip98.authEvent (crates header).toNostrCrates ("Nostr " ++ header.base64) =
      .ok header.event := by
  have hstrip : stripPrefix "Nostr " ("Nostr " ++ header.base64) = some header.base64 :=
    stripPrefix_eq_some.mpr rfl
  have hbase64 : (crates header).base64Decode header.base64 = some header.json.toUTF8 :=
    if_pos rfl
  have hjson : (crates header).eventFromJson header.json = .ok header.event := if_pos rfl
  unfold Nip98.authEvent
  simp only [hstrip, htrim, hbase64, fromUTF8_toUTF8, hjson]

theorem eventVerify_crates {header : SignedHeader} :
    (crates header).eventVerify header.event = true := decide_eq_true rfl

theorem trim_upload : trim upload.base64 = upload.base64 := by
  have hhead : upload.base64.toList.head? = some 'e' := by
    simp only [upload, uploadBase64, String.toList_append]
    rfl
  have hlast : upload.base64.toList.getLast? = some '9' := by
    simp only [upload, uploadBase64, String.toList_append, List.getLast?_append]
    rfl
  exact trim_eq_self hhead hlast (by decide) (by decide)

theorem trim_address : trim address.base64 = address.base64 := by
  have hhead : address.base64.toList.head? = some 'e' := by
    simp only [address, addressBase64, String.toList_append]
    rfl
  have hlast : address.base64.toList.getLast? = some '=' := by
    simp only [address, addressBase64, String.toList_append, List.getLast?_append]
    rfl
  exact trim_eq_self hhead hlast (by decide) (by decide)

end Sample

/-! ### What an upload's header leaves open -/

/-- Some execution of the upload answers 201 and has registered this record. -/
def Registers (d : Daemon) (header slug : String) (body : ByteArray) (params : Gate.UploadParams)
    (record : ProductRecord) : Prop :=
  ∃ h, Reaches (handle d (.putProduct slug params (some header) body)) h
      (.done (.productCreated slug)) ∧ ⟨.upsertProduct record, some (.ok ())⟩ ∈ h

/-- All accepted uploads of this body with this header register the same listing. -/
def MetadataFixed (d : Daemon) (header slug : String) (body : ByteArray) : Prop :=
  ∀ params₁ params₂ record₁ record₂, Registers d header slug body params₁ record₁ →
    Registers d header slug body params₂ record₂ →
    record₁.title = record₂.title ∧ record₁.priceSats = record₂.priceSats ∧
      record₁.floorSats = record₂.floorSats ∧ record₁.format = record₂.format

/-- The header carries the artist's signature for an upload of this body under this
    slug, fresh at this clock value. -/
def UploadAuthorized (d : Daemon) (header slug : String) (body : ByteArray) (now : UInt64) :
    Prop :=
  validSlug slug = true ∧ body.size ≠ 0 ∧ ∃ key event, d.artistPubkey = some key ∧
    Nip98.Authorizes d.lib.toNostrCrates header "PUT" (Gate.uploadUrl d.gateState slug)
      (some (bodyHash d.lib body)) key now event

theorem Registers.authorized {d : Daemon} {header slug : String} {body : ByteArray}
    {params : Gate.UploadParams} {record : ProductRecord}
    (h : Registers d header slug body params record) :
    ∃ now, UploadAuthorized d header slug body now := by
  obtain ⟨hist, hreaches, hmem⟩ := h
  have hslug : validSlug slug = true := by
    by_contra hslug
    have hbad : validSlug slug = false := Bool.not_eq_true _ ▸ hslug
    have hdone : ∃ resp, handle d (.putProduct slug params (some header) body) = .done resp := by
      simp only [handle, Gate.putProduct]
      rcases d.gateState.artistPubkey with _ | key <;> simp [hbad]
    obtain ⟨resp, hresp⟩ := hdone
    rw [hresp] at hreaches
    rw [hreaches.of_done.1] at hmem
    cases hmem
  have hbody : body.size ≠ 0 := by
    intro hempty
    have hdone : ∃ resp, handle d (.putProduct slug params (some header) body) = .done resp := by
      simp only [handle, Gate.putProduct]
      rcases d.gateState.artistPubkey with _ | key
      · simp
      · rcases validFormat params.format with _ | _ <;> simp [hslug, hempty]
    obtain ⟨resp, hresp⟩ := hdone
    rw [hresp] at hreaches
    rw [hreaches.of_done.1] at hmem
    cases hmem
  obtain ⟨before, -, hjust⟩ := (handle_guarded d _).performed hreaches _ hmem
  obtain ⟨method, path, auth, body', key, now, event, hroute, hsigned, -, hauthorizes⟩ :=
    hjust.1.authorizes
  simp only [Job.route, Option.some.injEq, Prod.mk.injEq] at hroute
  simp only [Job.signed, Option.some.injEq, Prod.mk.injEq] at hsigned
  obtain ⟨rfl, rfl⟩ := hroute
  obtain ⟨rfl, rfl, hkey⟩ := hsigned
  refine ⟨now, hslug, hbody, key, event, hkey, ?_⟩
  have hurl : Gate.uploadUrl d.gateState slug =
      Gate.trimSlashes d.publicUrl ++ ("/products/" ++ slug) := String.append_assoc
  rw [hurl]
  exact hauthorizes

/-- The check of an authorized upload passes whatever its query says. -/
theorem UploadAuthorized.handle_eq {d : Daemon} {header slug : String} {body : ByteArray}
    {now : UInt64} (h : UploadAuthorized d header slug body now) (params : Gate.UploadParams)
    (hformat : validFormat params.format = true) (hprice : params.priceSats ≠ 0) :
    ∃ k, handle d (.putProduct slug params (some header) body) = .call .nowSecs k ∧
      k now = Gate.storeUpload slug params body := by
  obtain ⟨hslug, hbody, key, event, hkey, hauthorizes⟩ := h
  have hverify : Nip98.verify d.lib.toNostrCrates header "PUT" (Gate.uploadUrl d.gateState slug)
      (some (d.lib.hexEncode (d.lib.sha256 body))) key now = .ok key :=
    Nip98.verify_eq_ok.mpr ⟨rfl, event, hauthorizes⟩
  have hkey' : d.gateState.artistPubkey = some key := hkey
  simp only [handle, Gate.putProduct, hkey', hslug, hformat, Bool.not_true, Bool.false_eq_true,
    if_false, hbody, hprice, false_and, perform_bind]
  exact ⟨_, rfl, by simp only [hverify]⟩

theorem UploadAuthorized.checked {d : Daemon} {header slug : String} {body : ByteArray}
    {now : UInt64} (h : UploadAuthorized d header slug body now) (params : Gate.UploadParams)
    (hformat : validFormat params.format = true) (hprice : params.priceSats ≠ 0) :
    Reaches (handle d (.putProduct slug params (some header) body)) [⟨.nowSecs, now⟩]
      (Gate.storeUpload slug params body) := by
  obtain ⟨k, hk, hnow⟩ := h.handle_eq params hformat hprice
  have hstart : Reaches (handle d (.putProduct slug params (some header) body)) []
      (.call .nowSecs k) := by
    rw [hk]
    exact .refl
  have hchecked := hstart.step now
  rw [hnow] at hchecked
  exact hchecked

/-- A header that authorizes an upload serves for any admissible query. -/
theorem UploadAuthorized.registers {d : Daemon} {header slug : String} {body : ByteArray}
    {now : UInt64} (h : UploadAuthorized d header slug body now) (params : Gate.UploadParams)
    (hformat : validFormat params.format = true) (hprice : params.priceSats ≠ 0) :
    Registers d header slug body params (Gate.uploadRecord slug params body) := by
  have hchecked := h.checked params hformat hprice
  have hlocked := hchecked.step (some ⟨⟨"", default⟩, [], rfl⟩)
  have hwritten := hlocked.step (.ok ())
  have hregistered := hwritten.step (some (.ok ()))
  exact ⟨_, hregistered, List.mem_concat_self⟩

/-- When is an upload's listing fixed by its header? Only where the header authorizes
    no upload at all. -/
theorem metadata_fixed_iff (d : Daemon) (header slug : String) (body : ByteArray) :
    MetadataFixed d header slug body ↔ ¬ ∃ now, UploadAuthorized d header slug body now := by
  constructor
  · rintro hfixed ⟨now, hauthorized⟩
    have hcheap := hauthorized.registers ⟨"", 1, none, "flac"⟩ rfl (by decide)
    have hdear := hauthorized.registers ⟨"", 2, none, "flac"⟩ rfl (by decide)
    have hprice : (1 : UInt64) = 2 := (hfixed _ _ _ _ hcheap hdear).2.1
    exact absurd hprice (by decide)
  · intro hnone params₁ params₂ record₁ record₂ h₁
    exact absurd h₁.authorized hnone

/-- The signature of an event whose tags are spelled as the daemon computes them authorizes
    the upload. -/
theorem UploadAuthorized.of_signed {d : Daemon} {header slug : String} {body : ByteArray}
    {now : UInt64} {key : PublicKey} {event : Event} (hslug : validSlug slug = true)
    (hbody : body.size ≠ 0) (hkey : d.artistPubkey = some key)
    (hdecodes : Nip98.authEvent d.lib.toNostrCrates header = .ok event)
    (hverifies : d.lib.eventVerify event = true) (hkind : event.kind = Nip98.httpAuth)
    (hurl : Nip98.tagValue event "u" = some (Gate.uploadUrl d.gateState slug))
    (hmethod : Nip98.tagValue event "method" = some "PUT")
    (hfresh : Nip98.outsideWindow event.createdAt now = false)
    (hpayload : Nip98.tagValue event "payload" = some (bodyHash d.lib body))
    (hsigner : event.pubkey = key) : UploadAuthorized d header slug body now := by
  refine ⟨hslug, hbody, key, event, hkey, hdecodes, hverifies, hkind, hurl, ?_, hfresh, ?_, hsigner⟩
  · exact ⟨"PUT", hmethod, eqIgnoreAsciiCase_iff.mpr rfl⟩
  · rintro hash hhash
    obtain rfl := Option.some.inj hhash
    exact ⟨_, hpayload, eqIgnoreAsciiCase_iff.mpr rfl⟩

/-- The artist's upload is authorized within a minute of the signature. -/
theorem Sample.upload_authorized {now : UInt64}
    (hnow : Nip98.outsideWindow 1700000000 now = false) :
    UploadAuthorized (Sample.daemon Sample.upload) ("Nostr " ++ Sample.uploadBase64) "midnight"
      Sample.body now := by
  have hdecodes := Sample.authEvent_crates Sample.trim_upload
  have hpayload : Nip98.tagValue Sample.uploadEvent "payload" =
      some (bodyHash (Sample.daemon Sample.upload).lib Sample.body) := by decide
  exact .of_signed (by decide) (by decide) rfl hdecodes Sample.eventVerify_crates rfl (by decide)
    (by decide) hnow hpayload rfl

/-- The artist signed one upload; the same header registers the track at the price
    signed for and, with another query, at one satoshi. -/
theorem metadata_not_fixed :
    Registers (Sample.daemon Sample.upload) ("Nostr " ++ Sample.uploadBase64) "midnight"
        Sample.body ⟨"Midnight", 5000, none, "flac"⟩ Sample.midnight ∧
      Registers (Sample.daemon Sample.upload) ("Nostr " ++ Sample.uploadBase64) "midnight"
        Sample.body ⟨"Midnight", 1, none, "flac"⟩ { Sample.midnight with priceSats := 1 } ∧
      ¬ MetadataFixed (Sample.daemon Sample.upload) ("Nostr " ++ Sample.uploadBase64) "midnight"
        Sample.body := by
  have hauthorized := @Sample.upload_authorized 1700000030 (by decide)
  have hsigned := hauthorized.registers ⟨"Midnight", 5000, none, "flac"⟩ rfl (by decide)
  have hcheap := hauthorized.registers ⟨"Midnight", 1, none, "flac"⟩ rfl (by decide)
  refine ⟨hsigned, hcheap, fun hfixed => ?_⟩
  have hprice : (5000 : UInt64) = 1 := (hfixed _ _ _ _ hsigned hcheap).2.1
  exact absurd hprice (by decide)

/-! ### Operator effects -/

/-- The operations that only the operator may cause. -/
def Op.isAdmin : Op → Bool
  | .newAddress => true
  | .listBalances => true
  | .connect .. => true
  | .sendToAddress .. => true
  | .lsps1Post .. => true
  | .lsps1Get _ => true
  | _ => false

/-- A label that shows an operator effect: such an operation, or an answer that
    discloses the result of one. -/
def AdminEffect (id : Nat) (job : Job) : DaemonLabel → Prop
  | .call id' job' c => id' = id ∧ job' = job ∧ c.1.isAdmin = true
  | .answer id' job' resp => id' = id ∧ job' = job ∧ resp.isAdmin = true
  | _ => False

theorem RequestedBy.isAdmin {d : Daemon} {job : Job} {op : Op} (h : RequestedBy d job op) :
    job.isAdmin = true := by
  cases op with
  | newAddress =>
    obtain ⟨auth, rfl⟩ := h
    rfl
  | listBalances =>
    obtain ⟨auth, rfl⟩ := h
    rfl
  | connect nodeId address persist =>
    obtain ⟨-, auth, body, req, rfl, -⟩ := h
    rfl
  | sendToAddress address amountSats =>
    obtain ⟨auth, body, req, rfl, -⟩ := h
    rfl
  | lsps1Post url order =>
    obtain ⟨auth, body, req, api, nodeId, rfl, -⟩ := h
    rfl
  | lsps1Get url =>
    obtain ⟨orderId, auth, api, rfl, -⟩ := h
    rfl
  | _ => exact h.elim

theorem justified_isAdmin {d : Daemon} {job : Job} {h : List DaemonCall} {op : Op}
    (hjust : Justified d job h op) (hadmin : op.isAdmin = true) :
    Checked d job h ∧ RequestedBy d job op := by
  cases op with
  | newAddress => exact hjust
  | listBalances => exact hjust
  | connect nodeId address persist => exact hjust
  | sendToAddress address amountSats => exact hjust
  | lsps1Post url order => exact hjust
  | lsps1Get url => exact hjust
  | _ => cases hadmin

/-- The operator's requests are checked against the operator's key. -/
theorem Job.signed_of_isAdmin (d : Daemon) {job : Job} (h : job.isAdmin = true) :
    ∃ auth body, job.signed d = some (auth, body, d.adminPubkey) := by
  cases job <;> first | exact ⟨_, _, rfl⟩ | cases h

/-- In every run, each operator effect comes from a request to an operator route
    whose header carries an event that the configured operator key signed for that
    method, that URL and that body within 60 seconds of the clock, and the effect
    acts on what that request says. Without an operator key there is none. -/
theorem admin_effect_signed {d : Daemon} {s : Shared} {τ : List DaemonLabel} {w : DaemonWorld}
    (hrun : DaemonRun d s τ w) {id : Nat} {job : Job} {l : DaemonLabel} (hl : l ∈ τ)
    (heffect : AdminEffect id job l) :
    (∃ method path auth body key now event,
      job.route = some (method, path) ∧ job.signed d = some (some auth, body, some key) ∧
      d.adminPubkey = some key ∧ .call id job ⟨.nowSecs, now⟩ ∈ τ ∧
      Nip98.Authorizes d.lib.toNostrCrates auth method (Gate.trimSlashes d.publicUrl ++ path)
        (body.map (bodyHash d.lib)) key now event ∧
      event.createdAt.toNat ≤ now.toNat + 60 ∧ now.toNat ≤ event.createdAt.toNat + 60) ∧
      ∀ c, l = .call id job c → RequestedBy d job c.1 := by
  have hsource : ∃ h, job.isAdmin = true ∧ Checked d job h ∧
      (∀ c ∈ h, .call id job c ∈ τ) ∧ ∀ c, l = .call id job c → RequestedBy d job c.1 := by
    cases l with
    | call id' job' c =>
      obtain ⟨rfl, rfl, hadmin⟩ := heffect
      obtain ⟨h, hjust, hcalled⟩ := hrun.justified hl
      obtain ⟨hchecked, hrequested⟩ := justified_isAdmin hjust hadmin
      refine ⟨h, hrequested.isAdmin, hchecked, hcalled, ?_⟩
      rintro c' hc'
      cases hc'
      exact hrequested
    | answer id' job' resp =>
      obtain ⟨rfl, rfl, hadmin⟩ := heffect
      obtain ⟨h, hjob, hchecked, hcalled⟩ := hrun.answerable hl hadmin
      refine ⟨h, hjob, hchecked, hcalled, ?_⟩
      rintro c' hc'
      cases hc'
    | start id' job' => exact heffect.elim
    | env e => exact heffect.elim
    | restart => exact heffect.elim
  obtain ⟨h, hjob, hchecked, hcalled, hrequested⟩ := hsource
  obtain ⟨method, path, auth, body, key, now, event, hroute, hsigned, hnow, hauthorizes⟩ :=
    hchecked.authorizes
  obtain ⟨auth', body', hsigned'⟩ := job.signed_of_isAdmin d hjob
  rw [hsigned] at hsigned'
  have hkey : d.adminPubkey = some key := by
    simp only [Option.some.injEq, Prod.mk.injEq] at hsigned'
    exact hsigned'.2.2.symm
  obtain ⟨hafter, hbefore⟩ := Nip98.within_window hauthorizes.fresh
  exact ⟨⟨method, path, auth, body, key, now, event, hroute, hsigned, hkey, hcalled _ hnow,
    hauthorizes, hafter, hbefore⟩, hrequested⟩

theorem getAddress_eq {d : Daemon} {auth : String} {key : PublicKey} {now : UInt64}
    {event : Event} (hkey : d.adminPubkey = some key)
    (h : Nip98.Authorizes d.lib.toNostrCrates auth "GET"
      (Admin.authUrl d.adminState "/admin/address") none key now event) :
    ∃ k, handle d (.getAddress (some auth)) = .call .nowSecs k ∧
      k now = .call .newAddress fun r => match r with
        | .ok addr => .done (.address addr)
        | .error e => .done (.err .internalServerError e) := by
  have hverify := Nip98.verify_eq_ok.mpr ⟨rfl, event, h⟩
  have hkey' : d.adminState.adminPubkey = some key := hkey
  simp only [handle, Admin.getAddress, Admin.authorize, hkey', perform_bind, Process.call_bind]
  refine ⟨_, rfl, ?_⟩
  simp only [Option.map_none, hverify, Process.pure_eq_done, Process.done_bind]
  congr

/-- The operator's request for a funding address. -/
def Sample.addressRequest : Job := .getAddress (some ("Nostr " ++ addressBase64))

/-- The operator's request for an address, answered by the node. -/
theorem admin_effect_signed_address : ∃ key now event,
    (Sample.daemon Sample.address).adminPubkey = some key ∧
      Nip98.Authorizes (Sample.daemon Sample.address).lib.toNostrCrates
        ("Nostr " ++ Sample.addressBase64) "GET"
        (Gate.trimSlashes "https://node.example.com" ++ "/admin/address") none key now event := by
  have hauthorizes : Nip98.Authorizes (Sample.daemon Sample.address).lib.toNostrCrates
      ("Nostr " ++ Sample.addressBase64) "GET"
      (Admin.authUrl (Sample.daemon Sample.address).adminState "/admin/address") none
      Sample.operatorKey 1700000030 Sample.addressEvent := {
    decodes := Sample.authEvent_crates Sample.trim_address
    verifies := Sample.eventVerify_crates
    kind := rfl
    url := by decide
    method := ⟨"GET", by decide, by decide⟩
    fresh := by decide
    payload := by
      rintro hash hhash
      cases hhash
    signer := rfl }
  obtain ⟨k, hk, hnow⟩ := getAddress_eq rfl hauthorizes
  let s : Shared := ⟨Sample.store, Sample.files, false, []⟩
  have hstart : Reaches (handle (Sample.daemon Sample.address) Sample.addressRequest) []
      (.call .nowSecs k) := by
    rw [Sample.addressRequest, hk]
    exact .refl
  have hclock := hstart.step 1700000030
  rw [hnow] at hclock
  have hlast := hclock.step (Except.ok "bcrt1qexample" : Except String String)
  have haddress : Reaches ((system (Sample.daemon Sample.address)).program Sample.addressRequest)
      [⟨.nowSecs, 1700000030⟩, ⟨.newAddress, .ok "bcrt1qexample"⟩]
      (.done (.address "bcrt1qexample")) := hlast
  have hcalls : Performs (system (Sample.daemon Sample.address)) s
      [⟨.nowSecs, 1700000030⟩, ⟨.newAddress, .ok "bcrt1qexample"⟩] s :=
    ⟨s, rfl, s, rfl, rfl⟩
  have hinitial : DaemonRun (Sample.daemon Sample.address) s [] (World.initial s) := Run.refl
  obtain ⟨w, hrun, -, -⟩ := hinitial.serve haddress hcalls
  obtain ⟨⟨method, path, auth, body, key, now, event, hroute, hsigned, hkey, -, ha, -⟩, -⟩ :=
    admin_effect_signed (l := .call 0 Sample.addressRequest ⟨.newAddress, .ok "bcrt1qexample"⟩) hrun
      (by simp [served, World.initial]) ⟨rfl, rfl, rfl⟩
  simp only [Sample.addressRequest, Job.route, Option.some.injEq, Prod.mk.injEq] at hroute
  simp only [Sample.addressRequest, Job.signed, Option.some.injEq, Prod.mk.injEq] at hsigned
  obtain ⟨rfl, rfl⟩ := hroute
  obtain ⟨rfl, rfl, -⟩ := hsigned
  exact ⟨key, now, event, hkey, ha⟩

/-! ### Headers cannot be moved -/

/-- The signed endpoints, with the variable part of their paths. -/
inductive Endpoint where
  | product (slug : String)
  | address
  | balance
  | connect
  | sendOnchain
  | lsps1Order
  | lsps1OrderStatus (orderId : String)
deriving DecidableEq

def Endpoint.method : Endpoint → String
  | .product _ => "PUT"
  | .address => "GET"
  | .balance => "GET"
  | .connect => "POST"
  | .sendOnchain => "POST"
  | .lsps1Order => "POST"
  | .lsps1OrderStatus _ => "GET"

def Endpoint.path : Endpoint → String
  | .product slug => "/products/" ++ slug
  | .address => "/admin/address"
  | .balance => "/admin/balance"
  | .connect => "/admin/connect"
  | .sendOnchain => "/admin/send-onchain"
  | .lsps1Order => "/admin/lsps1-order"
  | .lsps1OrderStatus orderId => "/admin/lsps1-order/" ++ orderId

def Endpoint.takesBody : Endpoint → Bool
  | .address => false
  | .balance => false
  | .lsps1OrderStatus _ => false
  | _ => true

def Job.endpoint : Job → Option Endpoint
  | .putProduct slug .. => some (.product slug)
  | .getAddress _ => some .address
  | .getBalance _ => some .balance
  | .postConnect .. => some .connect
  | .postSendOnchain .. => some .sendOnchain
  | .postLsps1Order .. => some .lsps1Order
  | .getLsps1Order orderId _ => some (.lsps1OrderStatus orderId)
  | _ => none

/-- The request's `Authorization` header. -/
def Job.authorization : Job → Option String
  | .putProduct _ _ auth _ => auth
  | .getAddress auth => auth
  | .getBalance auth => auth
  | .postConnect auth _ => auth
  | .postSendOnchain auth _ => auth
  | .postLsps1Order auth _ => auth
  | .getLsps1Order _ auth => auth
  | _ => none

/-- The request's body, where the endpoint takes one. -/
def Job.body : Job → Option ByteArray
  | .putProduct _ _ _ body => some body
  | .postConnect _ body => some body
  | .postSendOnchain _ body => some body
  | .postLsps1Order _ body => some body
  | _ => none

theorem Job.route_of_endpoint {job : Job} {e : Endpoint} (h : job.endpoint = some e) :
    job.route = some (e.method, e.path) := by
  cases job <;> first | (obtain rfl := Option.some.inj h; rfl) | cases h

theorem Job.signed_of_endpoint (d : Daemon) {job : Job} {e : Endpoint}
    (h : job.endpoint = some e) :
    ∃ key, job.signed d = some (job.authorization, job.body, key) := by
  cases job <;> first | exact ⟨_, rfl⟩ | cases h

theorem Endpoint.method_cases (e : Endpoint) :
    e.method = "PUT" ∨ e.method = "GET" ∨ e.method = "POST" := by
  cases e <;> simp [Endpoint.method]

theorem Job.body_isSome {job : Job} {e : Endpoint} (h : job.endpoint = some e) :
    job.body.isSome = e.takesBody := by
  cases job <;> first | (obtain rfl := Option.some.inj h; rfl) | cases h

/-- No two methods of the endpoints differ only in case. -/
theorem Endpoint.method_eq {e₁ e₂ : Endpoint}
    (h : eqIgnoreAsciiCase e₁.method e₂.method = true) : e₁.method = e₂.method := by
  rcases e₁.method_cases with h₁ | h₁ | h₁ <;> rcases e₂.method_cases with h₂ | h₂ | h₂ <;>
    rw [h₁, h₂] at h ⊢ <;> revert h <;> decide

/-- Method and path determine the endpoint, its slug and its order id. -/
theorem Endpoint.eq_of_route {e₁ e₂ : Endpoint} (hmethod : e₁.method = e₂.method)
    (hpath : e₁.path = e₂.path) : e₁ = e₂ := by
  have hlsps1 : ∀ orderId, "/admin/lsps1-order/" ++ orderId ≠ "/admin/address" ∧
      "/admin/lsps1-order/" ++ orderId ≠ "/admin/balance" := by
    intro orderId
    refine ⟨fun h => ?_, fun h => ?_⟩
    all_goals
      have hchars := congrArg String.toList h
      simp at hchars
  cases e₁ with
  | product slug =>
    cases e₂ with
    | product slug' =>
      have hslug : "/products/" ++ slug = "/products/" ++ slug' := hpath
      rw [String.append_right_inj] at hslug
      rw [hslug]
    | _ => exact absurd hmethod (by simp [Endpoint.method])
  | address =>
    cases e₂ with
    | address => rfl
    | balance => exact absurd hpath (by decide)
    | lsps1OrderStatus orderId => exact absurd hpath.symm (hlsps1 orderId).1
    | _ => exact absurd hmethod (by simp [Endpoint.method])
  | balance =>
    cases e₂ with
    | address => exact absurd hpath (by decide)
    | balance => rfl
    | lsps1OrderStatus orderId => exact absurd hpath.symm (hlsps1 orderId).2
    | _ => exact absurd hmethod (by simp [Endpoint.method])
  | connect =>
    cases e₂ with
    | connect => rfl
    | sendOnchain => exact absurd hpath (by decide)
    | lsps1Order => exact absurd hpath (by decide)
    | _ => exact absurd hmethod (by simp [Endpoint.method])
  | sendOnchain =>
    cases e₂ with
    | connect => exact absurd hpath (by decide)
    | sendOnchain => rfl
    | lsps1Order => exact absurd hpath (by decide)
    | _ => exact absurd hmethod (by simp [Endpoint.method])
  | lsps1Order =>
    cases e₂ with
    | connect => exact absurd hpath (by decide)
    | sendOnchain => exact absurd hpath (by decide)
    | lsps1Order => rfl
    | _ => exact absurd hmethod (by simp [Endpoint.method])
  | lsps1OrderStatus orderId =>
    cases e₂ with
    | address => exact absurd hpath (hlsps1 orderId).1
    | balance => exact absurd hpath (hlsps1 orderId).2
    | lsps1OrderStatus orderId' =>
      have hid : "/admin/lsps1-order/" ++ orderId = "/admin/lsps1-order/" ++ orderId' := hpath
      rw [String.append_right_inj] at hid
      rw [hid]
    | _ => exact absurd hmethod (by simp [Endpoint.method])

/-- The request passed its NIP-98 check at this clock value: its handler read the
    clock and went on to something other than a refusal. -/
def Passed (d : Daemon) (job : Job) (now : UInt64) : Prop :=
  ∃ k, handle d job = .call .nowSecs k ∧ ∀ e, k now ≠ .done (.err .unauthorized e)

theorem passed_authorize {d : Daemon} {job : Job} {auth : Option String}
    {method path : String} {body : Option ByteArray} {now : UInt64}
    {f : Except Response Unit → Handler Response}
    (hcheck : job.check d = some ⟨auth, method, Admin.authUrl d.adminState path, body,
      d.adminPubkey⟩)
    (hhandle : handle d job =
      (Admin.authorize d.lib d.adminState auth method path body >>= f))
    (hrefused : ∀ resp, f (.error resp) = .done resp) (h : Passed d job now) :
    ∃ check, job.check d = some check ∧ check.Passes d.lib now := by
  obtain ⟨k, hk, hpassed⟩ := h
  rw [hhandle] at hk
  unfold Admin.authorize at hk
  rcases hkey : d.adminState.adminPubkey with _ | key
  · simp [hkey, hrefused] at hk
  rcases auth with _ | auth
  · simp [hkey, hrefused] at hk
  simp only [hkey, perform_bind, Process.call_bind, Process.call.injEq, heq_eq_eq,
    true_and] at hk
  subst hk
  rcases hverify : Nip98.verify d.lib.toNostrCrates auth method (Admin.authUrl d.adminState path)
      (body.map (bodyHash d.lib)) key now with e | pk
  · refine absurd ?_ (hpassed s!"NIP-98: {e}")
    have hverify' := hverify
    unfold bodyHash at hverify'
    simp only [hverify', Process.pure_eq_done, Process.done_bind, hrefused]
  · have hkey' : d.adminPubkey = some key := hkey
    rw [hkey'] at hcheck
    exact ⟨_, hcheck, passes_of_verify hverify⟩

theorem passed_putProduct {d : Daemon} {slug : String} {params : Gate.UploadParams}
    {auth : Option String} {body : ByteArray} {now : UInt64}
    (h : Passed d (.putProduct slug params auth body) now) :
    ∃ check, (Job.putProduct slug params auth body).check d = some check ∧
      check.Passes d.lib now := by
  obtain ⟨k, hk, hpassed⟩ := h
  simp only [handle, Gate.putProduct] at hk
  rcases hkey : d.gateState.artistPubkey with _ | key
  · simp [hkey] at hk
  simp only [hkey] at hk
  split at hk
  · simp at hk
  split at hk
  · simp at hk
  split at hk
  · simp at hk
  split at hk
  · simp at hk
  rcases auth with _ | auth
  · simp at hk
  simp only [perform_bind, Process.call.injEq, heq_eq_eq, true_and] at hk
  subst hk
  have hurl : Gate.uploadUrl d.gateState slug =
      Gate.trimSlashes d.publicUrl ++ ("/products/" ++ slug) := String.append_assoc
  have hkey' : d.artistPubkey = some key := hkey
  rcases hverify : Nip98.verify d.lib.toNostrCrates auth "PUT" (Gate.uploadUrl d.gateState slug)
      (some (bodyHash d.lib body)) key now with e | pk
  · refine absurd ?_ (hpassed s!"NIP-98: {e}")
    have hverify' := hverify
    unfold bodyHash at hverify'
    simp only [hverify', Process.pure_eq_done]
  · refine ⟨_, rfl, ?_⟩
    rw [hkey']
    rw [hurl] at hverify
    exact passes_of_verify hverify

/-- A request that passed carried a header that authorizes it. -/
theorem Passed.check {d : Daemon} {job : Job} {e : Endpoint} {now : UInt64}
    (he : job.endpoint = some e) (h : Passed d job now) :
    ∃ check, job.check d = some check ∧ check.Passes d.lib now := by
  cases job with
  | putProduct slug params auth body => exact passed_putProduct h
  | getAddress auth => exact passed_authorize rfl rfl (fun _ => rfl) h
  | getBalance auth => exact passed_authorize rfl rfl (fun _ => rfl) h
  | postConnect auth body => exact passed_authorize rfl rfl (fun _ => rfl) h
  | postSendOnchain auth body => exact passed_authorize rfl rfl (fun _ => rfl) h
  | postLsps1Order auth body => exact passed_authorize rfl rfl (fun _ => rfl) h
  | getLsps1Order orderId auth => exact passed_authorize rfl rfl (fun _ => rfl) h
  | _ => cases he

theorem Passed.authorizes {d : Daemon} {job : Job} {e : Endpoint} {now : UInt64}
    (he : job.endpoint = some e) (h : Passed d job now) :
    ∃ auth key event, job.authorization = some auth ∧
      Nip98.Authorizes d.lib.toNostrCrates auth e.method (Gate.trimSlashes d.publicUrl ++ e.path)
        (job.body.map (bodyHash d.lib)) key now event := by
  obtain ⟨check, hcheck, auth, key, event, hauth, hkey, hauthorizes⟩ := h.check he
  obtain ⟨key', hsigned⟩ := job.signed_of_endpoint d he
  simp only [Job.check, job.route_of_endpoint he, hsigned, Option.some.injEq] at hcheck
  subst hcheck
  exact ⟨auth, key, event, hauth, hauthorizes⟩

/-- An `Authorization` header cannot be moved to another request: whatever two
    requests with one header both pass the check, they are for the same endpoint, slug
    and order id, their bodies have the same hash, and at most 120 seconds lie between
    them. The keys play no part, so they may be equal. -/
theorem header_not_movable {d : Daemon} (hinj : Function.Injective d.lib.hexEncode)
    (hlower : ∀ bytes, ∀ c ∈ (d.lib.hexEncode bytes).toList, c.toLower = c) {r₁ r₂ : Job}
    {e₁ e₂ : Endpoint} {t₁ t₂ : UInt64} (he₁ : r₁.endpoint = some e₁)
    (he₂ : r₂.endpoint = some e₂) (hheader : r₁.authorization = r₂.authorization)
    (h₁ : Passed d r₁ t₁) (h₂ : Passed d r₂ t₂) :
    e₁ = e₂ ∧ r₁.body.map d.lib.sha256 = r₂.body.map d.lib.sha256 ∧
      t₁.toNat ≤ t₂.toNat + 120 ∧ t₂.toNat ≤ t₁.toNat + 120 := by
  obtain ⟨auth, key₁, event, hauth, ha₁⟩ := h₁.authorizes he₁
  obtain ⟨auth', key₂, event', hauth', ha₂⟩ := h₂.authorizes he₂
  -- one header, one event
  rw [← hheader, hauth] at hauth'
  obtain rfl := Option.some.inj hauth'
  have hevent := ha₁.decodes
  rw [ha₂.decodes] at hevent
  obtain rfl := Except.ok.inj hevent
  -- one URL and one method, hence one endpoint
  have hurl := ha₁.url
  rw [ha₂.url, Option.some.injEq, String.append_right_inj] at hurl
  obtain ⟨m₁, hm₁, hmethod₁⟩ := ha₁.method
  obtain ⟨m₂, hm₂, hmethod₂⟩ := ha₂.method
  rw [hm₁] at hm₂
  obtain rfl := Option.some.inj hm₂
  have hendpoint : e₁ = e₂ :=
    Endpoint.eq_of_route (Endpoint.method_eq (eqIgnoreAsciiCase_right_unique hmethod₁ hmethod₂))
      hurl.symm
  refine ⟨hendpoint, ?_, ?_⟩
  · subst hendpoint
    have hsame := (Job.body_isSome he₁).trans (Job.body_isSome he₂).symm
    rcases hb₁ : r₁.body with _ | b₁
    · rcases hb₂ : r₂.body with _ | b₂
      · rfl
      · simp [hb₁, hb₂] at hsame
    · rcases hb₂ : r₂.body with _ | b₂
      · simp [hb₁, hb₂] at hsame
      · obtain ⟨p₁, hp₁, hpayload₁⟩ := ha₁.payload (bodyHash d.lib b₁) (by simp [hb₁])
        obtain ⟨p₂, hp₂, hpayload₂⟩ := ha₂.payload (bodyHash d.lib b₂) (by simp [hb₂])
        rw [hp₁] at hp₂
        obtain rfl := Option.some.inj hp₂
        have hhash := eq_of_eqIgnoreAsciiCase (hlower _) (hlower _)
          (eqIgnoreAsciiCase_right_unique hpayload₁ hpayload₂)
        simp [hinj hhash]
  · have hw₁ := Nip98.within_window ha₁.fresh
    have hw₂ := Nip98.within_window ha₂.fresh
    omega

namespace Sample

/-- The artist's upload with some price in its query. -/
def uploadRequest (priceSats : UInt64) : Job :=
  .putProduct "midnight" ⟨"Midnight", priceSats, none, "flac"⟩ (some ("Nostr " ++ uploadBase64))
    body

def early : UInt64 := 1699999945

def late : UInt64 := 1700000055

theorem uploadRequest_passed {priceSats now : UInt64} (hprice : priceSats ≠ 0)
    (hnow : Nip98.outsideWindow 1700000000 now = false) :
    Passed (daemon upload) (uploadRequest priceSats) now := by
  obtain ⟨k, hk, hk'⟩ := (upload_authorized hnow).handle_eq ⟨"Midnight", priceSats, none, "flac"⟩
    rfl hprice
  refine ⟨k, hk, fun e he => ?_⟩
  rw [hk'] at he
  cases he

end Sample

/-- One header on two requests, 110 seconds apart. -/
theorem header_not_movable_upload :
    Endpoint.product "midnight" = Endpoint.product "midnight" ∧
      (Sample.uploadRequest 5000).body.map Sample.sha256 =
        (Sample.uploadRequest 1).body.map Sample.sha256 ∧
      Sample.early.toNat ≤ Sample.late.toNat + 120 ∧
      Sample.late.toNat ≤ Sample.early.toNat + 120 :=
  header_not_movable (d := Sample.daemon Sample.upload) Hex.encode_injective Hex.encode_lowercase
    rfl rfl rfl (Sample.uploadRequest_passed (by decide) (by decide))
    (Sample.uploadRequest_passed (by decide) (by decide))

end ArtistNode
