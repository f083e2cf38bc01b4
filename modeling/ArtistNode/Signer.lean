import ArtistNode.Authorization

/-!
# Both ends of a signed header

What `verify` accepts, in terms of the header, the event in it and the clock, and
`nip98_sign`, the helper that prints such headers. The two programs share no code:
one writes the list of tags, the other looks for the first tag of each name.
-/

namespace ArtistNode

open Base

namespace Nip98

/-! ### What `verify` accepts -/

/-- The first tag with this name and at least two entries has this value. -/
def FirstTag (event : Event) (name value : String) : Prop :=
  ∃ before rest after, event.tags = before ++ (name :: value :: rest) :: after ∧
    ∀ tag ∈ before, ∀ value' rest', tag ≠ name :: value' :: rest'

/-- The two clock values are at most 60 seconds apart, as integers. -/
def WithinWindow (created now : UInt64) : Prop :=
  |(created.toNat : ℤ) - (now.toNat : ℤ)| ≤ 60

/-- The header carries this event: base64 of its JSON, after the scheme. -/
def Carries (lib : NostrCrates) (authHeader : String) (event : Event) : Prop :=
  ∃ text raw json, authHeader = "Nostr " ++ text ∧ lib.base64Decode (trim text) = some raw ∧
    String.fromUTF8? raw = some json ∧ lib.eventFromJson json = .ok event

/-- A valid authorization of a request by a key, at a clock value. -/
structure ValidAuthorization (lib : NostrCrates) (authHeader method url : String)
    (bodySha256Hex : Option String) (key : PublicKey) (now : UInt64) (event : Event) :
    Prop where
  carried : Carries lib authHeader event
  verifies : lib.eventVerify event = true
  kind : event.kind = 27235
  url : FirstTag event "u" url
  method : ∃ m, FirstTag event "method" m ∧ eqIgnoreAsciiCase m method = true
  fresh : WithinWindow event.createdAt now
  payload : ∀ hash, bodySha256Hex = some hash →
    ∃ p, FirstTag event "payload" p ∧ eqIgnoreAsciiCase p hash = true
  signer : event.pubkey = key

theorem tagValue_eq_some {event : Event} {name value : String} :
    tagValue event name = some value ↔ FirstTag event name value := by
  unfold tagValue FirstTag
  rw [List.findSome?_eq_some_iff]
  constructor
  · rintro ⟨before, tag, after, htags, hvalue, hbefore⟩
    rcases tag with _ | ⟨name', _ | ⟨value', rest⟩⟩
    · simp at hvalue
    · simp at hvalue
    · simp only [Option.ite_none_right_eq_some, Option.some.injEq] at hvalue
      obtain ⟨rfl, rfl⟩ := hvalue
      refine ⟨before, rest, after, htags, ?_⟩
      rintro tag htag value rest rfl
      simpa using hbefore _ htag
  · rintro ⟨before, rest, after, htags, hbefore⟩
    refine ⟨before, name :: value :: rest, after, htags, by simp, ?_⟩
    intro tag htag
    rcases tag with _ | ⟨name', _ | ⟨value', rest'⟩⟩
    · rfl
    · rfl
    · have hname : name' ≠ name := by
        rintro rfl
        exact hbefore _ htag value' rest' rfl
      simp only [hname, if_false]

theorem authEvent_eq_ok {lib : NostrCrates} {authHeader : String} {event : Event} :
    authEvent lib authHeader = .ok event ↔ Carries lib authHeader event := by
  unfold authEvent Carries
  constructor
  · intro h
    rcases hstrip : stripPrefix "Nostr " authHeader with _ | text
    · simp [hstrip] at h
    rcases hraw : lib.base64Decode (trim text) with _ | raw
    · simp [hstrip, hraw] at h
    rcases hjson : String.fromUTF8? raw with _ | json
    · simp [hstrip, hraw, hjson] at h
    rcases hevent : lib.eventFromJson json with e | event'
    · simp [hstrip, hraw, hjson, hevent] at h
    simp only [hstrip, hraw, hjson, hevent, Except.ok.injEq] at h
    subst h
    exact ⟨text, raw, json, stripPrefix_eq_some.mp hstrip, hraw, hjson, hevent⟩
  · rintro ⟨text, raw, json, hheader, hraw, hjson, hevent⟩
    have hstrip := stripPrefix_eq_some.mpr hheader
    simp only [hstrip, hraw, hjson, hevent]

/-- Before the last two minutes of the `u64` range the window is what it should be: an
    event from so near the end that the sum on its side wraps is refused as too far in
    the future. -/
theorem outsideWindow_eq_false {created now : UInt64} (hnow : now.toNat ≤ 2 ^ 64 - 121) :
    outsideWindow created now = false ↔ WithinWindow created now := by
  have hc := created.toNat_lt
  have h60 : (60 : UInt64).toNat = 60 := rfl
  simp only [outsideWindow, AUTH_WINDOW_SECS, WithinWindow, abs_le, gt_iff_lt,
    Bool.or_eq_false_iff, decide_eq_false_iff_not, UInt64.lt_iff_toNat_lt, UInt64.toNat_add,
    Nat.not_lt]
  omega

theorem authorizes_iff {lib : NostrCrates} {authHeader method url : String}
    {bodySha256Hex : Option String} {key : PublicKey} {now : UInt64} {event : Event}
    (hnow : now.toNat ≤ 2 ^ 64 - 121) :
    Authorizes lib authHeader method url bodySha256Hex key now event ↔
      ValidAuthorization lib authHeader method url bodySha256Hex key now event := by
  constructor
  · intro h
    exact {
      carried := authEvent_eq_ok.mp h.decodes
      verifies := h.verifies
      kind := h.kind
      url := tagValue_eq_some.mp h.url
      method := by simpa only [tagValue_eq_some] using h.method
      fresh := (outsideWindow_eq_false hnow).mp h.fresh
      payload := by simpa only [tagValue_eq_some] using h.payload
      signer := h.signer }
  · intro h
    exact {
      decodes := authEvent_eq_ok.mpr h.carried
      verifies := h.verifies
      kind := h.kind
      url := tagValue_eq_some.mpr h.url
      method := by simpa only [tagValue_eq_some] using h.method
      fresh := (outsideWindow_eq_false hnow).mpr h.fresh
      payload := by simpa only [tagValue_eq_some] using h.payload
      signer := h.signer }

/-- `verify` accepts exactly the valid authorizations, and answers with the key they
    were expected from. -/
theorem verify_ok_iff {lib : NostrCrates} {authHeader method url : String}
    {bodySha256Hex : Option String} {key pk : PublicKey} {now : UInt64}
    (hnow : now.toNat ≤ 2 ^ 64 - 121) :
    verify lib authHeader method url bodySha256Hex key now = .ok pk ↔
      pk = key ∧
        ∃ event, ValidAuthorization lib authHeader method url bodySha256Hex key now event := by
  rw [verify_eq_ok]
  simp only [authorizes_iff hnow]

/-- The artist's upload header, half a minute after it was signed. -/
theorem verify_ok_iff_upload :
    verify (Sample.crates Sample.upload).toNostrCrates ("Nostr " ++ Sample.uploadBase64) "PUT"
      "https://node.example.com/products/midnight"
      (some "70bf93310284b039f237e82db4407df3e3ca642fac2b9ebb02973764424c7418") Sample.artistKey
      1700000030 = .ok Sample.artistKey := by
  have hvalid : ValidAuthorization (Sample.crates Sample.upload).toNostrCrates
      ("Nostr " ++ Sample.uploadBase64) "PUT" "https://node.example.com/products/midnight"
      (some "70bf93310284b039f237e82db4407df3e3ca642fac2b9ebb02973764424c7418") Sample.artistKey
      1700000030 Sample.uploadEvent := {
    carried := authEvent_eq_ok.mp (Sample.authEvent_crates Sample.trim_upload)
    verifies := Sample.eventVerify_crates
    kind := rfl
    url := tagValue_eq_some.mp (by decide)
    method := ⟨"PUT", tagValue_eq_some.mp (by decide), by decide⟩
    fresh := (outsideWindow_eq_false (by decide)).mp (by decide)
    payload := by
      rintro hash hhash
      obtain rfl := Option.some.inj hhash
      exact ⟨"70bf93310284b039f237e82db4407df3e3ca642fac2b9ebb02973764424c7418",
        tagValue_eq_some.mp (by decide), by decide⟩
    signer := rfl }
  exact (verify_ok_iff (by decide)).mpr ⟨rfl, Sample.uploadEvent, hvalid⟩

end Nip98

/-! ### The signing helper -/

structure Keys where
  secret : ByteArray
deriving DecidableEq

/-- What `EventBuilder` collects before signing. -/
structure UnsignedEvent where
  createdAt : UInt64
  kind : UInt16
  tags : List Tag
  content : String
deriving DecidableEq

/-- The functions of other crates that the helper calls. A signature depends on random
    bytes as well. -/
structure SignerCrates where
  keysParse : String → Except String Keys
  publicKey : Keys → PublicKey
  toHex : PublicKey → String
  signWithKeys : (random : ByteArray) → Keys → UnsignedEvent → Except String Event
  asJson : Event → String
  base64Encode : ByteArray → String

namespace Nip98Sign

def usage : String :=
  "usage: nip98_sign pubkey <secret_hex> | nip98_sign header <secret_hex> <method> <url> " ++
  "[payload_sha256]"

/-- How the helper ends: with a line on standard output, with the usage text and exit code
    2, or in a panic. -/
inductive Outcome where
  | printed (line : String)
  | usage
  | panicked (message : String)
deriving DecidableEq

def headerTags (method url : String) (payload : Option String) : List Tag :=
  [["u", url], ["method", method]] ++ match payload with
    | some payload => [["payload", payload]]
    | none => []

def headerLine (lib : SignerCrates) (event : Event) : String :=
  "Nostr " ++ lib.base64Encode (lib.asJson event).toUTF8

/-- The `header` command. Arguments after the payload are ignored. -/
def header (lib : SignerCrates) (random : ByteArray) (now : UInt64) (args : List String) :
    Outcome :=
  match args with
  | secret :: method :: url :: rest =>
    match lib.keysParse secret with
    | .error e => .panicked s!"invalid secret key hex: {e}"
    | .ok keys =>
      match lib.signWithKeys random keys ⟨now, Nip98.httpAuth, headerTags method url rest.head?,
          ""⟩ with
      | .error e => .panicked s!"failed to sign auth event: {e}"
      | .ok event => .printed (headerLine lib event)
  | _ => .panicked usage

def pubkey (lib : SignerCrates) (args : List String) : Outcome :=
  match args with
  | secret :: _ =>
    match lib.keysParse secret with
    | .error e => .panicked s!"invalid secret key hex: {e}"
    | .ok keys => .printed (lib.toHex (lib.publicKey keys))
  | _ => .panicked usage

/-- `main`, on the arguments after the program's name. -/
def main (lib : SignerCrates) (random : ByteArray) (now : UInt64) : List String → Outcome
  | "pubkey" :: args => pubkey lib args
  | "header" :: args => header lib random now args
  | _ => .usage

/-- What the two programs rely on in the crates they share: an event signed by a key
    carries what was signed and verifies, and it is read back from its JSON and that from
    its base64 text, which has no blanks to trim. -/
structure Signed (signer : SignerCrates) (nostr : NostrCrates) (keys : Keys)
    (unsigned : UnsignedEvent) (event : Event) : Prop where
  pubkey : event.pubkey = signer.publicKey keys
  createdAt : event.createdAt = unsigned.createdAt
  kind : event.kind = unsigned.kind
  tags : event.tags = unsigned.tags
  verifies : nostr.eventVerify event = true
  json : nostr.eventFromJson (signer.asJson event) = .ok event
  base64 : nostr.base64Decode (signer.base64Encode (signer.asJson event).toUTF8) =
    some (signer.asJson event).toUTF8
  trimmed : trim (signer.base64Encode (signer.asJson event).toUTF8) =
    signer.base64Encode (signer.asJson event).toUTF8

/-- Every event that is signed is signed so. -/
def Agrees (signer : SignerCrates) (nostr : NostrCrates) : Prop :=
  ∀ random keys unsigned event, signer.signWithKeys random keys unsigned = .ok event →
    Signed signer nostr keys unsigned event

section Header

variable {signer : SignerCrates} {nostr : NostrCrates} {keys : Keys} {unsigned : UnsignedEvent}
variable {event : Event} {method url : String} {payload : Option String}

/-- A printed header carries the signed event and no other. -/
theorem Signed.authEvent (h : Signed signer nostr keys unsigned event) :
    Nip98.authEvent nostr (headerLine signer event) = .ok event := by
  apply Nip98.authEvent_eq_ok.mpr
  refine ⟨_, (signer.asJson event).toUTF8, signer.asJson event, rfl, ?_, fromUTF8_toUTF8 _, h.json⟩
  rw [h.trimmed]
  exact h.base64

/-! The verifier finds each tag that the signer wrote, whatever the other texts are. -/

theorem tagValue_url (htags : event.tags = headerTags method url payload) :
    Nip98.tagValue event "u" = some url := by
  simp [Nip98.tagValue, htags, headerTags]

theorem tagValue_method (htags : event.tags = headerTags method url payload) :
    Nip98.tagValue event "method" = some method := by
  simp [Nip98.tagValue, htags, headerTags]

theorem tagValue_payload (htags : event.tags = headerTags method url payload) :
    Nip98.tagValue event "payload" = payload := by
  rcases payload with _ | payload
  · simp [Nip98.tagValue, htags, headerTags]
  · simp [Nip98.tagValue, htags, headerTags]

/-- What the `header` command printed is the header of an event it signed. -/
theorem main_printed {random : ByteArray} {now : UInt64} {secret line : String}
    (hkeys : signer.keysParse secret = .ok keys)
    (h : main signer random now ("header" :: secret :: method :: url :: payload.toList) =
      .printed line) :
    ∃ event, signer.signWithKeys random keys
        ⟨now, Nip98.httpAuth, headerTags method url payload, ""⟩ = .ok event ∧
      line = headerLine signer event := by
  have hhead : payload.toList.head? = payload := by
    rcases payload with _ | payload <;> rfl
  simp only [main, header, hkeys, hhead] at h
  rcases hsign : signer.signWithKeys random keys
      ⟨now, Nip98.httpAuth, headerTags method url payload, ""⟩ with e | event
  · simp [hsign] at h
  · simp only [hsign, Outcome.printed.injEq] at h
    exact ⟨event, rfl, h.symm⟩

/-- The signer and the verifier agree: a printed header is accepted for the URL and the
    method it was signed for, within a minute, from the signer's key, for a body with the
    signed hash or without a check of the body, and for nothing else. -/
theorem header_verifies_iff {random : ByteArray} {c t : UInt64} {secret line m u : String}
    {b : Option String} {k : PublicKey} (hagrees : Agrees signer nostr)
    (hkeys : signer.keysParse secret = .ok keys)
    (hline : main signer random c ("header" :: secret :: method :: url :: payload.toList) =
      .printed line)
    (ht : t.toNat < 2 ^ 63) :
    (∃ pk, Nip98.verify nostr line m u b k t = .ok pk) ↔
      u = url ∧ eqIgnoreAsciiCase method m = true ∧ Nip98.WithinWindow c t ∧
        k = signer.publicKey keys ∧
        (b = none ∨ ∃ p hash, payload = some p ∧ b = some hash ∧
          eqIgnoreAsciiCase p hash = true) := by
  obtain ⟨event, hsign, rfl⟩ := main_printed hkeys hline
  have hsigned := hagrees _ _ _ _ hsign
  have hwindow : Nip98.outsideWindow event.createdAt t = false ↔ Nip98.WithinWindow c t := by
    rw [hsigned.createdAt]
    apply Nip98.outsideWindow_eq_false
    omega
  have hmethod := tagValue_method hsigned.tags
  have hpayload := tagValue_payload hsigned.tags
  constructor
  · rintro ⟨pk, hok⟩
    obtain ⟨-, event', ha⟩ := Nip98.verify_eq_ok.mp hok
    -- the header decodes to one event
    obtain rfl : event' = event := by
      have hdecodes := ha.decodes
      rw [hsigned.authEvent] at hdecodes
      exact (Except.ok.inj hdecodes).symm
    obtain ⟨m', hm', heq⟩ := ha.method
    obtain rfl : m' = method := Option.some.inj (hm'.symm.trans hmethod)
    refine ⟨Option.some.inj (ha.url.symm.trans (tagValue_url hsigned.tags)), heq,
      hwindow.mp ha.fresh, ha.signer.symm.trans hsigned.pubkey, ?_⟩
    rcases b with _ | hash
    · exact Or.inl rfl
    · obtain ⟨p, hp, hpeq⟩ := ha.payload hash rfl
      exact Or.inr ⟨p, hash, hpayload.symm.trans hp, rfl, hpeq⟩
  · rintro ⟨rfl, hm, hc, rfl, hb⟩
    refine ⟨_, Nip98.verify_eq_ok.mpr ⟨rfl, event, ?_⟩⟩
    exact {
      decodes := hsigned.authEvent
      verifies := hsigned.verifies
      kind := hsigned.kind
      url := tagValue_url hsigned.tags
      method := ⟨method, hmethod, hm⟩
      fresh := hwindow.mpr hc
      payload := by
        intro hash hhash
        rcases hb with rfl | ⟨p, hash', hp, hb, heq⟩
        · cases hhash
        · obtain rfl := Option.some.inj (hb.symm.trans hhash)
          exact ⟨p, hpayload.trans hp, heq⟩
      signer := hsigned.pubkey }

end Header

end Nip98Sign

namespace Sample

def artistSecret : String := "0000000000000000000000000000000000000000000000000000000000000003"

def artistKeys : Keys := ⟨⟨(List.replicate 31 (0 : UInt8) ++ [3]).toArray⟩⟩

def uploadUnsigned : UnsignedEvent where
  createdAt := 1700000000
  kind := Nip98.httpAuth
  tags := Nip98Sign.headerTags "PUT" "https://node.example.com/products/midnight"
    (some "70bf93310284b039f237e82db4407df3e3ca642fac2b9ebb02973764424c7418")
  content := ""

/-- The signer's crates, as they behave on the artist's key and the upload's event. -/
def signerCrates : SignerCrates where
  keysParse text := if text = artistSecret then .ok artistKeys else .error "not in the table"
  publicKey keys := if keys = artistKeys then artistKey else ⟨.empty⟩
  toHex key := Hex.encode key.bytes
  signWithKeys _ keys unsigned :=
    if keys = artistKeys ∧ unsigned = uploadUnsigned then .ok uploadEvent
    else .error "not in the table"
  asJson event := if event = uploadEvent then uploadJson else ""
  base64Encode raw := if raw = uploadJson.toUTF8 then uploadBase64 else ""

theorem keysParse_artist : signerCrates.keysParse artistSecret = .ok artistKeys := by
  simp only [signerCrates, if_true]

theorem signWithKeys_eq_ok {random : ByteArray} {keys : Keys} {unsigned : UnsignedEvent}
    {event : Event} : signerCrates.signWithKeys random keys unsigned = .ok event ↔
      (keys = artistKeys ∧ unsigned = uploadUnsigned) ∧ uploadEvent = event := by
  simp only [signerCrates]
  split <;> simp_all

theorem agrees_upload : Nip98Sign.Agrees signerCrates (crates upload).toNostrCrates := by
  intro random keys unsigned event hsign
  obtain ⟨⟨rfl, rfl⟩, rfl⟩ := signWithKeys_eq_ok.mp hsign
  have hjson : signerCrates.asJson uploadEvent = uploadJson := by
    simp only [signerCrates, if_true]
  have hbase64 : signerCrates.base64Encode uploadJson.toUTF8 = uploadBase64 := by
    simp only [signerCrates, if_true]
  have hdecoded : (crates upload).base64Decode uploadBase64 = some uploadJson.toUTF8 := by
    simp only [crates, upload, if_true]
  have hevent : (crates upload).eventFromJson uploadJson = .ok uploadEvent := by
    simp only [crates, upload, if_true]
  exact {
    pubkey := by simp only [signerCrates, if_true]; rfl
    createdAt := rfl
    kind := rfl
    tags := rfl
    verifies := eventVerify_crates
    json := by rw [hjson, hevent]
    base64 := by rw [hjson, hbase64, hdecoded]
    trimmed := by
      rw [hjson, hbase64]
      exact trim_upload }

end Sample

namespace Nip98Sign

/-- The artist signs an upload and the daemon verifies the printed header half a minute
    later. -/
theorem header_verifies_iff_upload :
    ∃ line, main Sample.signerCrates .empty 1700000000 ["header", Sample.artistSecret, "PUT",
        "https://node.example.com/products/midnight",
        "70bf93310284b039f237e82db4407df3e3ca642fac2b9ebb02973764424c7418"] = .printed line ∧
      ∃ pk, Nip98.verify (Sample.crates Sample.upload).toNostrCrates line "put"
        "https://node.example.com/products/midnight" none Sample.artistKey 1700000030 =
          .ok pk := by
  have hsign : Sample.signerCrates.signWithKeys .empty Sample.artistKeys Sample.uploadUnsigned =
      .ok Sample.uploadEvent := Sample.signWithKeys_eq_ok.mpr ⟨⟨rfl, rfl⟩, rfl⟩
  have hline : main Sample.signerCrates .empty 1700000000 ("header" :: Sample.artistSecret ::
      "PUT" :: "https://node.example.com/products/midnight" ::
      (some "70bf93310284b039f237e82db4407df3e3ca642fac2b9ebb02973764424c7418").toList) =
        .printed (headerLine Sample.signerCrates Sample.uploadEvent) := by
    simp only [main, header, Sample.keysParse_artist]
    rw [Option.toList_some, List.head?_cons]
    erw [hsign]
  refine ⟨_, hline, ?_⟩
  have hkey : Sample.artistKey = Sample.signerCrates.publicKey Sample.artistKeys := by
    simp only [Sample.signerCrates, if_true]
  exact (header_verifies_iff Sample.agrees_upload Sample.keysParse_artist hline
    (by decide)).mpr ⟨rfl, by decide, (Nip98.outsideWindow_eq_false (by decide)).mp (by decide),
      hkey, Or.inl rfl⟩

end Nip98Sign

end ArtistNode
