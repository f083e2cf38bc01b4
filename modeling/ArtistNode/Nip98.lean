import ArtistNode.Base.Text
import Mathlib

/-!
# NIP-98 HTTP authorization

`nip98.rs`: a signed kind-27235 event, carried in the `Authorization` header as
base64-encoded JSON. Base64 decoding, the event parser and the signature check
belong to other crates and are parameters. Additions of `u64` values wrap, as in
the release build.
-/

namespace ArtistNode

open Base

structure PublicKey where
  bytes : ByteArray
deriving DecidableEq

/-- A tag is a list of texts, the first of which is its name. -/
abbrev Tag := List String

structure Event where
  id : ByteArray
  pubkey : PublicKey
  createdAt : UInt64
  kind : UInt16
  tags : List Tag
  content : String
  sig : ByteArray
deriving DecidableEq

structure NostrCrates where
  base64Decode : String → Option ByteArray
  eventFromJson : String → Except String Event
  eventVerify : Event → Bool

namespace Nip98

def AUTH_WINDOW_SECS : UInt64 := 60

/-- `Kind::HttpAuth`. -/
def httpAuth : UInt16 := 27235

/-- The second entry of the first tag with this name and at least two entries. -/
def tagValue (event : Event) (name : String) : Option String :=
  event.tags.findSome? fun v =>
    match v with
    | name' :: value :: _ => if name' = name then some value else none
    | _ => none

/-- The event that an `Authorization` header carries, up to its signature check. -/
def authEvent (lib : NostrCrates) (authHeader : String) : Except String Event :=
  match stripPrefix "Nostr " authHeader with
  | none => .error "Authorization header must be 'Nostr <base64-event>'"
  | some b64 =>
    match lib.base64Decode (trim b64) with
    | none => .error "Invalid base64 in Authorization header"
    | some raw =>
      match String.fromUTF8? raw with
      | none => .error "Authorization event is not UTF-8"
      | some json =>
        match lib.eventFromJson json with
        | .error e => .error s!"Invalid auth event: {e}"
        | .ok event => .ok event

/-- Created too long ago, or too far in the future. -/
def outsideWindow (created nowSecs : UInt64) : Bool :=
  created + AUTH_WINDOW_SECS < nowSecs || created > nowSecs + AUTH_WINDOW_SECS

def checkUrl (event : Event) (expectedUrl : String) : Except String Unit :=
  match tagValue event "u" with
  | none => .error "Auth event missing u tag"
  | some url =>
    if url ≠ expectedUrl then .error s!"Auth URL mismatch: {url} != {expectedUrl}" else .ok ()

def checkMethod (event : Event) (method : String) : Except String Unit :=
  match tagValue event "method" with
  | none => .error "Auth event missing method tag"
  | some m =>
    if !eqIgnoreAsciiCase m method then .error s!"Auth method mismatch: {m} != {method}"
    else .ok ()

def checkPayload (event : Event) (bodySha256Hex : Option String) : Except String Unit :=
  match bodySha256Hex with
  | none => .ok ()
  | some expectedHash =>
    match tagValue event "payload" with
    | none => .error "Auth event missing payload tag"
    | some payload =>
      if !eqIgnoreAsciiCase payload expectedHash then
        .error "Auth payload hash does not match request body"
      else .ok ()

/-- Stop with `e` when the condition holds. -/
def refuseIf (refused : Prop) [Decidable refused] (e : String) : Except String Unit :=
  if refused then .error e else .ok ()

/-- `nip98::verify`: the signer's key, or the text of the first failed check. -/
def verify (lib : NostrCrates) (authHeader method expectedUrl : String)
    (bodySha256Hex : Option String) (expectedPubkey : PublicKey) (nowSecs : UInt64) :
    Except String PublicKey := do
  let event ← authEvent lib authHeader
  refuseIf (lib.eventVerify event = false) "Auth event signature verification failed"
  refuseIf (event.kind ≠ httpAuth) s!"Auth event kind must be 27235, got {event.kind}"
  checkUrl event expectedUrl
  checkMethod event method
  refuseIf (outsideWindow event.createdAt nowSecs = true) "Auth event outside freshness window"
  checkPayload event bodySha256Hex
  refuseIf (event.pubkey ≠ expectedPubkey)
    "Auth event signed by a different key than the configured artist"
  return event.pubkey

/-! ### What an accepted header says -/

/-- `Authorizes lib h method url hash key now`: the header `h` carries an event
    that the key signed for this method, URL and body within the window around
    `now`. -/
structure Authorizes (lib : NostrCrates) (authHeader method url : String)
    (bodySha256Hex : Option String) (key : PublicKey) (now : UInt64) (event : Event) :
    Prop where
  decodes : authEvent lib authHeader = .ok event
  verifies : lib.eventVerify event = true
  kind : event.kind = httpAuth
  url : tagValue event "u" = some url
  method : ∃ m, tagValue event "method" = some m ∧ eqIgnoreAsciiCase m method = true
  fresh : outsideWindow event.createdAt now = false
  payload : ∀ hash, bodySha256Hex = some hash →
    ∃ p, tagValue event "payload" = some p ∧ eqIgnoreAsciiCase p hash = true
  signer : event.pubkey = key

theorem checkUrl_eq_ok {event : Event} {url : String} :
    checkUrl event url = .ok () ↔ tagValue event "u" = some url := by
  unfold checkUrl
  cases tagValue event "u" with
  | none => simp
  | some u =>
    by_cases h : u = url <;> simp [h]

theorem checkMethod_eq_ok {event : Event} {method : String} :
    checkMethod event method = .ok () ↔
      ∃ m, tagValue event "method" = some m ∧ eqIgnoreAsciiCase m method = true := by
  unfold checkMethod
  cases tagValue event "method" with
  | none => simp
  | some m => cases h : eqIgnoreAsciiCase m method <;> simp [h]

theorem checkPayload_eq_ok {event : Event} {bodySha256Hex : Option String} :
    checkPayload event bodySha256Hex = .ok () ↔
      ∀ hash, bodySha256Hex = some hash →
        ∃ p, tagValue event "payload" = some p ∧ eqIgnoreAsciiCase p hash = true := by
  unfold checkPayload
  cases bodySha256Hex with
  | none => simp
  | some hash =>
    cases tagValue event "payload" with
    | none => simp
    | some p => cases h : eqIgnoreAsciiCase p hash <;> simp [h]

theorem refuseIf_eq_ok {refused : Prop} [Decidable refused] {e : String} :
    refuseIf refused e = .ok () ↔ ¬ refused := by
  unfold refuseIf
  split <;> simp [*]

theorem bind_eq_ok {α β : Type} {x : Except String α} {f : α → Except String β}
    {b : β} : (x >>= f) = .ok b ↔ ∃ a, x = .ok a ∧ f a = .ok b := by
  cases x with
  | error e =>
    constructor
    · intro h
      cases h
    · rintro ⟨a, h, -⟩
      cases h
  | ok a =>
    constructor
    · intro h
      exact ⟨a, rfl, h⟩
    · rintro ⟨a', h, hb⟩
      cases h
      exact hb

theorem check_bind_eq_ok {β : Type} {x : Except String Unit} {f : Unit → Except String β}
    {b : β} : (x >>= f) = .ok b ↔ x = .ok () ∧ f () = .ok b := by
  rw [bind_eq_ok]
  exact ⟨fun ⟨(), h⟩ => h, fun h => ⟨(), h⟩⟩

/-- `verify` accepts exactly the authorizations by the expected key. -/
theorem verify_eq_ok {lib : NostrCrates} {authHeader method url : String}
    {bodySha256Hex : Option String} {key pk : PublicKey} {now : UInt64} :
    verify lib authHeader method url bodySha256Hex key now = .ok pk ↔
      pk = key ∧ ∃ event, Authorizes lib authHeader method url bodySha256Hex key now event := by
  unfold verify
  simp only [bind_eq_ok (α := Event), check_bind_eq_ok, refuseIf_eq_ok, checkUrl_eq_ok,
    checkMethod_eq_ok, checkPayload_eq_ok, pure, Except.pure, Except.ok.injEq]
  constructor
  · rintro ⟨event, hd, hv, hk, hu, hm, hw, hp, hs, rfl⟩
    have hsigner : event.pubkey = key := not_not.mp hs
    exact ⟨hsigner, event, hd, by simpa using hv, not_not.mp hk, hu, hm, by simpa using hw,
      hp, hsigner⟩
  · rintro ⟨rfl, event, ha⟩
    exact ⟨event, ha.decodes, by simp [ha.verifies], by simp [ha.kind], ha.url, ha.method,
      by simp [ha.fresh], ha.payload, by simp [ha.signer], ha.signer⟩

/-! ### The freshness window

Both additions wrap. A sum that wraps is small, so the comparison it stands in
fails the check; hence no header is accepted outside the window, not even at the
ends of the `u64` range. -/

theorem within_window {created now : UInt64} (h : outsideWindow created now = false) :
    created.toNat ≤ now.toNat + 60 ∧ now.toNat ≤ created.toNat + 60 := by
  simp only [outsideWindow, AUTH_WINDOW_SECS, gt_iff_lt, Bool.or_eq_false_iff,
    decide_eq_false_iff_not, UInt64.lt_iff_toNat_lt, UInt64.toNat_add, Nat.not_lt] at h
  have hc := created.toNat_lt
  have hn := now.toNat_lt
  have h60 : (60 : UInt64).toNat = 60 := rfl
  omega

end Nip98

end ArtistNode
