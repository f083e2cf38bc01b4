import ArtistNode.Pricing

/-!
# Asking the node for an invoice

The purchase gate and the LNURL callback both ask the node for an invoice, and both
choose between a plain one and one over a just-in-time channel. The callback has a
range in front of that choice, which its metadata advertises; the gate has none. Of an
execution, only the attempts at an invoice are looked at here.
-/

namespace ArtistNode

open Base

/-! ### Capacity -/

/-- The total inbound capacity of the usable channels. -/
def usableMsat (channels : List ChannelDetails) : Nat :=
  ((channels.filter (·.isUsable)).map (·.inboundCapacityMsat.toNat)).sum

theorem toNat_inboundMsat (channels : List ChannelDetails) :
    (Gate.inboundMsat channels).toNat = usableMsat channels % 2 ^ 64 := by
  unfold Gate.inboundMsat usableMsat
  induction channels.filter (·.isUsable) with
  | nil => rfl
  | cons c rest ih =>
    simp only [List.map_cons, List.sum_cons, UInt64.toNat_add]
    omega

theorem inboundMsat_eq (channels : List ChannelDetails) :
    Gate.inboundMsat channels = .ofNat (usableMsat channels) := by
  rw [← UInt64.toNat_inj, toNat_inboundMsat, UInt64.toNat_ofNat']

theorem minSendable_le_maxSendable (inbound : UInt64) :
    Lnurl.MIN_SENDABLE_MSAT ≤ Lnurl.maxSendableMsat inbound := by
  unfold Lnurl.maxSendableMsat
  split
  · assumption
  · decide

/-! ### Attempts -/

inductive Attempt where
  | plain (amountMsat : UInt64)
  | jit (amountMsat : UInt64)
deriving DecidableEq

/-- The attempt that a call makes, and whether the node issued the invoice. -/
def attempt : DaemonCall → Option (Attempt × Bool)
  | ⟨.receive amountMsat _ _, ans⟩ => some (.plain amountMsat, ans.isOk)
  | ⟨.receiveViaJitChannel amountMsat _ _, ans⟩ => some (.jit amountMsat, ans.isOk)
  | _ => none

def PlainOnly (amountMsat : UInt64) (t : List (Attempt × Bool)) : Prop :=
  ∃ ok, t = [(.plain amountMsat, ok)]

def JitThenPlain (amountMsat : UInt64) (t : List (Attempt × Bool)) : Prop :=
  t = [(.jit amountMsat, true)] ∨ ∃ ok, t = [(.jit amountMsat, false), (.plain amountMsat, ok)]

/-- A plain invoice when the capacity holds the amount; otherwise a just-in-time channel,
    and a plain invoice if that fails. -/
def ReceivePolicy (capacityMsat : Nat) (amountMsat : UInt64) (t : List (Attempt × Bool)) : Prop :=
  if amountMsat.toNat ≤ capacityMsat then PlainOnly amountMsat t else JitThenPlain amountMsat t

section Attempts

variable {R : DaemonCall → Prop} {inbound amountMsat : UInt64} {t : List (Attempt × Bool)}
variable {desc : InvoiceDescription} {capacityMsat : Nat}

theorem receivePolicy_of_le (h : amountMsat.toNat ≤ capacityMsat) :
    ReceivePolicy capacityMsat amountMsat t ↔ PlainOnly amountMsat t := by
  rw [ReceivePolicy, if_pos h]

theorem receivePolicy_of_lt (h : capacityMsat < amountMsat.toNat) :
    ReceivePolicy capacityMsat amountMsat t ↔ JitThenPlain amountMsat t := by
  rw [ReceivePolicy, if_neg (Nat.not_le.mpr h)]

/-- Where the answers to the attempts are left open, the choice both handlers share
    makes the attempts of the policy. -/
theorem requestInvoice_trace (hopen : ∀ c, (attempt c).isSome → R c) :
    Trace R attempt (Lnurl.requestInvoice inbound amountMsat desc) t ↔
      ReceivePolicy inbound.toNat amountMsat t := by
  have hplain : ∀ ans, R ⟨.receive amountMsat desc Lnurl.INVOICE_EXPIRY_SECS, ans⟩ :=
    fun ans => hopen _ rfl
  have hjit : ∀ ans, R ⟨.receiveViaJitChannel amountMsat desc Lnurl.INVOICE_EXPIRY_SECS, ans⟩ :=
    fun ans => hopen _ rfl
  have hplainShows : ∀ t, Trace R attempt
      (Effect.receive amountMsat desc Lnurl.INVOICE_EXPIRY_SECS) t ↔ PlainOnly amountMsat t := by
    intro t
    simp only [Trace, perform, shows_call, shows_done]
    constructor
    · rintro ⟨a, ans, t', -, ⟨rfl, -⟩, rfl⟩
      exact ⟨ans.isOk, rfl⟩
    · rintro ⟨ok, rfl⟩
      cases ok with
      | true => exact ⟨.ok ⟨"", .empty⟩, _, _, hplain _, ⟨rfl, rfl⟩, rfl⟩
      | false => exact ⟨.error "", _, _, hplain _, ⟨rfl, rfl⟩, rfl⟩
  unfold Lnurl.requestInvoice
  by_cases hroom : inbound ≥ amountMsat
  · rw [if_pos hroom, receivePolicy_of_le (UInt64.le_iff_toNat_le.mp hroom)]
    exact hplainShows t
  · rw [if_neg hroom,
      receivePolicy_of_lt (UInt64.lt_iff_toNat_lt.mp (UInt64.not_le.mp hroom))]
    simp only [Trace, perform_bind, shows_call]
    constructor
    · rintro ⟨a, ans, t', -, hshown, rfl⟩
      rcases ans with e | inv
      · obtain ⟨ok, rfl⟩ := (hplainShows t').mp ⟨a, hshown⟩
        exact Or.inr ⟨ok, rfl⟩
      · obtain ⟨rfl, -⟩ := shows_done.mp hshown
        exact Or.inl rfl
    · rintro (rfl | ⟨ok, rfl⟩)
      · exact ⟨_, .ok ⟨"", .empty⟩, [], hjit _, shows_done.mpr ⟨rfl, rfl⟩, rfl⟩
      · obtain ⟨a, hshown⟩ := (hplainShows [(.plain amountMsat, ok)]).mpr ⟨ok, rfl⟩
        exact ⟨a, .error "", _, hjit _, hshown, rfl⟩

end Attempts

/-! ### The LNURL callback -/

def belowMinimum : String := s!"Amount below minimum of {Lnurl.MIN_SENDABLE_MSAT} msat"

def aboveMaximum (maxSendable : UInt64) : String :=
  s!"Amount above maximum of {maxSendable} msat — receiving capacity is limited"

/-- The answers that refuse a payment for its amount. -/
def AmountReason (reason : String) : Prop :=
  reason = belowMinimum ∨ ∃ maxSendable, reason = aboveMaximum maxSendable

theorem not_amountReason : ¬ AmountReason "Could not create invoice" := by
  have happend : ∀ a b : String, a.toList.head? = some 'A' →
      (a ++ b).toList.head? = some 'A' := by
    intro a b ha
    rw [String.toList_append, List.head?_append, ha]
    rfl
  have hhead : ∀ reason, AmountReason reason → reason.toList.head? = some 'A' := by
    rintro reason (rfl | ⟨maxSendable, rfl⟩)
    · exact happend _ _ (happend _ _ (by decide))
    · exact happend _ _ (happend _ _ (by decide))
  intro hreason
  exact absurd (hhead _ hreason) (by decide)

/-- The node lists these channels whenever it is asked. -/
def OnChannels (channels : List ChannelDetails) : DaemonCall → Prop
  | ⟨.listChannels, ans⟩ => ans = channels
  | _ => True

theorem onChannels_open {channels : List ChannelDetails} :
    ∀ c, (attempt c).isSome → OnChannels channels c := by
  rintro ⟨op, ans⟩ hattempt
  cases op with
  | listChannels => cases hattempt
  | _ => trivial

section Callback

variable {lib : Crates} {st : Lnurl.LnurlState} {name : String} {comment : Option String}
variable {channels : List ChannelDetails} {amountMsat : UInt64} {t : List (Attempt × Bool)}
variable {resp : Response}

theorem metadata_shows (hname : eqIgnoreAsciiCase name (Lnurl.localPart st.address) = true) :
    Shows (OnChannels channels) attempt (Lnurl.lnurlp lib st name ⟨none, comment⟩) t resp ↔
      t = [] ∧ resp = .payRequest ⟨Lnurl.callbackUrl st, Lnurl.MIN_SENDABLE_MSAT,
        Lnurl.maxSendableMsat (Gate.inboundMsat channels),
        Lnurl.metadataString lib st.artistName st.address, 0⟩ := by
  simp only [Lnurl.lnurlp, hname, Bool.not_true, Bool.false_eq_true, if_false,
    Lnurl.metadataResponse, perform_bind]
  rw [shows_call_answer rfl fun ans => Iff.rfl]
  exact shows_done

/-- The callback after the channels were listed. -/
theorem callback_shows (hname : eqIgnoreAsciiCase name (Lnurl.localPart st.address) = true) :
    Shows (OnChannels channels) attempt (Lnurl.lnurlp lib st name ⟨some amountMsat, comment⟩) t
        resp ↔
      if amountMsat < Lnurl.MIN_SENDABLE_MSAT then t = [] ∧ resp = .lnurlError belowMinimum
      else if amountMsat > Lnurl.maxSendableMsat (Gate.inboundMsat channels) then
        t = [] ∧ resp = .lnurlError
          (aboveMaximum (Lnurl.maxSendableMsat (Gate.inboundMsat channels)))
      else
        ∃ issued, Shows (OnChannels channels) attempt
          (Lnurl.requestInvoice (Gate.inboundMsat channels) amountMsat
            (.hash (lib.sha256 (Lnurl.metadataString lib st.artistName st.address).toUTF8))) t
          issued ∧
        resp = match issued with
          | .ok inv => .lnurlInvoice inv.bolt11
          | .error _ => .lnurlError "Could not create invoice" := by
  simp only [Lnurl.lnurlp, hname, Bool.not_true, Bool.false_eq_true, if_false,
    Lnurl.invoiceResponse, perform_bind]
  rw [shows_call_answer rfl fun ans => Iff.rfl]
  split
  · exact shows_done
  split
  · exact shows_done
  rw [shows_bind]
  constructor
  · rintro ⟨t₁, issued, t₂, hfirst, hrest, rfl⟩
    rcases issued with e | inv
    all_goals
      obtain ⟨rfl, rfl⟩ := shows_done.mp hrest
      exact ⟨_, by rwa [List.append_nil], rfl⟩
  · rintro ⟨issued, hfirst, rfl⟩
    refine ⟨t, issued, [], hfirst, ?_, (List.append_nil t).symm⟩
    rcases issued with e | inv
    all_goals exact shows_done.mpr ⟨rfl, rfl⟩

/-- Below the range the callback says so and does nothing else, whatever it is answered. -/
theorem callback_below (hname : eqIgnoreAsciiCase name (Lnurl.localPart st.address) = true)
    (hlow : amountMsat < Lnurl.MIN_SENDABLE_MSAT) :
    Shows (OnChannels channels) attempt (Lnurl.lnurlp lib st name ⟨some amountMsat, comment⟩) t
        resp ↔ t = [] ∧ resp = .lnurlError belowMinimum := by
  rw [callback_shows hname, if_pos hlow]

theorem callback_above (hname : eqIgnoreAsciiCase name (Lnurl.localPart st.address) = true)
    (hhigh : Lnurl.maxSendableMsat (Gate.inboundMsat channels) < amountMsat) :
    Shows (OnChannels channels) attempt (Lnurl.lnurlp lib st name ⟨some amountMsat, comment⟩) t
        resp ↔ t = [] ∧ resp = .lnurlError
          (aboveMaximum (Lnurl.maxSendableMsat (Gate.inboundMsat channels))) := by
  have hrange := minSendable_le_maxSendable (Gate.inboundMsat channels)
  have hlow : ¬ amountMsat < Lnurl.MIN_SENDABLE_MSAT := by
    rw [UInt64.lt_iff_toNat_lt] at hhigh ⊢
    rw [UInt64.le_iff_toNat_le] at hrange
    omega
  rw [callback_shows hname, if_neg hlow, if_pos hhigh]

/-- Within the range no answer refuses the amount. -/
theorem callback_accepted (hname : eqIgnoreAsciiCase name (Lnurl.localPart st.address) = true)
    (hlow : ¬ amountMsat < Lnurl.MIN_SENDABLE_MSAT)
    (hhigh : ¬ amountMsat > Lnurl.maxSendableMsat (Gate.inboundMsat channels))
    (hshown : Shows (OnChannels channels) attempt
      (Lnurl.lnurlp lib st name ⟨some amountMsat, comment⟩) t resp)
    {reason : String} (hreason : AmountReason reason) : resp ≠ .lnurlError reason := by
  rw [callback_shows hname, if_neg hlow, if_neg hhigh] at hshown
  obtain ⟨issued, -, rfl⟩ := hshown
  intro hresp
  rcases issued with e | inv
  · obtain rfl := Response.lnurlError.inj hresp
    exact not_amountReason hreason
  · cases hresp

theorem callback_trace (hname : eqIgnoreAsciiCase name (Lnurl.localPart st.address) = true)
    (hlow : ¬ amountMsat < Lnurl.MIN_SENDABLE_MSAT)
    (hhigh : ¬ amountMsat > Lnurl.maxSendableMsat (Gate.inboundMsat channels)) :
    Trace (OnChannels channels) attempt (Lnurl.lnurlp lib st name ⟨some amountMsat, comment⟩) t ↔
      ReceivePolicy (usableMsat channels % 2 ^ 64) amountMsat t := by
  rw [← toNat_inboundMsat, ← requestInvoice_trace onChannels_open]
  simp only [Trace, callback_shows hname, hlow, hhigh, if_false]
  constructor
  · rintro ⟨resp, issued, hshown, -⟩
    exact ⟨issued, hshown⟩
  · rintro ⟨issued, hshown⟩
    exact ⟨_, issued, hshown, rfl⟩

/-- An amount for which the node is asked at all is within the range. -/
theorem callback_attempted (hname : eqIgnoreAsciiCase name (Lnurl.localPart st.address) = true)
    (hshown : Trace (OnChannels channels) attempt
      (Lnurl.lnurlp lib st name ⟨some amountMsat, comment⟩) t) (hne : t ≠ []) :
    Lnurl.MIN_SENDABLE_MSAT ≤ amountMsat ∧
      amountMsat ≤ Lnurl.maxSendableMsat (Gate.inboundMsat channels) := by
  obtain ⟨resp, hshown⟩ := hshown
  rw [callback_shows hname] at hshown
  split at hshown
  · exact absurd hshown.1 hne
  split at hshown
  · exact absurd hshown.1 hne
  · rename_i hlow hhigh
    exact ⟨UInt64.not_lt.mp hlow, UInt64.not_lt.mp hhigh⟩

end Callback

/-! ### What the metadata advertises -/

/-- The callback keeps to what a metadata response advertised. Outside the range it refuses
    the amount in every execution, and asks for no invoice; within, in none. Within, it
    attempts a plain invoice for the amount where the capacity holds it, and a just-in-time
    channel for it elsewhere. -/
structure KeepsTo (request : PayRequest) (channels : List ChannelDetails) (amountMsat : UInt64)
    (callback : Handler Response) : Prop where
  range : request.minSendable ≤ request.maxSendable
  below : amountMsat < request.minSendable → ∀ t resp,
    Shows (OnChannels channels) attempt callback t resp ↔
      t = [] ∧ resp = .lnurlError belowMinimum
  above : request.maxSendable < amountMsat → ∀ t resp,
    Shows (OnChannels channels) attempt callback t resp ↔
      t = [] ∧ resp = .lnurlError (aboveMaximum request.maxSendable)
  accepted : request.minSendable ≤ amountMsat → amountMsat ≤ request.maxSendable →
    ∀ t resp reason, Shows (OnChannels channels) attempt callback t resp →
      AmountReason reason → resp ≠ .lnurlError reason
  first : request.minSendable ≤ amountMsat → amountMsat ≤ request.maxSendable →
    ((∀ t, Trace (OnChannels channels) attempt callback t →
        ∃ ok rest, t = (.plain amountMsat, ok) :: rest) ↔
      amountMsat.toNat ≤ usableMsat channels)
  plain : request.minSendable ≤ amountMsat → amountMsat ≤ request.maxSendable →
    amountMsat.toNat ≤ usableMsat channels →
    ∀ t, Trace (OnChannels channels) attempt callback t ↔ PlainOnly amountMsat t
  fallback : request.minSendable ≤ amountMsat → amountMsat ≤ request.maxSendable →
    usableMsat channels < amountMsat.toNat →
    ∀ t, Trace (OnChannels channels) attempt callback t ↔ JitThenPlain amountMsat t
  threshold : ∀ t a ok, Trace (OnChannels channels) attempt callback t → (.jit a, ok) ∈ t →
    usableMsat channels < 1000

section KeepsTo

variable {inbound amountMsat : UInt64}

theorem jitThenPlain_not_plain (amountMsat a : UInt64) :
    ∃ t, JitThenPlain amountMsat t ∧ ¬ ∃ ok rest, t = (.plain a, ok) :: rest := by
  refine ⟨[(.jit amountMsat, true)], Or.inl rfl, ?_⟩
  rintro ⟨ok, rest, heq⟩
  cases heq

/-- A capacity that is below an accepted amount is below the threshold of the range. -/
theorem inbound_lt_minSendable (hhigh : amountMsat ≤ Lnurl.maxSendableMsat inbound)
    (hshort : inbound < amountMsat) : inbound < Lnurl.MIN_SENDABLE_MSAT := by
  unfold Lnurl.maxSendableMsat at hhigh
  split at hhigh
  · rw [UInt64.le_iff_toNat_le] at hhigh
    rw [UInt64.lt_iff_toNat_lt] at hshort
    omega
  · rename_i hbelow
    exact UInt64.not_le.mp hbelow

end KeepsTo

/-- The node advertises what it accepts: over unchanged channels, whose capacities add up
    to a `u64`, there is one metadata response, and the callback keeps to it. -/
theorem callback_keeps_to_metadata {lib : Crates} {st : Lnurl.LnurlState} {name : String}
    {comment comment' : Option String} {channels : List ChannelDetails} {amountMsat : UInt64}
    (hname : eqIgnoreAsciiCase name (Lnurl.localPart st.address) = true)
    (hfits : usableMsat channels < 2 ^ 64) :
    ∃ request,
      (∀ t resp, Shows (OnChannels channels) attempt (Lnurl.lnurlp lib st name ⟨none, comment⟩) t
        resp ↔ t = [] ∧ resp = .payRequest request) ∧
      KeepsTo request channels amountMsat
        (Lnurl.lnurlp lib st name ⟨some amountMsat, comment'⟩) := by
  have hmod : usableMsat channels % 2 ^ 64 = usableMsat channels := Nat.mod_eq_of_lt hfits
  refine ⟨_, fun t resp => metadata_shows hname, ?_⟩
  have htrace : Lnurl.MIN_SENDABLE_MSAT ≤ amountMsat →
      amountMsat ≤ Lnurl.maxSendableMsat (Gate.inboundMsat channels) → ∀ t,
      Trace (OnChannels channels) attempt
          (Lnurl.lnurlp lib st name ⟨some amountMsat, comment'⟩) t ↔
        ReceivePolicy (usableMsat channels) amountMsat t := by
    intro hlow hhigh t
    rw [callback_trace hname (UInt64.not_lt.mpr hlow) (UInt64.not_lt.mpr hhigh), hmod]
  constructor
  case range => exact minSendable_le_maxSendable _
  case below => exact fun hlow t resp => callback_below hname hlow
  case above => exact fun hhigh t resp => callback_above hname hhigh
  case accepted =>
    intro hlow hhigh t resp reason hshown hreason
    exact callback_accepted hname (UInt64.not_lt.mpr hlow) (UInt64.not_lt.mpr hhigh) hshown hreason
  case first =>
    intro hlow hhigh
    simp only [htrace hlow hhigh]
    constructor
    · intro hfirst
      by_contra hshort
      obtain ⟨t, hjit, hnot⟩ := jitThenPlain_not_plain amountMsat amountMsat
      exact hnot (hfirst t ((receivePolicy_of_lt (Nat.not_le.mp hshort)).mpr hjit))
    · intro hroom t hpolicy
      obtain ⟨ok, rfl⟩ := (receivePolicy_of_le hroom).mp hpolicy
      exact ⟨ok, [], rfl⟩
  case plain =>
    intro hlow hhigh hroom t
    rw [htrace hlow hhigh]
    exact receivePolicy_of_le hroom
  case fallback =>
    intro hlow hhigh hshort t
    rw [htrace hlow hhigh]
    exact receivePolicy_of_lt hshort
  case threshold =>
    intro t a ok hshown hmem
    obtain ⟨hlow, hhigh⟩ := callback_attempted hname hshown (List.ne_nil_of_mem hmem)
    rw [htrace hlow hhigh] at hshown
    by_cases hroom : amountMsat.toNat ≤ usableMsat channels
    · obtain ⟨ok', rfl⟩ := (receivePolicy_of_le hroom).mp hshown
      simp at hmem
    · have hinbound : (Gate.inboundMsat channels).toNat = usableMsat channels :=
        (toNat_inboundMsat channels).trans hmod
      have hshort : Gate.inboundMsat channels < amountMsat := by
        rw [UInt64.lt_iff_toNat_lt, hinbound]
        exact Nat.not_le.mp hroom
      rw [← hinbound]
      exact inbound_lt_minSendable hhigh hshort

namespace Sample

theorem ownName : eqIgnoreAsciiCase "ARTIST"
    (Lnurl.localPart (daemon upload).lnurlState.address) = true := by
  decide

end Sample

/-- 5000 millisatoshis asked of a node with one channel of 10000000. -/
theorem callback_keeps_to_metadata_wide :
    usableMsat [Sample.wideChannel] < 2 ^ 64 ∧ ∃ request,
      (∀ t resp, Shows (OnChannels [Sample.wideChannel]) attempt
        (Lnurl.lnurlp (Sample.crates Sample.upload) (Sample.daemon Sample.upload).lnurlState
          "ARTIST" ⟨none, none⟩) t resp ↔ t = [] ∧ resp = .payRequest request) ∧
      KeepsTo request [Sample.wideChannel] 5000
        (Lnurl.lnurlp (Sample.crates Sample.upload) (Sample.daemon Sample.upload).lnurlState
          "ARTIST" ⟨some 5000, none⟩) :=
  ⟨by decide, callback_keeps_to_metadata Sample.ownName (by decide)⟩

/-! ### Zaps and sales -/

/-- The store hands out this snapshot, and the node lists these channels. -/
def OnSnapshot (l : Locked) (channels : List ChannelDetails) : DaemonCall → Prop
  | ⟨.lock, ans⟩ => ans = some l
  | ⟨.listChannels, ans⟩ => ans = channels
  | _ => True

/-- On this snapshot the request is for a listed product, at this amount. -/
def SoldAt (lib : Crates) (st : Gate.GateState) (slug : String)
    (body : Option Gate.InvoiceRequest) (l : Locked) (amountSats : UInt64) : Prop :=
  ∃ p desc, l.store.getProduct slug = some p ∧
    Gate.resolveAmount p.priceSats p.floorSats (body.bind (·.amountSats)) = .ok amountSats ∧
    lib.descriptionNew (Gate.saleDescription st p.title) = some desc

section Sale

variable {lib : Crates} {st : Gate.GateState} {slug : String} {body : Option Gate.InvoiceRequest}
variable {l : Locked} {channels : List ChannelDetails} {amountSats amountMsat : UInt64}
variable {t : List (Attempt × Bool)}

theorem onSnapshot_open : ∀ c, (attempt c).isSome → OnSnapshot l channels c := by
  rintro ⟨op, ans⟩ hattempt
  cases op with
  | lock => cases hattempt
  | listChannels => cases hattempt
  | _ => trivial

theorem shows_lock {α : Type} {k : Option Locked → Handler α} {a : α} :
    Shows (OnSnapshot l channels) attempt (.call .lock k) t a ↔
      Shows (OnSnapshot l channels) attempt (k (some l)) t a :=
  shows_call_answer rfl fun _ => Iff.rfl

theorem shows_listChannels {α : Type} {k : List ChannelDetails → Handler α} {a : α} :
    Shows (OnSnapshot l channels) attempt (.call .listChannels k) t a ↔
      Shows (OnSnapshot l channels) attempt (k channels) t a :=
  shows_call_answer rfl fun _ => Iff.rfl

/-- What a sale does after it has asked for the invoice makes no further attempt. -/
theorem sell_trace {desc : InvoiceDescription} :
    Trace (OnSnapshot l channels) attempt (Gate.sell lib slug amountSats amountMsat desc) t ↔
      ReceivePolicy (usableMsat channels % 2 ^ 64) amountMsat t := by
  unfold Gate.sell
  rw [← toNat_inboundMsat, trace_bind_silent]
  · unfold Gate.requestInvoice
    simp only [perform_bind, Trace, shows_listChannels]
    exact requestInvoice_trace onSnapshot_open
  · intro issued
    rcases issued with e | invoice
    · exact silent_done _
    simp only [Gate.newClaimToken, perform_bind]
    refine .call (fun _ => rfl) ⟨.error "", trivial⟩ fun random => ?_
    rcases random with e | bytes
    · exact silent_done _
    refine .call (fun _ => rfl) ⟨0, trivial⟩ fun now => ?_
    refine .call (fun _ => rfl) ⟨none, trivial⟩ fun created => ?_
    rcases created with _ | created
    · exact silent_done _
    rcases created with e | _
    · exact silent_done _
    · exact silent_done _

theorem postInvoice_trace (hsold : SoldAt lib st slug body l amountSats)
    (hpositive : amountSats ≠ 0) :
    Trace (OnSnapshot l channels) attempt (Gate.postInvoice lib st slug body) t ↔
      ReceivePolicy (usableMsat channels % 2 ^ 64) (amountSats * 1000) t := by
  obtain ⟨p, desc, hp, hamount, hdesc⟩ := hsold
  have hsell : Trace (OnSnapshot l channels) attempt
      (Gate.sell lib slug amountSats (amountSats * 1000) (.direct desc)) t ↔
        ReceivePolicy (usableMsat channels % 2 ^ 64) (amountSats * 1000) t := sell_trace
  rw [← hsell]
  unfold Gate.postInvoice
  simp only [perform_bind, Trace, shows_lock, hp, hamount, hpositive, if_false, hdesc]

end Sale

/-- How the callback and a sale at the same amount ask for an invoice, where the capacity is
    the sum in 64 bits. A sale follows the policy. The callback does as well, unless there is
    capacity within its range and that does not hold the amount: it then refuses, and the
    node is not asked. -/
structure FollowsSale (channels : List ChannelDetails) (l : Locked) (amountMsat : UInt64)
    (zap sale : Handler Response) : Prop where
  policy : ∀ t, Trace (OnSnapshot l channels) attempt sale t ↔
    ReceivePolicy (usableMsat channels % 2 ^ 64) amountMsat t
  same : usableMsat channels % 2 ^ 64 < 1000 ∨
      amountMsat.toNat ≤ usableMsat channels % 2 ^ 64 →
    ∀ t, Trace (OnChannels channels) attempt zap t ↔ Trace (OnSnapshot l channels) attempt sale t
  short : 1000 ≤ usableMsat channels % 2 ^ 64 → usableMsat channels % 2 ^ 64 < amountMsat.toNat →
    ∀ t resp, Shows (OnChannels channels) attempt zap t resp ↔
      t = [] ∧ resp = .lnurlError (aboveMaximum (.ofNat (usableMsat channels)))

theorem maxSendableMsat_of_le {inbound : UInt64} (h : Lnurl.MIN_SENDABLE_MSAT ≤ inbound) :
    Lnurl.maxSendableMsat inbound = inbound := by
  rw [Lnurl.maxSendableMsat, if_pos h]

theorem maxSendableMsat_of_lt {inbound : UInt64} (h : inbound < Lnurl.MIN_SENDABLE_MSAT) :
    Lnurl.maxSendableMsat inbound = Lnurl.FALLBACK_MAX_SENDABLE_MSAT := by
  rw [Lnurl.maxSendableMsat, if_neg (UInt64.not_le.mpr h)]

/-- A zap and a sale of as many satoshis, from the smallest amount of the range up to its
    fallback ceiling. -/
theorem zap_follows_sale {lib : Crates} {lnurl : Lnurl.LnurlState} {gate : Gate.GateState}
    {name slug : String} {comment : Option String} {body : Option Gate.InvoiceRequest}
    {l : Locked} {channels : List ChannelDetails} {amountSats : UInt64}
    (hname : eqIgnoreAsciiCase name (Lnurl.localPart lnurl.address) = true)
    (hsold : SoldAt lib gate slug body l amountSats)
    (hlow : Lnurl.MIN_SENDABLE_MSAT.toNat ≤ 1000 * amountSats.toNat)
    (hhigh : 1000 * amountSats.toNat ≤ Lnurl.FALLBACK_MAX_SENDABLE_MSAT.toNat) :
    FollowsSale channels l (amountSats * 1000)
      (Lnurl.lnurlp lib lnurl name ⟨some (amountSats * 1000), comment⟩)
      (Gate.postInvoice lib gate slug body) := by
  have hfallback : Lnurl.FALLBACK_MAX_SENDABLE_MSAT.toNat < 2 ^ 64 := UInt64.toNat_lt _
  have hexact : (amountSats * 1000).toNat = 1000 * amountSats.toNat :=
    (toNat_mul_1000 amountSats).mpr (by omega)
  have hpositive : amountSats ≠ 0 := by
    rintro rfl
    exact absurd hlow (by decide)
  have hmin : ¬ amountSats * 1000 < Lnurl.MIN_SENDABLE_MSAT := by
    rw [UInt64.lt_iff_toNat_lt, hexact]
    omega
  have hceiling : amountSats * 1000 ≤ Lnurl.FALLBACK_MAX_SENDABLE_MSAT := by
    rw [UInt64.le_iff_toNat_le, hexact]
    exact hhigh
  have hinbound := toNat_inboundMsat channels
  constructor
  case policy => exact fun t => postInvoice_trace hsold hpositive
  case same =>
    intro hcase t
    have hmax : amountSats * 1000 ≤ Lnurl.maxSendableMsat (Gate.inboundMsat channels) := by
      by_cases hnone : Gate.inboundMsat channels < Lnurl.MIN_SENDABLE_MSAT
      · rw [maxSendableMsat_of_lt hnone]
        exact hceiling
      · rw [maxSendableMsat_of_le (UInt64.not_lt.mp hnone), UInt64.le_iff_toNat_le, hinbound]
        rw [UInt64.lt_iff_toNat_lt, hinbound] at hnone
        exact hcase.resolve_left hnone
    rw [callback_trace hname hmin (UInt64.not_lt.mpr hmax), postInvoice_trace hsold hpositive]
  case short =>
    intro hcapacity hshort t resp
    have hmax : Lnurl.maxSendableMsat (Gate.inboundMsat channels) = .ofNat (usableMsat channels) := by
      rw [maxSendableMsat_of_le, inboundMsat_eq]
      rw [UInt64.le_iff_toNat_le, hinbound]
      exact hcapacity
    have habove : Lnurl.maxSendableMsat (Gate.inboundMsat channels) < amountSats * 1000 := by
      rw [hmax, UInt64.lt_iff_toNat_lt, UInt64.toNat_ofNat']
      exact hshort
    rw [callback_above hname habove, hmax]

namespace Sample

/-- The track at a fixed price. -/
def pricedAt (priceSats : UInt64) : ProductRecord := { midnight with priceSats := priceSats }

def narrowChannel : ChannelDetails := ⟨true, 2000⟩

/-- A zap of so many millisatoshis to the node. -/
def zap (amountMsat : UInt64) : Handler Response :=
  Lnurl.lnurlp (crates upload) (daemon upload).lnurlState "ARTIST" ⟨some amountMsat, none⟩

def saleOf : Handler Response :=
  Gate.postInvoice (crates upload) (daemon upload).gateState "midnight" none

theorem pricedAt_sold (priceSats : UInt64) :
    SoldAt (crates upload) (daemon upload).gateState "midnight" none (locked (pricedAt priceSats))
      priceSats := by
  have hdesc : (crates upload).descriptionNew
      (Gate.saleDescription (daemon upload).gateState "Midnight") = some description := by
    decide
  exact ⟨pricedAt priceSats, description, getProduct_locked rfl, rfl, hdesc⟩

end Sample

/-- The track at 5 satoshis, and a zap of 5000 millisatoshis, to a node with a wide
    channel. -/
theorem zap_follows_sale_wide :
    FollowsSale [Sample.wideChannel] (Sample.locked (Sample.pricedAt 5)) (5 * 1000)
      (Sample.zap (5 * 1000)) Sample.saleOf :=
  zap_follows_sale Sample.ownName (Sample.pricedAt_sold 5) (by decide) (by decide)

/-- With a capacity of 2000 millisatoshis the node sells the track at 5 satoshis and
    refuses a zap of 5000 millisatoshis, which it accepts with no capacity at all. -/
theorem zap_refused_sale_made :
    ¬ (∀ t, Trace (OnChannels [Sample.narrowChannel]) attempt (Sample.zap 5000) t ↔
        Trace (OnSnapshot (Sample.locked (Sample.pricedAt 5)) [Sample.narrowChannel]) attempt
          Sample.saleOf t) ∧
      Trace (OnSnapshot (Sample.locked (Sample.pricedAt 5)) [Sample.narrowChannel]) attempt
        Sample.saleOf [(.jit 5000, true)] ∧
      (∀ t resp, Shows (OnChannels [Sample.narrowChannel]) attempt (Sample.zap 5000) t resp →
        t = [] ∧ resp = .lnurlError (aboveMaximum 2000)) ∧
      Trace (OnChannels []) attempt (Sample.zap 5000) [(.jit 5000, true)] := by
  have hsale : Trace (OnSnapshot (Sample.locked (Sample.pricedAt 5)) [Sample.narrowChannel])
      attempt Sample.saleOf [(.jit 5000, true)] :=
    (postInvoice_trace (Sample.pricedAt_sold 5) (by decide)).mpr
      ((receivePolicy_of_lt (by decide)).mpr (Or.inl rfl))
  have hrefused : ∀ t resp, Shows (OnChannels [Sample.narrowChannel]) attempt (Sample.zap 5000) t
      resp → t = [] ∧ resp = .lnurlError (aboveMaximum 2000) := by
    intro t resp hshown
    have hcallback := (callback_shows Sample.ownName).mp hshown
    rw [if_neg (by decide), if_pos (by decide)] at hcallback
    exact hcallback
  refine ⟨fun hsame => ?_, hsale, hrefused, ?_⟩
  · obtain ⟨resp, hshown⟩ := (hsame _).mpr hsale
    exact absurd (hrefused _ _ hshown).1 (by decide)
  · exact (callback_trace Sample.ownName (by decide) (by decide)).mpr
      ((receivePolicy_of_lt (by decide)).mpr (Or.inl rfl))

end ArtistNode
