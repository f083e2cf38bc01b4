import ArtistNode.Authorization
import ArtistNode.Outcomes

/-!
# From the price to the invoice

`post_invoice` checks the price rule in satoshis and asks for the invoice in
millisatoshis. The conversion is a multiplication of `u64` values, which wraps in
the release build.
-/

namespace ArtistNode

open Base

/-! ### The price rule -/

theorem toNat_max (a b : UInt64) : (max a b).toNat = max a.toNat b.toNat := by
  simp only [Max.max, UInt64.le_iff_toNat_le]
  split <;> rfl

theorem resolveAmount_price {price A : UInt64} {requested : Option UInt64}
    (h : Gate.resolveAmount price none requested = .ok A) : A = price := by
  rcases requested with _ | a
  · exact (Except.ok.inj h).symm
  · simp only [Gate.resolveAmount] at h
    split at h
    · exact (Except.ok.inj h).symm
    · cases h

theorem resolveAmount_floor {price floor A : UInt64} {requested : Option UInt64}
    (h : Gate.resolveAmount price (some floor) requested = .ok A) : floor ≤ A := by
  rcases requested with _ | a
  · obtain rfl := Except.ok.inj h
    have hmax := toNat_max price floor
    rw [UInt64.le_iff_toNat_le]
    omega
  · simp only [Gate.resolveAmount] at h
    split at h
    · rename_i ha
      obtain rfl := Except.ok.inj h
      exact ha
    · cases h

/-! ### The conversion -/

/-- The amount a request resolves to is still a `u64` in millisatoshis: the price
    where it is fixed, the price and the minimum where the buyer leaves the amount
    open, the buyer's own amount otherwise. -/
def AmountFits (p : ProductRecord) (requested : Option UInt64) : Prop :=
  match p.floorSats, requested with
  | none, _ => 1000 * p.priceSats.toNat < 2 ^ 64
  | some floor, none => 1000 * p.priceSats.toNat < 2 ^ 64 ∧ 1000 * floor.toNat < 2 ^ 64
  | some _, some a => 1000 * a.toNat < 2 ^ 64

theorem toNat_mul_1000 (A : UInt64) :
    (A * 1000).toNat = 1000 * A.toNat ↔ 1000 * A.toNat < 2 ^ 64 := by
  have hmul : (A * 1000).toNat = A.toNat * 1000 % 2 ^ 64 := UInt64.toNat_mul A 1000
  omega

/-- The amount in millisatoshis is a thousand times the one in satoshis, if that fits into
    64 bits. -/
def InMsat (amountSats amountMsat : UInt64) : Prop :=
  1000 * amountSats.toNat < 2 ^ 64 → amountMsat.toNat = 1000 * amountSats.toNat

theorem inMsat_mul (amountSats : UInt64) : InMsat amountSats (amountSats * 1000) :=
  (toNat_mul_1000 amountSats).mpr

theorem amountFits_iff {p : ProductRecord} {requested : Option UInt64} {A : UInt64}
    (h : Gate.resolveAmount p.priceSats p.floorSats requested = .ok A) :
    AmountFits p requested ↔ 1000 * A.toNat < 2 ^ 64 := by
  unfold AmountFits
  rcases hfloor : p.floorSats with _ | floor
  · rw [hfloor] at h
    rw [resolveAmount_price h]
  · rw [hfloor] at h
    rcases requested with _ | a
    · obtain rfl := Except.ok.inj h
      have hmax := toNat_max p.priceSats floor
      simp only
      omega
    · simp only [Gate.resolveAmount] at h
      split at h
      · obtain rfl := Except.ok.inj h
        rfl
      · cases h

/-- What the price of a product promises about an issued invoice: the node was asked
    for, and the ledger holds, exactly the reported amount, and that amount obeys the
    price rule. -/
structure PriceEnforced (p : ProductRecord) (h : List DaemonCall) (amountSats : UInt64) :
    Prop where
  asked : ∀ c ∈ h, ∀ amountMsat, c.1.asked = some amountMsat →
    amountMsat.toNat = 1000 * amountSats.toNat
  recorded : ∀ c ∈ h, ∀ amountMsat, c.1.recorded = some amountMsat →
    amountMsat.toNat = 1000 * amountSats.toNat
  positive : 0 < amountSats.toNat
  price : p.floorSats = none → amountSats = p.priceSats
  floor : ∀ floor, p.floorSats = some floor → floor ≤ amountSats

theorem SaleOp.asked_eq {slug : String} {amountMsat amountMsat' : UInt64} {op : Op}
    (h : SaleOp slug amountMsat op) (hasked : op.asked = some amountMsat') :
    amountMsat' = amountMsat := by
  cases op with
  | receive a desc expiry =>
    obtain rfl := Option.some.inj hasked
    exact h
  | receiveViaJitChannel a desc expiry =>
    obtain rfl := Option.some.inj hasked
    exact h
  | _ => cases hasked

theorem SaleOp.recorded_eq {slug : String} {amountMsat amountMsat' : UInt64} {op : Op}
    (h : SaleOp slug amountMsat op) (hrecorded : op.recorded = some amountMsat') :
    amountMsat' = amountMsat := by
  cases op with
  | createPurchase paymentHash slug' a createdAt claimToken =>
    obtain rfl := Option.some.inj hrecorded
    exact h.2
  | _ => cases hrecorded

/-! ### Executions that issue an invoice -/

/-- The calls of a sale in which the node and the store do their part. -/
def saleHistory (lib : Crates) (slug : String) (amountMsat : UInt64) (desc : String) (l : Locked)
    (channels : List ChannelDetails) (invoice : Bolt11Invoice) (bytes : ByteArray)
    (now : UInt64) : List DaemonCall :=
  [⟨.lock, some l⟩, ⟨.listChannels, channels⟩,
    ⟨.receive amountMsat (.direct desc) Gate.INVOICE_EXPIRY_SECS, .ok invoice⟩,
    ⟨.fillRandom 32, .ok bytes⟩, ⟨.nowSecs, now⟩,
    ⟨.createPurchase (lib.hexEncode invoice.paymentHash) slug amountMsat now
      (lib.hexEncode bytes), some (.ok ())⟩]

theorem postInvoice_reaches {lib : Crates} {st : Gate.GateState} {slug desc : String}
    {body : Option Gate.InvoiceRequest} {l : Locked} {p : ProductRecord} {amountSats now : UInt64}
    {channels : List ChannelDetails} {invoice : Bolt11Invoice} {bytes : ByteArray}
    (hp : l.store.getProduct slug = some p)
    (hamount : Gate.resolveAmount p.priceSats p.floorSats (body.bind (·.amountSats)) =
      .ok amountSats)
    (hpositive : amountSats ≠ 0)
    (hdesc : lib.descriptionNew (Gate.saleDescription st p.title) = some desc)
    (hroom : Gate.inboundMsat channels ≥ amountSats * 1000) :
    Reaches (Gate.postInvoice lib st slug body)
      (saleHistory lib slug (amountSats * 1000) desc l channels invoice bytes now)
      (.done (.purchaseInvoice ⟨invoice.bolt11, lib.hexEncode invoice.paymentHash, amountSats,
        Gate.INVOICE_EXPIRY_SECS, lib.hexEncode bytes⟩)) := by
  have hstart : Reaches (Gate.postInvoice lib st slug body) []
      (Gate.postInvoice lib st slug body) := .refl
  have hlocked := Reaches.step (some l) hstart
  simp only [Process.bind, hp, hamount, hpositive, if_false, hdesc] at hlocked
  have hlisted := Reaches.step channels hlocked
  simp only [Process.bind, hroom, if_true] at hlisted
  have hreceived := Reaches.step (.ok invoice) hlisted
  have hrandom := Reaches.step (.ok bytes) hreceived
  have hclock := Reaches.step now hrandom
  exact Reaches.step (some (.ok ())) hclock

namespace Sample

/-- The track at any price from 1000 satoshis. -/
def openPrice : ProductRecord := { midnight with floorSats := some 1000 }

def locked (p : ProductRecord) : Locked where
  store := ⟨dir, (default : Persisted).upsertProduct p⟩
  values := []
  values_eq := rfl

def invoice : Bolt11Invoice := ⟨"lnbcrt1example", paymentHash⟩

def wideChannel : ChannelDetails := ⟨true, 10000000⟩

def tokenBytes : ByteArray := ⟨(List.replicate 32 1).toArray⟩

def description : String := "Lightning FM — Midnight (Midnight Artist)"

/-- A sale of the track for `amountMsat`, as the thread of `post_invoice` makes it. -/
def saleCalls (p : ProductRecord) (amountMsat : UInt64) : List DaemonCall :=
  saleHistory (crates upload) "midnight" amountMsat description (locked p) [wideChannel] invoice
    tokenBytes 1700000000

/-- An invoice asked for with an amount of the buyer's choice, if any. -/
theorem sale_reaches {p : ProductRecord} {requested : Option UInt64} {amountSats : UInt64}
    (hslug : p.slug = "midnight") (htitle : p.title = "Midnight")
    (hamount : Gate.resolveAmount p.priceSats p.floorSats requested = .ok amountSats)
    (hpositive : amountSats ≠ 0) (hroom : (10000000 : UInt64) ≥ amountSats * 1000) :
    Reaches (Gate.postInvoice (crates upload) (daemon upload).gateState "midnight"
        (some ⟨requested⟩)) (saleCalls p (amountSats * 1000))
      (.done (.purchaseInvoice ⟨"lnbcrt1example", Hex.encode paymentHash, amountSats,
        Gate.INVOICE_EXPIRY_SECS, Hex.encode tokenBytes⟩)) := by
  have hp : (locked p).store.getProduct "midnight" = some p := by
    rw [← hslug]
    exact Finmap.lookup_insert _
  have hdesc : (crates upload).descriptionNew
      (Gate.saleDescription (daemon upload).gateState p.title) = some description := by
    rw [htitle]
    decide
  exact postInvoice_reaches hp hamount hpositive hdesc hroom

end Sample

/-! ### Enforcement -/

/-- When is the price enforced up to the invoice? For every execution of
    `post_invoice` that issues one, exactly when the amount still fits into 64 bits
    in millisatoshis. -/
theorem price_enforced_iff {lib : Crates} {st : Gate.GateState} {slug : String}
    {body : Option Gate.InvoiceRequest} {h : List DaemonCall} {inv : PurchaseInvoice}
    {l : Locked} {p : ProductRecord}
    (hissued : Reaches (Gate.postInvoice lib st slug body) h (.done (.purchaseInvoice inv)))
    (hl : ⟨.lock, some l⟩ ∈ h) (hp : l.store.getProduct slug = some p) :
    PriceEnforced p h inv.amountSats ↔ AmountFits p (body.bind (·.amountSats)) := by
  obtain ⟨l', p', calls, rfl, hp', hamount, hpositive, hsold⟩ :=
    (postInvoice_outcome lib st slug body).result hissued inv rfl
  -- the product was read once, so it is the one of the statement
  have hsame : l = l' := by
    rcases List.mem_cons.mp hl with heq | hmem
    · simpa using heq
    · exact (hsold.ops _ hmem).elim
  subst hsame
  rw [hp] at hp'
  obtain rfl := Option.some.inj hp'
  rw [amountFits_iff hamount, ← toNat_mul_1000]
  constructor
  · intro henforced
    obtain ⟨c, hc, hasked⟩ := hsold.asked
    exact henforced.asked c (List.mem_cons_of_mem _ hc) _ hasked
  · intro hexact
    exact {
      asked := by
        intro c hc amountMsat hasked
        rcases List.mem_cons.mp hc with rfl | hc
        · cases hasked
        · rw [(hsold.ops c hc).asked_eq hasked, hexact]
      recorded := by
        intro c hc amountMsat hrecorded
        rcases List.mem_cons.mp hc with rfl | hc
        · cases hrecorded
        · rw [(hsold.ops c hc).recorded_eq hrecorded, hexact]
      positive := by
        have hne : inv.amountSats.toNat ≠ 0 := fun hzero =>
          hpositive (UInt64.toNat_inj.mp hzero)
        omega
      price := fun hfloor => by
        rw [hfloor] at hamount
        exact resolveAmount_price hamount
      floor := fun floor hfloor => by
        rw [hfloor] at hamount
        exact resolveAmount_floor hamount }

/-- A fixed price of 5000 satoshis, up to the invoice. -/
theorem price_enforced_midnight :
    PriceEnforced Sample.midnight (Sample.saleCalls Sample.midnight (5000 * 1000)) 5000 := by
  have hsale := Sample.sale_reaches (p := Sample.midnight) rfl rfl
    (show Gate.resolveAmount 5000 none none = .ok 5000 from rfl) (by decide) (by decide)
  have hfits : AmountFits Sample.midnight none :=
    show 1000 * (5000 : UInt64).toNat < 2 ^ 64 by decide
  exact (price_enforced_iff hsale List.mem_cons_self rfl).mpr hfits

/-- The buyer names 18446744073709552 satoshis, above the minimum of 1000; the node is
    asked for 384 millisatoshis. -/
theorem price_not_enforced :
    Reaches (Gate.postInvoice (Sample.crates Sample.upload)
        (Sample.daemon Sample.upload).gateState "midnight" (some ⟨some 18446744073709552⟩))
      (Sample.saleCalls Sample.openPrice 384)
      (.done (.purchaseInvoice ⟨"lnbcrt1example", Hex.encode Sample.paymentHash,
        18446744073709552, Gate.INVOICE_EXPIRY_SECS, Hex.encode Sample.tokenBytes⟩)) ∧
      ¬ PriceEnforced Sample.openPrice (Sample.saleCalls Sample.openPrice 384)
        18446744073709552 := by
  have hsale := Sample.sale_reaches (p := Sample.openPrice) rfl rfl
    (show Gate.resolveAmount 5000 (some 1000) (some 18446744073709552) = .ok 18446744073709552
      from rfl) (by decide) (by decide)
  refine ⟨hsale, fun henforced => ?_⟩
  have hexact := henforced.asked
    ⟨.receive 384 (.direct Sample.description) Gate.INVOICE_EXPIRY_SECS, .ok Sample.invoice⟩
    (by simp [Sample.saleCalls, saleHistory]) 384 rfl
  exact absurd hexact (by decide)

/-! ### Listings that were accepted

An upload is checked for a slug, a format, a body and a price or a minimum. Whether the
listing can be sold depends on its amount and its title as well. -/

/-- A request for an invoice that names no amount gets past the checks of its handler, on
    this snapshot: the amount resolves, it is positive and exact in millisatoshis, the
    description is legal, and the node is asked next. -/
def SoldByDefault (lib : Crates) (st : Gate.GateState) (slug : String) (l : Locked) : Prop :=
  ∃ p amountSats desc, l.store.getProduct slug = some p ∧
    Gate.resolveAmount p.priceSats p.floorSats none = .ok amountSats ∧ 0 < amountSats.toNat ∧
    1000 * amountSats.toNat < 2 ^ 64 ∧
    lib.descriptionNew (Gate.saleDescription st p.title) = some desc ∧
    ∀ body : Option Gate.InvoiceRequest, body.bind (·.amountSats) = none →
      Reaches (Gate.postInvoice lib st slug body) [⟨.lock, some l⟩]
        (Gate.sell lib slug amountSats (amountSats * 1000) (.direct desc))

/-- A price or a minimum above zero, both with room for millisatoshis, and a title that
    leaves the description within 639 bytes. -/
structure Sellable (st : Gate.GateState) (params : Gate.UploadParams) : Prop where
  positive : params.priceSats ≠ 0 ∨ ∃ floor, params.floorSats = some floor ∧ floor ≠ 0
  price : 1000 * params.priceSats.toNat < 2 ^ 64
  floor : ∀ floor, params.floorSats = some floor → 1000 * floor.toNat < 2 ^ 64
  title : params.title.utf8ByteSize + st.artistName.utf8ByteSize ≤ 619

theorem saleDescription_eq (st : Gate.GateState) (title : String) :
    Gate.saleDescription st title =
      "Lightning FM — " ++ title ++ " (" ++ st.artistName ++ ")" := rfl

theorem saleDescription_size (st : Gate.GateState) (title : String) :
    (Gate.saleDescription st title).utf8ByteSize =
      title.utf8ByteSize + st.artistName.utf8ByteSize + 20 := by
  have hopening : "Lightning FM — ".utf8ByteSize = 17 := by decide
  have hbetween : " (".utf8ByteSize = 2 := by decide
  have hend : ")".utf8ByteSize = 1 := by decide
  rw [saleDescription_eq]
  repeat rw [String.utf8ByteSize_append]
  rw [hopening, hbetween, hend]
  omega

theorem Registers.record_eq {d : Daemon} {header slug : String} {body : ByteArray}
    {params : Gate.UploadParams} {record : ProductRecord}
    (h : Registers d header slug body params record) :
    record = Gate.uploadRecord slug params body := by
  obtain ⟨hist, hreaches, hmem⟩ := h
  obtain ⟨before, -, -, slug', params', auth', body', hjob, hrecord⟩ :=
    (handle_guarded d _).performed hreaches _ hmem
  obtain ⟨rfl, rfl, rfl, rfl⟩ := Job.putProduct.inj hjob
  exact hrecord

/-- The amount of a default purchase is the larger of price and minimum. -/
theorem resolveAmount_none (price : UInt64) (floor : Option UInt64) :
    ∃ amountSats, Gate.resolveAmount price floor none = .ok amountSats ∧
      (0 < amountSats.toNat ↔ price ≠ 0 ∨ ∃ f, floor = some f ∧ f ≠ 0) := by
  have hne : ∀ a : UInt64, a ≠ 0 ↔ 0 < a.toNat := by
    intro a
    rw [Nat.pos_iff_ne_zero, not_iff_not]
    exact UInt64.toNat_inj.symm
  rcases floor with _ | floor
  · refine ⟨price, rfl, ?_⟩
    simp [hne]
  · refine ⟨max price floor, rfl, ?_⟩
    have hmax := toNat_max price floor
    simp only [hne, Option.some.injEq, exists_eq_left']
    omega

/-- When can an accepted listing be bought without naming an amount? In every state that
    still holds its record, exactly when the amount and the title fit. -/
theorem sold_by_default_iff {d : Daemon} {header slug : String} {body : ByteArray}
    {params : Gate.UploadParams} {record : ProductRecord} {l : Locked}
    (hlimit : ∀ text, (d.lib.descriptionNew text).isSome ↔ text.utf8ByteSize ≤ 639)
    (haccepted : Registers d header slug body params record)
    (hregistered : l.store.getProduct slug = some record) :
    SoldByDefault d.lib d.gateState slug l ↔ Sellable d.gateState params := by
  obtain rfl := haccepted.record_eq
  obtain ⟨amountSats, hamount, hpositive⟩ := resolveAmount_none params.priceSats params.floorSats
  have hfits : AmountFits (Gate.uploadRecord slug params body) none ↔
      1000 * amountSats.toNat < 2 ^ 64 := amountFits_iff hamount
  have hsize := saleDescription_size d.gateState params.title
  constructor
  · rintro ⟨p, amountSats', desc, hp, hamount', hpositive', hfits', hdesc, -⟩
    obtain rfl := Option.some.inj (hregistered.symm.trans hp)
    obtain rfl := Except.ok.inj (hamount.symm.trans hamount')
    have hlegal := (hlimit _).mp (Option.isSome_of_eq_some hdesc)
    simp only [Gate.uploadRecord, hsize] at hlegal
    have hprice := hfits.mpr hfits'
    simp only [AmountFits, Gate.uploadRecord] at hprice
    refine ⟨hpositive.mp hpositive', ?_, ?_, by omega⟩
    · rcases hfloor : params.floorSats with _ | floor
      · rwa [hfloor] at hprice
      · rw [hfloor] at hprice
        exact hprice.1
    · intro floor hfloor
      rw [hfloor] at hprice
      exact hprice.2
  · intro h
    have hpos := hpositive.mpr h.positive
    have hne : amountSats ≠ 0 := by
      rintro rfl
      exact absurd hpos (by decide)
    have hlegal : (Gate.saleDescription d.gateState params.title).utf8ByteSize ≤ 639 := by
      have htitle := h.title
      omega
    obtain ⟨desc, hdesc⟩ := Option.isSome_iff_exists.mp ((hlimit _).mpr hlegal)
    have hroom : 1000 * amountSats.toNat < 2 ^ 64 := by
      apply hfits.mp
      have hprice := h.price
      have hfloor := h.floor
      simp only [AmountFits, Gate.uploadRecord]
      split
      · exact hprice
      · rename_i hsome _
        exact ⟨hprice, hfloor _ hsome⟩
      · rename_i hrequested
        cases hrequested
    refine ⟨_, amountSats, desc, hregistered, hamount, hpos, hroom, hdesc, ?_⟩
    intro request hrequest
    have hstart : Reaches (Gate.postInvoice d.lib d.gateState slug request) []
        (Gate.postInvoice d.lib d.gateState slug request) := .refl
    have hlocked := Reaches.step (some l) hstart
    have htitle : d.lib.descriptionNew
        (Gate.saleDescription d.gateState (Gate.uploadRecord slug params body).title) =
      some desc := hdesc
    have hamount' : Gate.resolveAmount (Gate.uploadRecord slug params body).priceSats
        (Gate.uploadRecord slug params body).floorSats none = .ok amountSats := hamount
    simp only [Process.bind, hregistered, hrequest, hamount', hne, if_false, htitle] at hlocked
    exact hlocked

namespace Sample

theorem descriptionNew_isSome (text : String) :
    ((crates upload).descriptionNew text).isSome ↔ text.utf8ByteSize ≤ 639 := by
  simp only [crates, Option.isSome_ite]

theorem registers_upload {title : String} {price : UInt64} (hprice : price ≠ 0) :
    Registers (daemon upload) ("Nostr " ++ uploadBase64) "midnight" body
      ⟨title, price, none, "flac"⟩
      (Gate.uploadRecord "midnight" ⟨title, price, none, "flac"⟩ body) :=
  (@upload_authorized 1700000030 (by decide)).registers _ rfl hprice

theorem getProduct_locked {p : ProductRecord} (hslug : p.slug = "midnight") :
    (locked p).store.getProduct "midnight" = some p := by
  rw [← hslug]
  exact Finmap.lookup_insert _

/-- A title of 700 letters. -/
def longTitle : String := String.ofList (List.replicate 700 'M')

theorem longTitle_size : longTitle.utf8ByteSize = 700 := by
  have hlen : ∀ n, String.utf8Len (List.replicate n 'M') = n := by
    intro n
    induction n with
    | zero => rfl
    | succ n ih =>
      rw [List.replicate_succ, String.utf8Len_cons, ih]
      rfl
  unfold longTitle
  rw [String.utf8ByteSize_ofList]
  exact hlen 700

def longTitled : ProductRecord := { midnight with title := longTitle }

end Sample

/-- The artist's track, sold at its price. -/
theorem sold_by_default_midnight :
    SoldByDefault (Sample.crates Sample.upload) (Sample.daemon Sample.upload).gateState "midnight"
      (Sample.locked Sample.midnight) := by
  have hregisters := @Sample.registers_upload "Midnight" 5000 (by decide)
  apply (sold_by_default_iff Sample.descriptionNew_isSome hregisters
    (Sample.getProduct_locked rfl)).mpr
  exact {
    positive := Or.inl (by decide)
    price := by decide
    floor := by
      rintro floor hfloor
      cases hfloor
    title := by decide }

/-- The artist uploads the same track under a title of 700 letters; each request for an
    invoice is then answered with an internal error. -/
theorem long_title_not_sold :
    Registers (Sample.daemon Sample.upload) ("Nostr " ++ Sample.uploadBase64) "midnight"
        Sample.body ⟨Sample.longTitle, 5000, none, "flac"⟩ Sample.longTitled ∧
      (Sample.crates Sample.upload).descriptionNew
        (Gate.saleDescription (Sample.daemon Sample.upload).gateState "M") ≠ none ∧
      (∀ body, body.bind (·.amountSats) = none →
        Reaches (Gate.postInvoice (Sample.crates Sample.upload)
          (Sample.daemon Sample.upload).gateState "midnight" body)
          [⟨.lock, some (Sample.locked Sample.longTitled)⟩]
          (.done (.err .internalServerError "Invalid description"))) ∧
      ¬ SoldByDefault (Sample.crates Sample.upload) (Sample.daemon Sample.upload).gateState
        "midnight" (Sample.locked Sample.longTitled) := by
  have hproduct : (Sample.locked Sample.longTitled).store.getProduct "midnight" =
      some Sample.longTitled := Sample.getProduct_locked rfl
  have hnone : (Sample.crates Sample.upload).descriptionNew
      (Gate.saleDescription (Sample.daemon Sample.upload).gateState Sample.longTitle) = none := by
    apply Option.not_isSome_iff_eq_none.mp
    rw [Sample.descriptionNew_isSome, saleDescription_size, Sample.longTitle_size]
    omega
  refine ⟨Sample.registers_upload (by decide), by decide, ?_, ?_⟩
  · intro body hbody
    have hstart : Reaches (Gate.postInvoice (Sample.crates Sample.upload)
        (Sample.daemon Sample.upload).gateState "midnight" body) [] _ := .refl
    have hlocked := Reaches.step (some (Sample.locked Sample.longTitled)) hstart
    have hamount : Gate.resolveAmount Sample.longTitled.priceSats Sample.longTitled.floorSats
        none = .ok 5000 := rfl
    have htitle : Sample.longTitled.title = Sample.longTitle := rfl
    have hpositive : (5000 : UInt64) ≠ 0 := by decide
    simp only [Process.bind, hproduct, hbody, hamount, hpositive, if_false, htitle, hnone]
      at hlocked
    exact hlocked
  · rintro ⟨p, amountSats, desc, hp, -, -, -, hdesc, -⟩
    obtain rfl := Option.some.inj (hproduct.symm.trans hp)
    have htitle : (Sample.crates Sample.upload).descriptionNew
        (Gate.saleDescription (Sample.daemon Sample.upload).gateState Sample.longTitle) =
      some desc := hdesc
    rw [hnone] at htitle
    cases htitle

end ArtistNode
