import ArtistNode.Base.Json
import ArtistNode.Durability

/-!
# The product index as a format

`index.json` is what `serde` derives for the records of `store.rs`, laid out by
`serde_json`. Here the derived readers and writers are the codecs of the structs, over any
faithful text of JSON documents and any order in which the two hash maps are iterated: the
index gives back the store that was persisted, nothing that it holds is dropped, and an index
from before there were claim tokens is still read.
-/

namespace ArtistNode

open Base

/-! ### The derived codecs -/

/-- `Option<u64>`. -/
def optionU64 : Codec (Option UInt64) := .option .u64 (fun _ _ h => by cases h)

/-- `Option<String>`. -/
def optionString : Codec (Option String) := .option .string (fun _ _ h => by cases h)

/-- `ProductRecord`, field by field. -/
def ProductRecord.fields :
    Fields (String × String × UInt64 × Option UInt64 × String × String × UInt64) :=
  .both (.one (.required "slug" .string)) <|
  .both (.one (.required "title" .string)) <|
  .both (.one (.required "price_sats" .u64)) <|
  .both (.one (.optional "floor_sats" optionU64)) <|
  .both (.one (.required "format" .string)) <|
  .both (.one (.required "file_name" .string)) <|
  .one (.required "size_bytes" .u64)

def ProductRecord.ofFields :
    String × String × UInt64 × Option UInt64 × String × String × UInt64 ≃ ProductRecord where
  toFun t := ⟨t.1, t.2.1, t.2.2.1, t.2.2.2.1, t.2.2.2.2.1, t.2.2.2.2.2.1, t.2.2.2.2.2.2⟩
  invFun p := (p.slug, p.title, p.priceSats, p.floorSats, p.format, p.fileName, p.sizeBytes)
  left_inv _ := rfl
  right_inv _ := rfl

def ProductRecord.codec : Codec ProductRecord :=
  (ProductRecord.fields.codec (by decide)).equiv ProductRecord.ofFields

/-- `PurchaseRecord` without its claim token. -/
def PurchaseRecord.baseFields : Fields (String × String × UInt64 × Bool × UInt64) :=
  .both (.one (.required "payment_hash" .string)) <|
  .both (.one (.required "slug" .string)) <|
  .both (.one (.required "amount_msat" .u64)) <|
  .both (.one (.required "paid" .bool)) <|
  .one (.required "created_at" .u64)

/-- The claim token, under `#[serde(default)]`. -/
def PurchaseRecord.claimTokenField : Fields (Option String) :=
  .one (.defaulted "claim_token" optionString)

def PurchaseRecord.ofFields :
    (String × String × UInt64 × Bool × UInt64) × Option String ≃ PurchaseRecord where
  toFun t := ⟨t.1.1, t.1.2.1, t.1.2.2.1, t.1.2.2.2.1, t.1.2.2.2.2, t.2⟩
  invFun p := ((p.paymentHash, p.slug, p.amountMsat, p.paid, p.createdAt), p.claimToken)
  left_inv _ := rfl
  right_inv _ := rfl

def PurchaseRecord.codec : Codec PurchaseRecord :=
  ((PurchaseRecord.baseFields.both PurchaseRecord.claimTokenField).codec (by decide)).equiv
    PurchaseRecord.ofFields

def Persisted.ofFields :
    (Finmap fun _ : String => ProductRecord) × (Finmap fun _ : String => PurchaseRecord) ≃
      Persisted where
  toFun t := ⟨t.1, t.2⟩
  invFun state := (state.products, state.purchases)
  left_inv _ := rfl
  right_inv _ := rfl

def Persisted.fields (it : Iteration) :
    Fields ((Finmap fun _ : String => ProductRecord) × Finmap fun _ : String => PurchaseRecord) :=
  .both (.one (.required "products" (HashMap.codec ProductRecord.codec it)))
    (.one (.required "purchases" (HashMap.codec PurchaseRecord.codec it)))

theorem Persisted.fields_names (it : Iteration) :
    (Persisted.fields it).names = ["products", "purchases"] := rfl

theorem Persisted.fields_names_nodup (it : Iteration) : (Persisted.fields it).names.Nodup := by
  simp [Persisted.fields_names]

def Persisted.codec (it : Iteration) : Codec Persisted :=
  ((Persisted.fields it).codec (Persisted.fields_names_nodup it)).equiv Persisted.ofFields

/-- The process that reads an index need not iterate its maps as the one that wrote it. -/
theorem Persisted.codec_reads (it it' : Iteration) (seed : Nat) (state : Persisted) :
    (Persisted.codec it').decode ((Persisted.codec it).encode seed state) = some state :=
  (Persisted.codec it).decode_encode seed state

/-! ### The text -/

/-- The text of JSON documents, as `serde_json` prints and parses it. -/
structure JsonText where
  toStringPretty : Json → Except String String
  fromStr : String → Except String Json
  /-- The message about a text that is no document of the type asked for. -/
  mismatch : String → String

/-- A text that was printed is parsed as the document it stands for. -/
def JsonText.Faithful (text : JsonText) : Prop :=
  ∀ {v : Json} {raw : String}, v.Plain → text.toStringPretty v = .ok raw → text.fromStr raw = .ok v

/-- `serde_json::from_str`, for a type with a codec. -/
def JsonText.read {α : Type} (text : JsonText) (c : Codec α) (raw : String) : Except String α :=
  match text.fromStr raw with
  | .error e => .error e
  | .ok v =>
    match c.decode v with
    | some a => .ok a
    | none => .error (text.mismatch raw)

/-- `serde_json::to_string_pretty`, for a type with a codec. -/
def JsonText.write {α : Type} (text : JsonText) (c : Codec α) (seed : Nat) (a : α) :
    Except String String :=
  text.toStringPretty (c.encode seed a)

/-- `serde_json` on the derived codec of the index. -/
def indexJson (text : JsonText) (it : Iteration) : SerdeJson where
  toStringPretty := text.write (Persisted.codec it)
  fromStr := text.read (Persisted.codec it)

theorem JsonText.Faithful.read_write {α β : Type} {text : JsonText} (h : text.Faithful)
    {c : Codec α} {c' : Codec β} {seed : Nat} {a : α} {b : β} {raw : String}
    (hwrite : text.write c seed a = .ok raw) (hread : c'.decode (c.encode seed a) = some b) :
    text.read c' raw = .ok b := by
  simp only [JsonText.read, h (c.plain seed a) hwrite, hread]

/-! ### The text of a listing

`serde_json` on the index of one product and its purchase. -/

/-- `serde_json` on a finite table of documents and their texts. -/
def JsonText.ofTable (rows : List (Json × String)) : JsonText where
  toStringPretty v :=
    match rows.find? fun row => decide (row.1 = v) with
    | some row => .ok row.2
    | none => .error "not in the table"
  fromStr raw :=
    match rows.find? fun row => decide (row.2 = raw) with
    | some row => .ok row.1
    | none => .error "not in the table"
  mismatch raw := s!"no index: {raw}"

theorem JsonText.faithful_ofTable {rows : List (Json × String)}
    (h : (rows.map Prod.snd).Nodup) : (JsonText.ofTable rows).Faithful := by
  intro v raw _ hraw
  simp only [JsonText.ofTable] at hraw ⊢
  rcases hrow : rows.find? fun row => decide (row.1 = v) with _ | row
  · simp [hrow] at hraw
  · simp only [hrow, Except.ok.injEq] at hraw
    have hmem : row ∈ rows := List.mem_of_find?_eq_some hrow
    have hv : row.1 = v := by simpa using List.find?_some hrow
    rcases hrow' : rows.find? fun row => decide (row.2 = raw) with _ | row'
    · have hnone := List.find?_eq_none.mp hrow' row hmem
      simp [hraw] at hnone
    · have hraw' : row'.2 = raw := by simpa using List.find?_some hrow'
      have hsame : row' = row :=
        List.inj_on_of_nodup_map h (List.mem_of_find?_eq_some hrow') hmem (hraw'.trans hraw.symm)
      subst hsame
      simp only [hrow', hv]

theorem JsonText.ofTable_head (v : Json) (raw : String) (rows : List (Json × String)) :
    (JsonText.ofTable ((v, raw) :: rows)).toStringPretty v = .ok raw := by
  have hfind : ((v, raw) :: rows).find? (fun row => decide (row.1 = v)) = some (v, raw) :=
    List.find?_cons_of_pos (decide_eq_true rfl)
  simp only [JsonText.ofTable, hfind]

theorem JsonText.fromStr_head (v : Json) (raw : String) (rows : List (Json × String)) :
    (JsonText.ofTable ((v, raw) :: rows)).fromStr raw = .ok v := by
  have hfind : ((v, raw) :: rows).find? (fun row => decide (row.2 = raw)) = some (v, raw) :=
    List.find?_cons_of_pos (decide_eq_true rfl)
  simp only [JsonText.ofTable, hfind]

theorem JsonText.fromStr_tail {v : Json} {raw raw' : String} {rows : List (Json × String)}
    (h : raw' ≠ raw) :
    (JsonText.ofTable ((v, raw') :: rows)).fromStr raw = (JsonText.ofTable rows).fromStr raw := by
  have hfind : ((v, raw') :: rows).find? (fun row => decide (row.2 = raw)) =
      rows.find? fun row => decide (row.2 = raw) :=
    List.find?_cons_of_neg (by simpa using h)
  simp only [JsonText.ofTable, hfind]

namespace Sample

/-- The index after the sale of the track. -/
def soldText : JsonText :=
  .ofTable [((Persisted.codec .byKey).encode 0 sold, indexText (saleText "false"))]

theorem soldText_faithful : soldText.Faithful := by
  apply JsonText.faithful_ofTable
  exact List.nodup_singleton _

theorem write_sold :
    (indexJson soldText .byKey).toStringPretty 0 sold = .ok (indexText (saleText "false")) :=
  JsonText.ofTable_head _ _ _

end Sample

/-! ### The round trip -/

section RoundTrip

variable {text : JsonText} {it it' : Iteration} {io : PersistIo} {s : Store} {files : Files}
variable {dataDir : String}

/-- What other results assume of `serde_json` holds of the derived codec. -/
theorem indexJson_lossless (htext : text.Faithful) : (indexJson text it).Lossless :=
  fun seed state _ hwrite => htext.read_write hwrite ((Persisted.codec it).decode_encode seed state)

/-- The index is a faithful copy of the store. Whatever the products and purchases hold, and
    in whatever order either process iterates its maps, a store that was persisted is the one
    that the next process opens. -/
theorem index_round_trip (htext : text.Faithful) (hdir : s.dir = joinPath dataDir "products")
    (h : (s.persist (indexJson text it) io files).1 = .ok ()) :
    Store.open (indexJson text it') none (s.persist (indexJson text it) io files).2 dataDir =
      .ok s := by
  obtain ⟨raw, hraw, hfiles⟩ := Store.persist_ok h
  have hindex : (s.persist (indexJson text it) io files).2 s.indexPath = some raw.toUTF8 := by
    rw [hfiles, Files.rename_target s.tmpPath_ne_indexPath, Files.write_same]
  have hread : (indexJson text it').fromStr raw = .ok s.state :=
    htext.read_write hraw (Persisted.codec_reads it it' io.order s.state)
  rw [Store.indexPath, hdir] at hindex
  rw [Store.open_of_index hindex hread, ← hdir]

/-- The sale of the track is opened again as it was persisted. -/
theorem index_round_trip_sale :
    Store.open (indexJson Sample.soldText .byKey) none
      ((Store.mk Sample.dir Sample.sold).persist (indexJson Sample.soldText .byKey) ⟨0, none⟩
        Sample.files).2 Sample.dataDir = .ok ⟨Sample.dir, Sample.sold⟩ := by
  apply index_round_trip Sample.soldText_faithful
  · decide
  · simp only [Store.persist, Sample.write_sold]

end RoundTrip

/-! ### Nothing is dropped -/

/-- The entries for products and for purchases in the document of an index: each of the two
    maps comes once, whatever else there is. -/
def IndexParts (v : Json) (products purchases : List (String × Json)) : Prop :=
  v = .array [.object products, .object purchases] ∨
    ∃ es, v = .object es ∧ OnlyEntry es "products" (.object products) ∧
      OnlyEntry es "purchases" (.object purchases)

/-- The document is that of an index, and every record in it can be read. -/
structure IndexOf (v : Json) (products purchases : List (String × Json)) : Prop where
  parts : IndexParts v products purchases
  products_readable : ∀ e ∈ products, ∃ p, ProductRecord.codec.decode e.2 = some p
  purchases_readable : ∀ e ∈ purchases, ∃ p, PurchaseRecord.codec.decode e.2 = some p

section Reading

variable {it : Iteration} {v : Json} {ps qs : List (String × Json)} {state : Persisted}

theorem Persisted.codec_decode :
    (Persisted.codec it).decode v = some state ↔
      (Persisted.fields it).decode v = some (state.products, state.purchases) := by
  simp only [Persisted.codec, Codec.equiv, Fields.codec, Option.map_eq_some_iff]
  constructor
  · rintro ⟨t, h, rfl⟩
    exact h
  · intro h
    exact ⟨_, h, rfl⟩

/-- What an index is read as, where its two maps are. -/
theorem IndexParts.decode_eq_some (h : IndexParts v ps qs) :
    (Persisted.codec it).decode v = some state ↔
      HashMap.decode ProductRecord.codec (.object ps) = some state.products ∧
        HashMap.decode PurchaseRecord.codec (.object qs) = some state.purchases := by
  rw [Persisted.codec_decode]
  rcases h with rfl | ⟨es, rfl, hproducts, hpurchases⟩
  · rw [Fields.decode_array_eq_some, Persisted.fields, Fields.readPlaces_both]
    simp only [Fields.readPlaces_required, List.cons.injEq]
    constructor
    · rintro ⟨_, ⟨_, ⟨rfl, rfl⟩, hps⟩, _, hrest, hqs⟩
      cases hrest
      exact ⟨hps, hqs⟩
    · rintro ⟨hps, hqs⟩
      exact ⟨_, ⟨_, ⟨rfl, rfl⟩, hps⟩, _, rfl, hqs⟩
  · have hcount : ∀ name ∈ (Persisted.fields it).names, (es.map Prod.fst).count name ≤ 1 := by
      intro name hname
      rw [Persisted.fields_names, List.mem_pair] at hname
      rcases hname with rfl | rfl
      · rw [count_keys, hproducts]
        exact le_refl 1
      · rw [count_keys, hpurchases]
        exact le_refl 1
    rw [Fields.decode_object_eq_some, and_iff_right hcount, Persisted.fields, Fields.read_both,
      Fields.read_required, Fields.read_required, hproducts.lookup, hpurchases.lookup]
    rfl

theorem indexParts_of_decode (h : (Persisted.codec it).decode v = some state) :
    ∃ ps qs, IndexParts v ps qs := by
  have hmaps : ∀ {p q : Json}, HashMap.decode ProductRecord.codec p = some state.products →
      HashMap.decode PurchaseRecord.codec q = some state.purchases →
      ∃ ps qs, p = .object ps ∧ q = .object qs := by
    intro p q hp hq
    obtain ⟨ps, rfl, -⟩ := HashMap.decode_eq_some hp
    obtain ⟨qs, rfl, -⟩ := HashMap.decode_eq_some hq
    exact ⟨ps, qs, rfl, rfl⟩
  rw [Persisted.codec_decode] at h
  cases v with
  | object es =>
    obtain ⟨hcount, hread⟩ := Fields.decode_object_eq_some.mp h
    rw [Persisted.fields, Fields.read_both, Fields.read_required, Fields.read_required,
      Option.bind_eq_some_iff, Option.bind_eq_some_iff] at hread
    obtain ⟨⟨p, hp, hproducts⟩, q, hq, hpurchases⟩ := hread
    obtain ⟨ps, qs, rfl, rfl⟩ := hmaps hproducts hpurchases
    rw [Persisted.fields_names] at hcount
    exact ⟨ps, qs, Or.inr ⟨es, rfl, onlyEntry_of_lookup (hcount _ (by simp)) hp,
      onlyEntry_of_lookup (hcount _ (by simp)) hq⟩⟩
  | array values =>
    rw [Fields.decode_array_eq_some, Persisted.fields, Fields.readPlaces_both] at h
    obtain ⟨rest, hfirst, hsecond⟩ := h
    obtain ⟨p, rfl, hproducts⟩ := Fields.readPlaces_required.mp hfirst
    obtain ⟨q, rfl, hpurchases⟩ := Fields.readPlaces_required.mp hsecond
    obtain ⟨ps, qs, rfl, rfl⟩ := hmaps hproducts hpurchases
    exact ⟨ps, qs, Or.inl rfl⟩
  | _ => cases h

/-- A document is read exactly where it is that of an index, record by record. -/
theorem IndexOf.decode (h : IndexOf v ps qs) :
    ∃ state, (Persisted.codec it).decode v = some state ∧
      (∀ slug, state.products.lookup slug =
        (ps.reverse.lookup slug).bind ProductRecord.codec.decode) ∧
      ∀ hash, state.purchases.lookup hash =
        (qs.reverse.lookup hash).bind PurchaseRecord.codec.decode := by
  obtain ⟨products, hproducts⟩ := HashMap.decode_of_readable h.products_readable
  obtain ⟨purchases, hpurchases⟩ := HashMap.decode_of_readable h.purchases_readable
  obtain ⟨_, heq, -, hlookup⟩ := HashMap.decode_eq_some hproducts
  cases heq
  obtain ⟨_, heq, -, hlookup'⟩ := HashMap.decode_eq_some hpurchases
  cases heq
  exact ⟨⟨products, purchases⟩, h.parts.decode_eq_some.mpr ⟨hproducts, hpurchases⟩, hlookup,
    hlookup'⟩

theorem indexOf_of_decode (h : (Persisted.codec it).decode v = some state) :
    ∃ ps qs, IndexOf v ps qs := by
  obtain ⟨ps, qs, hparts⟩ := indexParts_of_decode h
  obtain ⟨hproducts, hpurchases⟩ := hparts.decode_eq_some.mp h
  obtain ⟨_, heq, hreadable, -⟩ := HashMap.decode_eq_some hproducts
  cases heq
  obtain ⟨_, heq, hreadable', -⟩ := HashMap.decode_eq_some hpurchases
  cases heq
  exact ⟨ps, qs, hparts, hreadable, hreadable'⟩

end Reading

section Opening

variable {text : JsonText} {it : Iteration} {files : Files} {dataDir raw : String} {v : Json}

theorem indexJson_of_decode {state : Persisted} (hdoc : text.fromStr raw = .ok v)
    (h : (Persisted.codec it).decode v = some state) :
    (indexJson text it).fromStr raw = .ok state := by
  simp only [indexJson, JsonText.read, hdoc, h]

theorem indexJson_of_mismatch (hdoc : text.fromStr raw = .ok v)
    (h : (Persisted.codec it).decode v = none) :
    (indexJson text it).fromStr raw = .error (text.mismatch raw) := by
  simp only [indexJson, JsonText.read, hdoc, h]

theorem Store.open_of_corrupt {json : SerdeJson} {e : String}
    (hindex : files (joinPath (joinPath dataDir "products") "index.json") = some raw.toUTF8)
    (hjson : json.fromStr raw = .error e) :
    Store.open json none files dataDir = .error s!"Corrupt product index: {e}" := by
  unfold Store.open
  simp only [hindex, fromUTF8_toUTF8, hjson]

theorem decode_of_open {s : Store}
    (hindex : files (joinPath (joinPath dataDir "products") "index.json") = some raw.toUTF8)
    (hdoc : text.fromStr raw = .ok v)
    (h : Store.open (indexJson text it) none files dataDir = .ok s) :
    (Persisted.codec it).decode v = some s.state := by
  rcases hdecode : (Persisted.codec it).decode v with _ | state
  · rw [Store.open_of_corrupt hindex (indexJson_of_mismatch hdoc hdecode)] at h
    cases h
  · rw [Store.open_of_index hindex (indexJson_of_decode hdoc hdecode)] at h
    cases h
    rfl

/-- Opening the store drops nothing. A store that is opened on the document of an index, all
    of whose records can be read, has under each key the last record of that key and no
    other; every other document is refused, and so is a text that is none. -/
theorem index_read_whole
    (hindex : files (joinPath (joinPath dataDir "products") "index.json") = some raw.toUTF8) :
    (∀ v ps qs, text.fromStr raw = .ok v → IndexOf v ps qs →
      ∃ s, Store.open (indexJson text it) none files dataDir = .ok s ∧
        (∀ slug, s.getProduct slug = (ps.reverse.lookup slug).bind ProductRecord.codec.decode) ∧
        ∀ hash, s.getPurchase hash = (qs.reverse.lookup hash).bind PurchaseRecord.codec.decode) ∧
    (∀ v, text.fromStr raw = .ok v → (∀ ps qs, ¬ IndexOf v ps qs) →
      Store.open (indexJson text it) none files dataDir =
        .error s!"Corrupt product index: {text.mismatch raw}") ∧
    ∀ e, text.fromStr raw = .error e →
      Store.open (indexJson text it) none files dataDir =
        .error s!"Corrupt product index: {e}" := by
  refine ⟨fun v ps qs hdoc hv => ?_, fun v hdoc hv => ?_, fun e hdoc => ?_⟩
  · obtain ⟨state, hdecode, hproducts, hpurchases⟩ := hv.decode
    exact ⟨_, Store.open_of_index hindex (indexJson_of_decode hdoc hdecode), hproducts,
      hpurchases⟩
  · rcases hdecode : (Persisted.codec it).decode v with _ | state
    · exact Store.open_of_corrupt hindex (indexJson_of_mismatch hdoc hdecode)
    · obtain ⟨ps, qs, hindexOf⟩ := indexOf_of_decode hdecode
      exact absurd hindexOf (hv ps qs)
  · apply Store.open_of_corrupt hindex
    simp only [indexJson, JsonText.read, hdoc]

end Opening

namespace Sample

def productEntries : List (String × Json) :=
  [("midnight", ProductRecord.codec.encode 0 midnight)]

/-- The sale twice, first without its token and unpaid. -/
def purchaseEntries : List (String × Json) :=
  [(hash, .object (PurchaseRecord.baseFields.entries 0
      (hash, "midnight", 5000000, false, 1700000000))),
    (hash, PurchaseRecord.codec.encode 0 { sale with paid := true })]

def twiceDoc : Json :=
  .object [("products", .object productEntries), ("purchases", .object purchaseEntries)]

/-- How the text of the sale ends without its claim token. -/
def tokenlessTail : String := ",\n      \"created_at\": 1700000000\n    \x7d"

def twiceText : String :=
  indexText ("\x7b\n" ++ (saleHead ++ ("false" ++ (tokenlessTail ++
    (",\n" ++ (saleHead ++ ("true" ++ saleTail)))))))

/-- That index, and an object without members. -/
def twiceRows : JsonText := .ofTable [(twiceDoc, twiceText), (.object [], "\x7b\x7d")]

def filesWith (raw : String) : Files := fun path =>
  if path = "/data/products/index.json" then some raw.toUTF8 else none

theorem filesWith_index (raw : String) :
    filesWith raw (joinPath (joinPath dataDir "products") "index.json") = some raw.toUTF8 :=
  if_pos (by decide)

theorem twiceText_ne : twiceText ≠ "\x7b\x7d" := by
  unfold twiceText indexText indexHead
  repeat rw [String.append_assoc]
  apply append_ne_of_length_lt
  decide

theorem fromStr_twice : twiceRows.fromStr twiceText = .ok twiceDoc := by
  rw [twiceRows, JsonText.fromStr_head]

theorem fromStr_memberless : twiceRows.fromStr "\x7b\x7d" = .ok (.object []) := by
  rw [twiceRows, JsonText.fromStr_tail twiceText_ne, JsonText.fromStr_head]

end Sample

/-- The paid record of the sale counts, being the last, and an object without members is
    refused. -/
theorem index_read_whole_sale :
    (∃ s, Store.open (indexJson Sample.twiceRows .byKey) none
        (Sample.filesWith Sample.twiceText) Sample.dataDir = .ok s ∧
      s.getProduct "midnight" = some Sample.midnight ∧
      s.getPurchase Sample.hash = some { Sample.sale with paid := true }) ∧
    Store.open (indexJson Sample.twiceRows .byKey) none (Sample.filesWith "\x7b\x7d")
      Sample.dataDir = .error "Corrupt product index: no index: \x7b\x7d" := by
  constructor
  · have hindexOf : IndexOf Sample.twiceDoc Sample.productEntries Sample.purchaseEntries := by
      refine ⟨Or.inr ⟨_, rfl, by simp [OnlyEntry], by simp [OnlyEntry]⟩, ?_, ?_⟩
      · intro e he
        rw [List.mem_singleton.mp he]
        exact ⟨_, ProductRecord.codec.decode_encode 0 Sample.midnight⟩
      · intro e he
        rcases List.mem_pair.mp he with rfl | rfl
        · exact ⟨{ Sample.sale with claimToken := none }, rfl⟩
        · exact ⟨_, PurchaseRecord.codec.decode_encode 0 _⟩
    obtain ⟨s, hopen, hproducts, hpurchases⟩ :=
      (index_read_whole (Sample.filesWith_index Sample.twiceText)).1 _ _ _
        Sample.fromStr_twice hindexOf
    refine ⟨s, hopen, ?_, ?_⟩
    · rw [hproducts]
      exact ProductRecord.codec.decode_encode 0 Sample.midnight
    · rw [hpurchases]
      exact PurchaseRecord.codec.decode_encode 0 { Sample.sale with paid := true }
  · apply (index_read_whole (Sample.filesWith_index "\x7b\x7d")).2.1 _ Sample.fromStr_memberless
    rintro ps qs ⟨hparts | ⟨es, hes, hproducts, -⟩, -, -⟩
    · cases hparts
    · cases hes
      cases hproducts

/-! ### An index without claim tokens -/

/-- The document of a purchase without its claim token. -/
def Json.withoutToken : Json → Json :=
  PurchaseRecord.baseFields.without PurchaseRecord.claimTokenField

/-- The document of a map of purchases without their claim tokens. -/
def Json.withoutTokensIn : Json → Json
  | .object qs => .object (qs.map fun e => (e.1, Json.withoutToken e.2))
  | v => v

/-- The document of an index without claim tokens. -/
def Json.withoutTokens : Json → Json
  | .object es => .object (es.map fun e =>
      (e.1, if e.1 = "purchases" then Json.withoutTokensIn e.2 else e.2))
  | .array [ps, qs] => .array [ps, Json.withoutTokensIn qs]
  | v => v

theorem PurchaseRecord.decode_withoutToken {v : Json} {p : PurchaseRecord}
    (h : PurchaseRecord.codec.decode v = some p) :
    PurchaseRecord.codec.decode (Json.withoutToken v) = some { p with claimToken := none } := by
  obtain ⟨⟨t, token⟩, hfields, rfl⟩ := Option.map_eq_some_iff.mp h
  exact Option.map_eq_some_iff.mpr ⟨(t, none), Fields.decode_without (by decide) rfl rfl hfields, rfl⟩

theorem IndexParts.withoutTokens {v : Json} {ps qs : List (String × Json)}
    (h : IndexParts v ps qs) :
    IndexParts (Json.withoutTokens v) ps (qs.map fun e => (e.1, Json.withoutToken e.2)) := by
  rcases h with rfl | ⟨es, rfl, hproducts, hpurchases⟩
  · exact Or.inl rfl
  · let f := fun (key : String) (v : Json) =>
      if key = "purchases" then Json.withoutTokensIn v else v
    exact Or.inr ⟨_, rfl, hproducts.map f, hpurchases.map f⟩

/-- An index from before there were claim tokens is still read. Take the claim tokens out of
    any index that opens: it still opens, with the same products and the same purchases
    without their tokens. -/
theorem index_upgrade {text : JsonText} {it : Iteration} {files files' : Files}
    {dataDir raw raw' : String} {v : Json} {s : Store}
    (hindex : files (joinPath (joinPath dataDir "products") "index.json") = some raw.toUTF8)
    (hindex' : files' (joinPath (joinPath dataDir "products") "index.json") = some raw'.toUTF8)
    (hdoc : text.fromStr raw = .ok v)
    (hdoc' : text.fromStr raw' = .ok (Json.withoutTokens v))
    (h : Store.open (indexJson text it) none files dataDir = .ok s) :
    ∃ s', Store.open (indexJson text it) none files' dataDir = .ok s' ∧ s'.dir = s.dir ∧
      s'.state.products = s.state.products ∧
      ∀ hash, s'.getPurchase hash =
        (s.getPurchase hash).map fun p => { p with claimToken := none } := by
  have hdecode := decode_of_open hindex hdoc h
  obtain ⟨ps, qs, hparts⟩ := indexParts_of_decode hdecode
  obtain ⟨hproducts, hpurchases⟩ := hparts.decode_eq_some.mp hdecode
  obtain ⟨purchases, hpurchases', hlookup⟩ :=
    HashMap.decode_map hpurchases PurchaseRecord.decode_withoutToken
  have hdecode' : (Persisted.codec it).decode (Json.withoutTokens v) =
      some ⟨s.state.products, purchases⟩ :=
    hparts.withoutTokens.decode_eq_some.mpr ⟨hproducts, hpurchases'⟩
  exact ⟨_, Store.open_of_index hindex' (indexJson_of_decode hdoc' hdecode'),
    (Store.open_dir h).symm, rfl, hlookup⟩

namespace Sample

def soldDoc : Json := (Persisted.codec .byKey).encode 0 sold

/-- The index after the sale of the track as a version without claim tokens left it. -/
def tokenlessText : String :=
  indexText ("\x7b\n" ++ (saleHead ++ ("false" ++ (tokenlessTail ++ "\n  \x7d"))))

/-- The index with the claim token and without. -/
def versionsText : JsonText :=
  .ofTable [(soldDoc, indexText (saleText "false")), (Json.withoutTokens soldDoc, tokenlessText)]

theorem saleText_ne_tokenless : indexText (saleText "false") ≠ tokenlessText := by
  unfold saleText tokenlessText tokenlessTail saleTail
  rw [Ne, indexText_inj, String.append_right_inj, String.append_right_inj,
    String.append_right_inj]
  repeat rw [String.append_assoc]
  apply append_ne_of_length_lt
  decide

theorem fromStr_sold : versionsText.fromStr (indexText (saleText "false")) = .ok soldDoc := by
  rw [versionsText, JsonText.fromStr_head]

theorem fromStr_tokenless :
    versionsText.fromStr tokenlessText = .ok (Json.withoutTokens soldDoc) := by
  rw [versionsText, JsonText.fromStr_tail saleText_ne_tokenless, JsonText.fromStr_head]

end Sample

/-- The index of the sale without the claim token opens as the sale without it. -/
theorem index_upgrade_sale : ∃ s, Store.open (indexJson Sample.versionsText .byKey) none
    (Sample.filesWith Sample.tokenlessText) Sample.dataDir = .ok s ∧
      s.getProduct "midnight" = some Sample.midnight ∧
      s.getPurchase Sample.hash = some { Sample.sale with claimToken := none } := by
  have hsold : Store.open (indexJson Sample.versionsText .byKey) none
      (Sample.filesWith (Sample.indexText (Sample.saleText "false"))) Sample.dataDir =
        .ok ⟨Sample.dir, Sample.sold⟩ :=
    Store.open_of_index (Sample.filesWith_index _)
      (indexJson_of_decode Sample.fromStr_sold ((Persisted.codec .byKey).decode_encode 0 _))
  obtain ⟨s, hopen, -, hproducts, hpurchases⟩ :=
    index_upgrade (Sample.filesWith_index _) (Sample.filesWith_index _) Sample.fromStr_sold
      Sample.fromStr_tokenless hsold
  refine ⟨s, hopen, ?_, ?_⟩
  · rw [Store.getProduct, hproducts]
    exact Finmap.lookup_insert _
  · have hsale : (Store.mk Sample.dir Sample.sold).getPurchase Sample.hash = some Sample.sale :=
      Finmap.lookup_insert _
    rw [hpurchases, hsale, Option.map_some]

end ArtistNode
