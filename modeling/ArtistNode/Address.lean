import ArtistNode.Settings

/-!
# The Lightning address

By default the address is made of the artist's name and of the host in `PUBLIC_URL`. The
metadata sends a wallet to a callback URL that ends in the local part of the address, and
the handler compares the name it is asked for with that local part.
-/

namespace ArtistNode

open Base

/-! ### The local part -/

theorem toLower_of_isAlphanum {c : Char} (h : c.isAlphanum) :
    c.toLower.isLower ∨ c.toLower.isDigit := by
  have h65 : ('A' : Char).val.toNat = 65 := rfl
  have h90 : ('Z' : Char).val.toNat = 90 := rfl
  have h97 : ('a' : Char).val.toNat = 97 := rfl
  have h122 : ('z' : Char).val.toNat = 122 := rfl
  by_cases hupper : c.val ≥ 'A'.val ∧ c.val ≤ 'Z'.val
  · left
    have hval : c.toLower.val = c.val + ('a'.val - 'A'.val) := by
      rw [Char.toLower, dif_pos hupper]
    have hadd : (c.val + ('a'.val - 'A'.val)).toNat = (c.val.toNat + 32) % 2 ^ 32 :=
      UInt32.toNat_add _ _
    obtain ⟨hlow, hhigh⟩ := hupper
    rw [ge_iff_le, UInt32.le_iff_toNat_le] at hlow
    rw [UInt32.le_iff_toNat_le] at hhigh
    simp only [Char.isLower, Bool.and_eq_true, decide_eq_true_eq, ge_iff_le,
      UInt32.le_iff_toNat_le, hval, hadd]
    omega
  · have hsame : c.toLower = c := by rw [Char.toLower, dif_neg hupper]
    have hcase : c.isUpper = false := decide_eq_false hupper
    rw [hsame]
    simpa [Char.isAlphanum, Char.isAlpha, hcase] using h

theorem slugify_ne_empty (name : String) : slugify name ≠ "" := by
  unfold slugify
  simp only
  split
  · decide
  · rename_i hne
    intro heq
    have hchars := congrArg String.toList heq
    rw [String.toList_ofList] at hchars
    exact hne hchars

/-- A slug is made of the letters a to z and of digits. -/
theorem slugify_chars (name : String) : ∀ c ∈ (slugify name).toList, c.isLower ∨ c.isDigit := by
  unfold slugify
  simp only
  split
  · intro c hc
    have hartist : "artist".toList.all Char.isLower = true := by decide
    exact Or.inl (List.all_eq_true.mp hartist c hc)
  · intro c hc
    rw [String.toList_ofList, List.mem_map] at hc
    obtain ⟨d, hd, rfl⟩ := hc
    exact toLower_of_isAlphanum (List.mem_filter.mp hd).2

theorem at_notMem_slug {slug : String} (h : ∀ c ∈ slug.toList, c.isLower ∨ c.isDigit) :
    '@' ∉ slug.toList := by
  intro hmem
  rcases h '@' hmem with hlower | hdigit
  · exact absurd hlower (by decide)
  · exact absurd hdigit (by decide)

theorem address_toList (slug host : String) :
    (slug ++ "@" ++ host).toList = slug.toList ++ '@' :: host.toList := by
  simp

theorem localPart_append {slug host : String} (h : '@' ∉ slug.toList) :
    Lnurl.localPart (slug ++ "@" ++ host) = slug := by
  rw [Lnurl.localPart, address_toList, List.takeWhile_append_of_pos (bne_of_notMem h)]
  simp

/-! ### The host -/

/-- A public URL: a scheme and a host, and possibly a port and a path. -/
structure PublicUrl where
  scheme : String
  host : String
  port : Option String
  path : Option String
  scheme_letters : ∀ c ∈ scheme.toList, c.isAlpha
  host_ne : host ≠ ""
  host_slash : '/' ∉ host.toList
  host_colon : ':' ∉ host.toList
  host_at : '@' ∉ host.toList
  port_digits : ∀ p, port = some p → ∀ c ∈ p.toList, c.isDigit

namespace PublicUrl

/-- `:port` and `/path`, where they are given. -/
def behindHost (u : PublicUrl) : String :=
  (match u.port with
    | none => ""
    | some port => ":" ++ port) ++
  (match u.path with
    | none => ""
    | some path => "/" ++ path)

def text (u : PublicUrl) : String := u.scheme ++ "://" ++ (u.host ++ u.behindHost)

end PublicUrl

section Host

variable {u : PublicUrl}

theorem behindHost_cases :
    u.behindHost.toList = [] ∨ ∃ c rest, u.behindHost.toList = c :: rest ∧ (c = ':' ∨ c = '/') := by
  unfold PublicUrl.behindHost
  cases u.port with
  | some port => exact Or.inr ⟨':', _, by simp; rfl, Or.inl rfl⟩
  | none =>
    cases u.path with
    | some path => exact Or.inr ⟨'/', _, by simp; rfl, Or.inr rfl⟩
    | none => exact Or.inl (by simp)

/-- The host ends where the first of a port and a path begins, whatever of them a cut has
    left over. -/
theorem host_ends {rest : List Char} (hrest : rest <+: u.behindHost.toList) :
    ((u.host.toList ++ rest).takeWhile (· != '/')).takeWhile (· != ':') = u.host.toList := by
  rw [List.takeWhile_append_of_pos (bne_of_notMem u.host_slash),
    List.takeWhile_append_of_pos (bne_of_notMem u.host_colon)]
  have hnil : (rest.takeWhile (· != '/')).takeWhile (· != ':') = [] := by
    cases rest with
    | nil => rfl
    | cons c rest =>
      rcases behindHost_cases with hnone | ⟨c', rest', hbehind, hc'⟩
      · rw [hnone] at hrest
        exact absurd (List.prefix_nil.mp hrest) (List.cons_ne_nil _ _)
      · rw [hbehind, List.cons_prefix_cons] at hrest
        obtain ⟨rfl, -⟩ := hrest
        rcases hc' with rfl | rfl
        · simp
        · simp
  rw [hnil, List.append_nil]

/-- What `split("://")` leaves behind the scheme starts with the host. -/
theorem afterScheme_eq : ∃ rest, rest <+: u.behindHost.toList ∧
    (splitText "://" u.text)[1]? = some (String.ofList (u.host.toList ++ rest)) := by
  have hpat : "://".toList = ':' :: ['/', '/'] := rfl
  have hpat_ne : "://".toList ≠ [] := by
    rw [hpat]
    exact List.cons_ne_nil _ _
  have hscheme : ':' ∉ u.scheme.toList := fun hmem =>
    absurd (u.scheme_letters ':' hmem) (by decide)
  have hchars : u.text.toList =
      u.scheme.toList ++ (':' :: ['/', '/'] ++ (u.host.toList ++ u.behindHost.toList)) := by
    simp [PublicUrl.text]
  have hcut : cutAt "://".toList u.text.toList =
      some (u.scheme.toList, u.host.toList ++ u.behindHost.toList) := by
    rw [hchars, hpat, cutAt_skip _ hscheme, cutAt_append _ (List.cons_ne_nil _ _)]
    simp
  rw [splitText_eq hpat_ne, hcut]
  simp only [List.getElem?_cons_succ]
  rw [splitText_eq hpat_ne, hpat, String.toList_ofList, cutAt_skip _ u.host_colon]
  rcases hagain : cutAt (':' :: ['/', '/']) u.behindHost.toList with _ | ⟨a, b⟩
  · exact ⟨_, List.prefix_refl _, rfl⟩
  · refine ⟨a, ?_, rfl⟩
    rw [cutAt_eq hagain, List.append_assoc]
    exact List.prefix_append _ _

theorem urlHost_text : urlHost u.text = u.host := by
  obtain ⟨rest, hrest, hafter⟩ := @afterScheme_eq u
  unfold urlHost
  simp only [hafter, split_head?, Option.getD_some, String.toList_ofList]
  rw [host_ends hrest, String.ofList_toList]

end Host

/-! ### The callback -/

/-- The last path segment of a URL. -/
def lastSegment (url : String) : String := ((split '/' url).getLast?).getD ""

theorem lastSegment_append {before name : String} (h : '/' ∉ name.toList) :
    lastSegment (before ++ "/" ++ name) = name := by
  have hchars : (before ++ "/" ++ name).toList = before.toList ++ '/' :: name.toList := by simp
  unfold lastSegment split
  rw [hchars, List.splitOn_append_cons_self, List.splitOn_eq_singleton h]
  simp

/-- A local part of an address: letters, digits, and some signs. -/
structure Admissible (name : String) : Prop where
  ne_empty : name ≠ ""
  chars : ∀ c ∈ name.toList, c.isAlphanum ∨ c ∈ ['-', '_', '.', '+']

theorem Admissible.notMem_slash {name : String} (h : Admissible name) : '/' ∉ name.toList := by
  intro hmem
  rcases h.chars '/' hmem with hletter | hsign
  · exact absurd hletter (by decide)
  · exact absurd hsign (by decide)

theorem callbackUrl_lastSegment {st : Lnurl.LnurlState}
    (h : Admissible (Lnurl.localPart st.address)) :
    lastSegment (Lnurl.callbackUrl st) = Lnurl.localPart st.address := by
  have hpath : "/.well-known/lnurlp/" = "/.well-known/lnurlp" ++ "/" := rfl
  rw [Lnurl.callbackUrl, hpath, ← String.append_assoc]
  exact lastSegment_append h.notMem_slash

/-- The handler gets past the name, to the metadata or to an invoice. -/
def Accepts (d : Daemon) (name : String) : Prop :=
  ∀ params, handle d (.lnurlp name params) =
    match params.amount with
    | none => Lnurl.metadataResponse d.lib d.lnurlState
    | some amountMsat => Lnurl.invoiceResponse d.lib d.lnurlState amountMsat

/-- The daemon answers under the name that its own metadata gives, in any case, and under
    no name other than its local part. -/
structure AnswersForItself (d : Daemon) : Prop where
  metadata : ∀ channels, ∃ request, Reaches (Lnurl.metadataResponse d.lib d.lnurlState)
    [⟨.listChannels, channels⟩] (.done (.payRequest request))
  accepted : ∀ h request, Reaches (Lnurl.metadataResponse d.lib d.lnurlState) h
      (.done (.payRequest request)) →
    ∀ name, eqIgnoreAsciiCase name (lastSegment request.callback) = true → Accepts d name
  refused : ∀ name, eqIgnoreAsciiCase name (Lnurl.localPart d.lnurlAddress) = false →
    ∀ params, handle d (.lnurlp name params) = .done (.lnurlError "Unknown user")

theorem metadataResponse_callback {lib : Crates} {st : Lnurl.LnurlState} {h : List DaemonCall}
    {request : PayRequest}
    (hr : Reaches (Lnurl.metadataResponse lib st) h (.done (.payRequest request))) :
    request.callback = Lnurl.callbackUrl st := by
  obtain ⟨channels, h', -, hrest⟩ := reaches_call_iff.mp hr
  obtain ⟨-, hdone⟩ := hrest.of_done
  have hresponse := Process.done.inj hdone
  rw [Response.payRequest.inj hresponse]

theorem answersForItself {d : Daemon} (h : Admissible (Lnurl.localPart d.lnurlAddress)) :
    AnswersForItself d := by
  constructor
  · intro channels
    exact ⟨_, Reaches.step channels .refl⟩
  · intro hist request hr name hname params
    have hsegment : lastSegment request.callback = Lnurl.localPart d.lnurlState.address := by
      rw [metadataResponse_callback hr]
      exact callbackUrl_lastSegment h
    rw [hsegment] at hname
    obtain ⟨amount, comment⟩ := params
    cases amount with
    | none => simp only [handle, Lnurl.lnurlp, hname, Bool.not_true, Bool.false_eq_true, if_false]
    | some amountMsat =>
      simp only [handle, Lnurl.lnurlp, hname, Bool.not_true, Bool.false_eq_true, if_false]
  · intro name hname params
    have hother : eqIgnoreAsciiCase name (Lnurl.localPart d.lnurlState.address) = false := hname
    simp only [handle, Lnurl.lnurlp, hother, Bool.not_false, if_true]
    rfl

/-! ### The configured address -/

/-- What the default address looks like: a slug of the letters a to z and of digits, and
    the host, with one `@` between them. -/
structure DefaultAddress (address host : String) : Prop where
  slug : ∃ slug, address = slug ++ "@" ++ host ∧ slug ≠ "" ∧
    ∀ c ∈ slug.toList, c.isLower ∨ c.isDigit
  count : address.toList.count '@' = 1

theorem defaultAddress_slugify {name host : String} (h : '@' ∉ host.toList) :
    DefaultAddress (slugify name ++ "@" ++ host) host := by
  have hslug := at_notMem_slug (slugify_chars name)
  constructor
  · exact ⟨slugify name, rfl, slugify_ne_empty name, slugify_chars name⟩
  · rw [address_toList, List.count_append, List.count_cons_self, List.count_eq_zero.mpr hslug,
      List.count_eq_zero.mpr h]

theorem DefaultAddress.admissible {address host : String} (h : DefaultAddress address host) :
    Admissible (Lnurl.localPart address) := by
  obtain ⟨slug, rfl, hne, hchars⟩ := h.slug
  rw [localPart_append (at_notMem_slug hchars)]
  refine ⟨hne, fun c hc => Or.inl ?_⟩
  rcases hchars c hc with hlower | hdigit
  · simp [Char.isAlphanum, Char.isAlpha, hlower]
  · simp [Char.isAlphanum, hdigit]

/-- The node answers for its own address: for the default one, whatever the artist is
    called, and for every address with an admissible local part. -/
theorem config_answersForItself {lib : StartupCrates} {env : Environment} {config : Config}
    {u : PublicUrl} (hurl : env "PUBLIC_URL" = some u.text)
    (hconfig : Config.fromEnv lib env = .ok config) :
    (env "LNURL_ADDRESS" = none → DefaultAddress config.lnurlAddress u.host) ∧
      (env "LNURL_ADDRESS" = none ∨ Admissible (Lnurl.localPart config.lnurlAddress) →
        ∀ artistPubkey adminPubkey,
          AnswersForItself (config.daemon lib artistPubkey adminPubkey)) := by
  have hread := Config.readFrom_of_fromEnv hconfig
  have hdefault : env "LNURL_ADDRESS" = none → DefaultAddress config.lnurlAddress u.host := by
    intro hunset
    have hpublic : config.publicUrl = u.text := by
      rw [hread.publicUrl, hurl]
      rfl
    have haddress : config.lnurlAddress = slugify config.artistName ++ "@" ++ u.host := by
      rw [hread.lnurlAddress, hunset, hpublic, urlHost_text]
      rfl
    rw [haddress]
    exact defaultAddress_slugify u.host_at
  refine ⟨hdefault, fun hcase artistPubkey adminPubkey => ?_⟩
  have hadmissible : Admissible (Lnurl.localPart config.lnurlAddress) := by
    rcases hcase with hunset | hadmissible
    · exact (hdefault hunset).admissible
    · exact hadmissible
  exact answersForItself hadmissible

namespace Sample

/-- A path that holds every separator. -/
def publicUrl : PublicUrl where
  scheme := "https"
  host := "node.example.com"
  port := some "8443"
  path := some "a@b:c://d"
  scheme_letters := List.all_eq_true.mp (by decide)
  host_ne := by decide
  host_slash := by decide
  host_colon := by decide
  host_at := by decide
  port_digits := by
    intro p hp
    obtain rfl := Option.some.inj hp
    exact List.all_eq_true.mp (by decide)

/-- The artist's name and the public URL are set, the address is not. -/
def publicEnvironment : Environment := fun name =>
  if name = "PUBLIC_URL" then some publicUrl.text
  else if name = "ARTIST_NAME" then some "Søn & Co."
  else environment name

end Sample

/-- An artist named `Søn & Co.`, at a host with a port and a path. -/
theorem config_answersForItself_public :
    ∃ config, Config.fromEnv Sample.startupCrates Sample.publicEnvironment = .ok config ∧
      DefaultAddress config.lnurlAddress "node.example.com" ∧
      AnswersForItself (config.daemon Sample.startupCrates none none) := by
  have hset : Sample.publicEnvironment "LDK_MNEMONIC" = some Sample.mnemonicWords := rfl
  have hurl : Sample.publicEnvironment "PUBLIC_URL" = some Sample.publicUrl.text := rfl
  have haddress : Sample.publicEnvironment "LNURL_ADDRESS" = none := rfl
  obtain ⟨config, hconfig⟩ := Config.fromEnv_of_mnemonic hset Sample.mnemonic_valid
  obtain ⟨hdefault, hanswers⟩ := config_answersForItself hurl hconfig
  exact ⟨config, hconfig, hdefault haddress, hanswers (Or.inl haddress) none none⟩

end ArtistNode
