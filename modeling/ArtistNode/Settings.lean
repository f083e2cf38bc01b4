import ArtistNode.Authorization
import ArtistNode.Config
import Mathlib.Data.Finset.Insert

/-!
# Empty settings

The template of the environment file scaffolds optional settings as empty texts. An empty
text is a value: `std::env::var` returns it, no default takes its place, and what parses
it sees it.
-/

namespace ArtistNode

open Base

def optionalVars : Finset String :=
  {"ARTIST_PUBKEY", "ADMIN_PUBKEY", "LNURL_ADDRESS", "LSPS1_API_URL", "LSPS1_NODE_URI",
    "PUBLIC_URL", "BITCOIND_RPC_URL", "RGS_URL"}

/-- The environment with each of these variables set to the value, or unset. -/
def Environment.assign (vars : Finset String) (value : Option String) (env : Environment) :
    Environment :=
  fun name => if name ∈ vars then value else env name

section Assign

variable {vars : Finset String} {value : Option String} {env : Environment} {name : String}

theorem assign_of_mem (h : name ∈ vars) : env.assign vars value name = value := if_pos h

theorem assign_of_notMem (h : name ∉ vars) : env.assign vars value name = env name := if_neg h

end Assign

/-! ### What becomes of unset and of empty settings -/

section Startup

variable {lib : StartupCrates} {host : Host} {env : Environment} {service : Service}

/-- The defaults of the optional settings: no uploads, no admin interface, the Lightning
    address from the artist's name, Esplora as chain source and no LSPS1 peer. -/
theorem startup_unset (h : startup lib host (env.assign optionalVars none) = .serving service) :
    service.daemon.artistPubkey = none ∧ service.daemon.adminPubkey = none ∧
      service.daemon.lnurlAddress =
        s!"{slugify service.daemon.artistName}@{urlHost service.daemon.publicUrl}" ∧
      (∃ url, service.node.chainSource = .esplora url) ∧
      service.node.trustedPeers0conf = [] ∧ service.lsps1Peer = none := by
  obtain ⟨config, hconfig, hserves⟩ := startup_serving h
  have hread := Config.readFrom_of_fromEnv hconfig
  have hunset : ∀ name ∈ optionalVars, env.assign optionalVars none name = none :=
    fun name hname => assign_of_mem hname
  have hartist : config.artistPubkey = none := by
    rw [hread.artistPubkey, hunset _ (by decide)]
  have hadmin : config.adminPubkey = none := by
    rw [hread.adminPubkey, hunset _ (by decide), hunset _ (by decide)]
    rfl
  have haddress : config.lnurlAddress =
      s!"{slugify config.artistName}@{urlHost config.publicUrl}" := by
    rw [hread.lnurlAddress, hunset _ (by decide)]
    rfl
  have hrpc : config.bitcoindRpcUrl = none := by
    rw [hread.bitcoindRpcUrl, hunset _ (by decide)]
  have huri : config.lsps1NodeUri = none := by
    rw [hread.lsps1NodeUri, hunset _ (by decide)]
  obtain ⟨hpeers, hsource⟩ := buildNode_ok hserves.built
  have hpubkey := hserves.artistPubkey
  have hoperator := hserves.adminPubkey
  rw [hartist] at hpubkey
  rw [hadmin] at hoperator
  refine ⟨(Except.ok.inj hpubkey).symm, (Except.ok.inj hoperator).symm, ?_, ?_, ?_, ?_⟩
  · rw [hserves.daemon]
    exact haddress
  · refine ⟨config.esploraUrl, ?_⟩
    simp only [chainSource, hrpc] at hsource
    exact (Except.ok.inj hsource).symm
  · simp only [trustedPeers, huri] at hpeers
    exact (Except.ok.inj hpeers).symm
  · rw [hserves.lsps1Peer, lsps1Peer, huri]

/-- Four of the settings cannot be empty: no artist or operator key, no URL of a bitcoind
    and no URI of a provider is an empty text, and `main` exits. -/
theorem not_serving_of_empty {name e : String}
    (hname : name ∈ ["ARTIST_PUBKEY", "ADMIN_PUBKEY", "BITCOIND_RPC_URL", "LSPS1_NODE_URI"])
    (hempty : env name = some "") (hkey : lib.nostrPublicKeyFromStr "" = .error e) :
    startup lib host env ≠ .serving service := by
  intro h
  obtain ⟨config, hconfig, hserves⟩ := startup_serving h
  have hread := Config.readFrom_of_fromEnv hconfig
  obtain ⟨hpeers, hsource⟩ := buildNode_ok hserves.built
  simp only [List.mem_cons, List.not_mem_nil, or_false] at hname
  rcases hname with rfl | rfl | rfl | rfl
  · have hpubkey := hserves.artistPubkey
    simp only [hread.artistPubkey, hempty, parsePubkey, hkey] at hpubkey
    cases hpubkey
  · have hoperator := hserves.adminPubkey
    simp only [hread.adminPubkey, hempty, Option.some_or, parsePubkey, hkey] at hoperator
    cases hoperator
  · rw [chainSource, hread.bitcoindRpcUrl, hempty] at hsource
    cases hsource
  · rw [trustedPeers, hread.lsps1NodeUri, hempty] at hpeers
    cases hpeers

end Startup

/-! ### Empty against unset -/

/-- Setting these variables to the empty text has the same effect as leaving them unset. -/
structure EmptyIsUnset (lib : StartupCrates) (host : Host) (vars : Finset String)
    (env : Environment) : Prop where
  config : Config.fromEnv lib (env.assign vars (some "")) =
    Config.fromEnv lib (env.assign vars none)
  startup : startup lib host (env.assign vars (some "")) = startup lib host (env.assign vars none)

section EmptyIsUnset

variable {lib : StartupCrates} {host : Host} {vars : Finset String} {env other : Environment}

theorem append_ne_empty {a b : String} (h : a ≠ "" ∨ b ≠ "") : a ++ b ≠ "" := by
  intro heq
  obtain ⟨ha, hb⟩ := String.append_eq_empty_iff.mp heq
  exact h.elim (fun hne => hne ha) fun hne => hne hb

/-- Among the optional settings only the operator key can resolve to the same value. -/
theorem empty_resolves {config : Config} {name : String} (hname : name ∈ optionalVars)
    (hmem : name ∈ vars) (hempty : config.ReadFrom (env.assign vars (some "")))
    (hunset : config.ReadFrom (env.assign vars none)) : name = "ADMIN_PUBKEY" := by
  have hsome : env.assign vars (some "") name = some "" := assign_of_mem hmem
  have hnone : env.assign vars none name = none := assign_of_mem hmem
  have hdiffer : ∀ setting : Option String, setting = env.assign vars (some "") name →
      setting ≠ env.assign vars none name := by
    intro setting hleft hright
    rw [hleft, hsome, hnone] at hright
    cases hright
  simp only [optionalVars, Finset.mem_insert, Finset.mem_singleton] at hname
  rcases hname with rfl | rfl | rfl | rfl | rfl | rfl | rfl | rfl
  · exact absurd hunset.artistPubkey (hdiffer _ hempty.artistPubkey)
  · rfl
  · have haddress := hempty.lnurlAddress.symm.trans hunset.lnurlAddress
    rw [hsome, hnone] at haddress
    exact absurd haddress.symm (append_ne_empty (Or.inl (append_ne_empty (Or.inr (by decide)))))
  · exact absurd hunset.lsps1ApiUrl (hdiffer _ hempty.lsps1ApiUrl)
  · exact absurd hunset.lsps1NodeUri (hdiffer _ hempty.lsps1NodeUri)
  · have hurl := hempty.publicUrl.symm.trans hunset.publicUrl
    rw [hsome, hnone] at hurl
    exact absurd hurl.symm (append_ne_empty (Or.inl (by decide)))
  · exact absurd hunset.bitcoindRpcUrl (hdiffer _ hempty.bitcoindRpcUrl)
  · exact absurd hunset.rgsUrl (hdiffer _ hempty.rgsUrl)

/-- The operator key is read together with the artist's, and every other variable by
    itself. -/
theorem fromEnv_congr (hsame : ∀ name, name ≠ "ADMIN_PUBKEY" → env name = other name)
    (hadmin : (env "ADMIN_PUBKEY").or (env "ARTIST_PUBKEY") =
      (other "ADMIN_PUBKEY").or (other "ARTIST_PUBKEY")) :
    Config.fromEnv lib env = Config.fromEnv lib other := by
  unfold Config.fromEnv
  rw [hadmin, hsame "LDK_MNEMONIC" (by decide), hsame "HEALTH_PORT" (by decide),
    hsame "ARTIST_NAME" (by decide), hsame "PUBLIC_URL" (by decide), hsame "NETWORK" (by decide),
    hsame "DATA_DIR" (by decide), hsame "ESPLORA_URL" (by decide),
    hsame "BITCOIND_RPC_URL" (by decide), hsame "RGS_URL" (by decide),
    hsame "LSP_NODE_ID" (by decide), hsame "LSP_ADDRESS" (by decide),
    hsame "LSP_TOKEN" (by decide), hsame "ARTIST_PUBKEY" (by decide),
    hsame "LNURL_ADDRESS" (by decide), hsame "LSPS1_API_URL" (by decide),
    hsame "LSPS1_NODE_URI" (by decide)]

/-- An empty operator key next to an empty artist's key resolves as an unset one does. -/
theorem fromEnv_admin (hartist : env "ARTIST_PUBKEY" = some "") :
    Config.fromEnv lib (env.assign {"ADMIN_PUBKEY"} (some "")) =
      Config.fromEnv lib (env.assign {"ADMIN_PUBKEY"} none) := by
  apply fromEnv_congr
  · intro name hne
    have hnot : name ∉ ({"ADMIN_PUBKEY"} : Finset String) :=
      fun hmem => hne (Finset.mem_singleton.mp hmem)
    rw [assign_of_notMem hnot, assign_of_notMem hnot]
  · rw [assign_of_mem (Finset.mem_singleton_self _), assign_of_mem (Finset.mem_singleton_self _),
      assign_of_notMem (by decide), assign_of_notMem (by decide), hartist]
    rfl

/-- Both environments of a law that holds resolve to the same configuration. -/
theorem EmptyIsUnset.readFrom {words : String} {mnemonic : Mnemonic}
    (hlaw : EmptyIsUnset lib host vars env) (hvars : vars ⊆ optionalVars)
    (hset : env "LDK_MNEMONIC" = some words)
    (hvalid : lib.mnemonicFromStr words = .ok mnemonic) :
    ∃ config : Config, config.ReadFrom (env.assign vars (some "")) ∧
      config.ReadFrom (env.assign vars none) := by
  have hmnemonic : "LDK_MNEMONIC" ∉ vars := fun hmem => absurd (hvars hmem) (by decide)
  have hkept : env.assign vars none "LDK_MNEMONIC" = some words :=
    (assign_of_notMem hmnemonic).trans hset
  obtain ⟨config, hconfig⟩ := Config.fromEnv_of_mnemonic hkept hvalid
  exact ⟨config, Config.readFrom_of_fromEnv (hlaw.config.trans hconfig),
    Config.readFrom_of_fromEnv hconfig⟩

/-- Empty settings are unset ones exactly when there are none, or when only the operator
    key is empty and the artist's key, which it falls back to, is empty already. -/
theorem emptyIsUnset_iff {words : String} {mnemonic : Mnemonic} (hvars : vars ⊆ optionalVars)
    (hset : env "LDK_MNEMONIC" = some words)
    (hvalid : lib.mnemonicFromStr words = .ok mnemonic) :
    EmptyIsUnset lib host vars env ↔
      vars = ∅ ∨ vars = {"ADMIN_PUBKEY"} ∧ env "ARTIST_PUBKEY" = some "" := by
  constructor
  · intro hlaw
    obtain ⟨config, hempty, hunset⟩ := hlaw.readFrom hvars hset hvalid
    have honly : vars ⊆ {"ADMIN_PUBKEY"} := by
      intro name hmem
      exact Finset.mem_singleton.mpr (empty_resolves (hvars hmem) hmem hempty hunset)
    rcases Finset.subset_singleton_iff.mp honly with hnone | rfl
    · exact Or.inl hnone
    · have hkey := hempty.adminPubkey.symm.trans hunset.adminPubkey
      rw [assign_of_mem (Finset.mem_singleton_self _), assign_of_mem (Finset.mem_singleton_self _),
        assign_of_notMem (by decide), assign_of_notMem (by decide)] at hkey
      exact Or.inr ⟨rfl, hkey.symm⟩
  · intro hcase
    have hconfig : Config.fromEnv lib (env.assign vars (some "")) =
        Config.fromEnv lib (env.assign vars none) := by
      rcases hcase with rfl | ⟨rfl, hartist⟩
      · rfl
      · exact fromEnv_admin hartist
    refine ⟨hconfig, ?_⟩
    unfold startup
    rw [hconfig]

end EmptyIsUnset

namespace Sample

def mnemonicWords : String :=
  "abandon abandon abandon abandon abandon abandon abandon abandon abandon abandon abandon about"

/-- The other crates at startup: they accept the mnemonic and the default provider, and no
    other text. -/
def startupCrates : StartupCrates where
  toCrates := { crates upload with
    nodePublicKeyFromStr := fun text =>
      if text = "0371d6fd7d75de2d0372d03ea00e8bacdacb50c27d0eaea0a76a0622eff1f5ef2b" then .ok ⟨text⟩
      else .error "malformed public key"
    socketAddressFromStr := fun text =>
      if text = "44.228.24.253:9735" then some ⟨text⟩ else none }
  mnemonicFromStr text :=
    if text = mnemonicWords then .ok ⟨text⟩ else .error "mnemonic contains an unknown word"
  nostrPublicKeyFromStr _ := .error "malformed public key"
  socketAddressError _ := "invalid address"

theorem mnemonic_valid : startupCrates.mnemonicFromStr mnemonicWords = .ok ⟨mnemonicWords⟩ := by
  simp [startupCrates]

/-- A machine on which everything works, with an empty data directory. -/
def host : Host where
  build _ := .ok ()
  start _ _ := true
  openFault := none
  files _ := none

/-- Only the mnemonic is set. -/
def environment : Environment := fun name =>
  if name = "LDK_MNEMONIC" then some mnemonicWords else none

end Sample

/-- The artist's key is empty, and so is the operator's. -/
theorem emptyIsUnset_admin :
    EmptyIsUnset Sample.startupCrates Sample.host {"ADMIN_PUBKEY"}
      (Sample.environment.assign {"ARTIST_PUBKEY"} (some "")) := by
  have hset : Sample.environment.assign {"ARTIST_PUBKEY"} (some "") "LDK_MNEMONIC" =
      some Sample.mnemonicWords := rfl
  exact (emptyIsUnset_iff (by decide) hset Sample.mnemonic_valid).mpr (Or.inr ⟨rfl, rfl⟩)

/-- The template as it is shipped leaves the artist's key empty: the daemon exits. With the
    variable unset it starts, and uploads are disabled. -/
theorem empty_pubkey_exits :
    startup Sample.startupCrates Sample.host
        (Sample.environment.assign {"ARTIST_PUBKEY"} (some "")) =
      .exit "Invalid ARTIST_PUBKEY: malformed public key" ∧
    (∃ service, startup Sample.startupCrates Sample.host
        (Sample.environment.assign {"ARTIST_PUBKEY"} none) = .serving service ∧
      service.daemon.artistPubkey = none) ∧
    ¬ EmptyIsUnset Sample.startupCrates Sample.host {"ARTIST_PUBKEY"} Sample.environment := by
  have hempty : startup Sample.startupCrates Sample.host
      (Sample.environment.assign {"ARTIST_PUBKEY"} (some "")) =
    .exit "Invalid ARTIST_PUBKEY: malformed public key" := rfl
  refine ⟨hempty, ⟨_, rfl, rfl⟩, fun hlaw => ?_⟩
  have hsame := hempty.symm.trans hlaw.startup
  cases hsame

end ArtistNode
