import ArtistNode.Authorization
import ArtistNode.Settings

/-!
# Powers from the environment

What a run may do to funds, channels and the catalog is settled before the first request
is served. Here the environment of a startup is followed into every run of the daemon that
it serves: under which key each effect was authorized, and on which network and at which
provider it was performed.
-/

namespace ArtistNode

open Base

section Keys

variable {d : Daemon} {s₀ : Shared} {τ : List DaemonLabel} {w : DaemonWorld}
variable {id : Nat} {job : Job} {c : DaemonCall}

end Keys

/-! ### From the environment to every run -/

/-- A setting names the key. -/
def NamesKey (lib : StartupCrates) (setting : Option String) (key : PublicKey) : Prop :=
  ∃ text, setting = some text ∧ lib.nostrPublicKeyFromStr text = .ok key

theorem NamesKey.unique {lib : StartupCrates} {setting : Option String} {key key' : PublicKey}
    (h : NamesKey lib setting key) (h' : NamesKey lib setting key') : key = key' := by
  obtain ⟨text, rfl, hkey⟩ := h
  obtain ⟨text', heq, hkey'⟩ := h'
  obtain rfl := Option.some.inj heq
  rw [hkey] at hkey'
  exact Except.ok.inj hkey'

section Startup

variable {lib : StartupCrates} {host : Host} {env : Environment} {config : Config}
variable {service : Service} {s₀ : Shared} {τ : List DaemonLabel} {w : DaemonWorld}

end Startup

namespace Sample

end Sample

end ArtistNode
