import Mathlib.Data.List.Induction
import Mathlib.Order.Defs.Unbundled

/-!
# A state with a durable copy

A program keeps its state in memory and a copy of it on disk. A change goes to memory
and reaches the disk or not; a restart loads what is on disk. `Journal.replay` is what
a history of changes and restarts makes of the two, and the rules of this file say
which changes survive it.
-/

namespace ArtistNode.Base

variable {σ μ : Type}

/-- A state in memory, and the copy that a restart finds. -/
structure Journal (σ : Type) where
  memory : σ
  disk : σ

/-- One event of a history. A change that was `written` has reached the disk. -/
inductive JournalEvent (μ : Type) where
  | change (m : μ) (written : Bool)
  | restart
deriving DecidableEq

/-- The change that an event asks for. -/
def JournalEvent.change? : JournalEvent μ → Option μ
  | .change m _ => some m
  | .restart => none

/-- Carry out a change; `none` stands for a change that finds nothing to do. -/
def applyChange (change : σ → μ → Option σ) (s : σ) (m : μ) : σ := (change s m).getD s

namespace Journal

variable {change : σ → μ → Option σ} {j : Journal σ} {es es' : List (JournalEvent μ)}

/-- One event. Where there is nothing to change, nothing is written either. -/
def step (change : σ → μ → Option σ) (j : Journal σ) : JournalEvent μ → Journal σ
  | .change m written =>
    match change j.memory m with
    | none => j
    | some s => ⟨s, if written then s else j.disk⟩
  | .restart => ⟨j.disk, j.disk⟩

def replay (change : σ → μ → Option σ) (j : Journal σ) (es : List (JournalEvent μ)) :
    Journal σ :=
  es.foldl (step change) j

@[simp] theorem replay_nil : j.replay change [] = j := rfl

@[simp] theorem replay_concat (e : JournalEvent μ) :
    j.replay change (es ++ [e]) = (j.replay change es).step change e := by
  simp [replay]

theorem replay_append : j.replay change (es ++ es') = (j.replay change es).replay change es' :=
  List.foldl_append

/-! ### What a step does -/

theorem step_none {m : μ} {written : Bool} (h : change j.memory m = none) :
    j.step change (.change m written) = j := by
  simp only [step, h]

theorem step_some {m : μ} {written : Bool} {s : σ} (h : change j.memory m = some s) :
    j.step change (.change m written) = ⟨s, if written then s else j.disk⟩ := by
  simp only [step, h]

@[simp] theorem step_restart : j.step change .restart = ⟨j.disk, j.disk⟩ := rfl

/-! ### Which changes survive -/

/-- The changes of a history that did something and were written. -/
def committed (change : σ → μ → Option σ) : Journal σ → List (JournalEvent μ) → List μ
  | _, [] => []
  | j, .change m written :: es =>
    if (change j.memory m).isSome && written then
      m :: committed change (j.step change (.change m written)) es
    else committed change (j.step change (.change m written)) es
  | j, .restart :: es => committed change (j.step change .restart) es

theorem committed_append :
    committed change j (es ++ es') =
      committed change j es ++ committed change (j.replay change es) es' := by
  induction es generalizing j with
  | nil => rfl
  | cons e es ih =>
    cases e with
    | change m written =>
      simp only [List.cons_append, committed, replay, List.foldl_cons]
      by_cases h : ((change j.memory m).isSome && written) = true
      · rw [if_pos h, if_pos h, ih]
        rfl
      · rw [if_neg h, if_neg h, ih]
        rfl
    | restart =>
      simp only [List.cons_append, committed, replay, List.foldl_cons]
      rw [ih]
      rfl

/-- The two states after a history, as changes of the state `s` it started with: what
    is `kept` is on disk, and what is `pending` is lost at a restart. -/
structure Survives (change : σ → μ → Option σ) (s : σ) (es : List (JournalEvent μ))
    (j : Journal σ) (kept pending : List μ) : Prop where
  disk : j.disk = kept.foldl (applyChange change) s
  memory : j.memory = (kept ++ pending).foldl (applyChange change) s
  durable : (committed change ⟨s, s⟩ es).Sublist kept
  asked : (kept ++ pending).Sublist (es.filterMap JournalEvent.change?)

section Survives

variable {s : σ} {kept pending : List μ}

/-- A restart loses what is pending. -/
theorem Survives.restart (h : Survives change s es j kept pending) :
    Survives change s (es ++ [.restart]) (j.step change .restart) kept [] := by
  constructor
  · exact h.disk
  · rw [List.append_nil]
    exact h.disk
  · rw [committed_append, committed, committed, List.append_nil]
    exact h.durable
  · rw [List.append_nil, List.filterMap_append]
    have hkept : kept.Sublist (kept ++ pending) := List.sublist_append_left _ _
    exact (hkept.trans h.asked).trans (List.sublist_append_left _ _)

/-- A change that finds nothing to do survives by doing nothing again. -/
theorem Survives.idle (h : Survives change s es j kept pending)
    (hreplay : replay change ⟨s, s⟩ es = j) {m : μ} {written : Bool}
    (hnone : change j.memory m = none) :
    Survives change s (es ++ [.change m written]) (j.step change (.change m written)) kept
      pending := by
  rw [step_none hnone]
  constructor
  · exact h.disk
  · exact h.memory
  · rw [committed_append, hreplay, committed, hnone]
    simpa [committed] using h.durable
  · rw [List.filterMap_append]
    exact h.asked.trans (List.sublist_append_left _ _)

/-- A change that does something is pending, or takes everything pending to the disk
    with it. -/
theorem Survives.perform (h : Survives change s es j kept pending)
    (hreplay : replay change ⟨s, s⟩ es = j) {m : μ} {written : Bool} {s' : σ}
    (hsome : change j.memory m = some s') :
    Survives change s (es ++ [.change m written]) (j.step change (.change m written))
      (if written then kept ++ pending ++ [m] else kept)
      (if written then [] else pending ++ [m]) := by
  have hmemory : s' = (kept ++ pending ++ [m]).foldl (applyChange change) s := by
    rw [List.foldl_append, ← h.memory, List.foldl_cons, List.foldl_nil, applyChange, hsome]
    rfl
  have hasked : (kept ++ pending ++ [m]).Sublist
      (List.filterMap JournalEvent.change? (es ++ [.change m written])) := by
    rw [List.filterMap_append]
    exact h.asked.append (List.Sublist.refl [m])
  rw [step_some hsome]
  by_cases hwritten : written = true
  · subst hwritten
    rw [if_pos rfl, if_pos rfl, if_pos rfl]
    constructor
    · exact hmemory
    · rw [List.append_nil]
      exact hmemory
    · rw [committed_append, hreplay, committed, hsome]
      have hkept : kept.Sublist (kept ++ pending) := List.sublist_append_left _ _
      exact (h.durable.trans hkept).append (List.Sublist.refl [m])
    · rw [List.append_nil]
      exact hasked
  · rw [if_neg hwritten, if_neg hwritten, if_neg hwritten]
    constructor
    · exact h.disk
    · rw [← List.append_assoc]
      exact hmemory
    · rw [committed_append, hreplay, committed]
      simpa [committed, hwritten] using h.durable
    · rw [← List.append_assoc]
      exact hasked

end Survives

/-- After any history the disk holds the changes that are kept and memory those and the
    pending ones, in their order; a change that was written is kept. -/
theorem replay_survives (change : σ → μ → Option σ) (s : σ) (es : List (JournalEvent μ)) :
    ∃ kept pending, Survives change s es (replay change ⟨s, s⟩ es) kept pending := by
  induction es using List.reverseRecOn with
  | nil => exact ⟨[], [], rfl, rfl, List.Sublist.refl _, List.Sublist.refl _⟩
  | append_singleton es e ih =>
    obtain ⟨kept, pending, h⟩ := ih
    rw [replay_concat]
    cases e with
    | restart => exact ⟨_, _, h.restart⟩
    | change m written =>
      by_cases hnone : change (replay change ⟨s, s⟩ es).memory m = none
      · exact ⟨_, _, h.idle rfl hnone⟩
      · obtain ⟨s', hsome⟩ := Option.ne_none_iff_exists'.mp hnone
        exact ⟨_, _, h.perform rfl hsome⟩

/-! ### Growth -/

/-- What is on disk is below what is in memory. -/
def Below (R : σ → σ → Prop) (j : Journal σ) : Prop := R j.disk j.memory

/-- Where changes only let the state grow, the disk stays below memory, and it grows at
    every event: what a restart takes away was never on disk. -/
theorem Below.step {R : σ → σ → Prop} [IsPreorder σ R] (h : j.Below R) (e : JournalEvent μ)
    (hgrow : ∀ m written s, e = .change m written → change j.memory m = some s → R j.memory s) :
    (j.step change e).Below R ∧ R j.disk (j.step change e).disk := by
  cases e with
  | restart => exact ⟨refl_of R j.disk, refl_of R j.disk⟩
  | change m written =>
    by_cases hnone : change j.memory m = none
    · rw [step_none hnone]
      exact ⟨h, refl_of R j.disk⟩
    · obtain ⟨s, hsome⟩ := Option.ne_none_iff_exists'.mp hnone
      have hs : R j.disk s := trans_of R h (hgrow m written s rfl hsome)
      rw [step_some hsome]
      by_cases hwritten : written = true
      · rw [if_pos hwritten]
        exact ⟨refl_of R s, hs⟩
      · rw [if_neg hwritten]
        exact ⟨hs, refl_of R j.disk⟩

end Journal

end ArtistNode.Base
