import ArtistNode.Base.Pool
import Mathlib.Data.Nat.Count

/-!
# Threads that might as well not have run

A call that cannot change the shared state only observes it. Threads that make no other
calls can be taken out of a run: what is left is a run, through the same shared states, of
the threads that were kept, which are numbered anew.
-/

namespace ArtistNode.Base

variable {Op : Type} {Ans : Op → Type} {J α σ ε : Type}

/-- Whatever it is asked of, the call leaves the shared state as it is. -/
def Observes (S : System Ans J α σ ε) (c : Call Ans) : Prop :=
  ∀ s s', S.act s c.1 c.2 s' → s' = s

section Erase

variable (kept : Nat → Prop) [DecidablePred kept]

/-- The label, if its thread is kept. Those threads are numbered in the order in which they
    start. -/
def Label.erase : Label Ans J α ε → Option (Label Ans J α ε)
  | .start id job => if kept id then some (.start (Nat.count kept id) job) else none
  | .call id job c => if kept id then some (.call (Nat.count kept id) job c) else none
  | .answer id job a => if kept id then some (.answer (Nat.count kept id) job a) else none
  | .env e => some (.env e)
  | .restart => some .restart

/-- The trace of the threads that are kept. -/
def erase (τ : List (Label Ans J α ε)) : List (Label Ans J α ε) := τ.filterMap (Label.erase kept)

theorem erase_concat (τ : List (Label Ans J α ε)) (l : Label Ans J α ε) :
    erase kept (τ ++ [l]) = erase kept τ ++ erase kept [l] := List.filterMap_append

/-- The second world is the first without the erased threads. -/
structure Erased (w v : World Ans J α σ) : Prop where
  shared : v.shared = w.shared
  next : v.next = Nat.count kept w.next
  threads : ∀ id, kept id → v.threads (Nat.count kept id) = w.threads id

end Erase

section Lockstep

variable {kept : Nat → Prop} [DecidablePred kept] {S : System Ans J α σ ε}
variable {w w' v : World Ans J α σ} {τ : List (Label Ans J α ε)} {l : Label Ans J α ε} {id : Nat}

theorem Erased.initial (s : σ) :
    Erased kept (World.initial s : World Ans J α σ) (World.initial s) :=
  ⟨rfl, (Nat.count_zero kept).symm, fun _ _ => rfl⟩

/-- A kept thread moves on in both worlds. -/
theorem Erased.update_kept (h : Erased kept w v) (hid : kept id) (t : Option (Thread Ans J α))
    {id' : Nat} (hid' : kept id') :
    Function.update v.threads (Nat.count kept id) t (Nat.count kept id') =
      Function.update w.threads id t id' := by
  by_cases heq : id' = id
  · subst heq
    rw [Function.update_self, Function.update_self]
  · have hne : Nat.count kept id' ≠ Nat.count kept id := by
      intro hcount
      exact heq (Nat.count_injective hid' hid hcount)
    rw [Function.update_of_ne hne, Function.update_of_ne heq]
    exact h.threads id' hid'

/-- An erased thread moves on in the first world only. -/
theorem Erased.update_gone (h : Erased kept w v) (hid : ¬ kept id) (t : Option (Thread Ans J α))
    {id' : Nat} (hid' : kept id') :
    v.threads (Nat.count kept id') = Function.update w.threads id t id' := by
  have hne : id' ≠ id := by
    rintro rfl
    exact hid hid'
  rw [Function.update_of_ne hne]
  exact h.threads id' hid'

/-- A step of a kept thread is taken in both worlds; that of an erased thread is not noticed
    in the second. -/
theorem Erased.step (h : Erased kept w v) (hs : Step S w l w')
    (hobserves : ∀ id job c, l = .call id job c → ¬ kept id → Observes S c) :
    ∃ v', Run S v (erase kept [l]) v' ∧ Erased kept w' v' := by
  have htaken : ∀ {l' v'}, l.erase kept = some l' → Step S v l' v' →
      Run S v (erase kept [l]) v' := by
    intro l' v' hl hs'
    unfold erase
    rw [List.filterMap_cons_some hl]
    exact Run.refl.snoc hs'
  have hskipped : l.erase kept = none → Run S v (erase kept [l]) v := by
    intro hl
    unfold erase
    rw [List.filterMap_cons_none hl]
    exact .refl
  cases hs with
  | start job =>
    by_cases hid : kept w.next
    · have hlabel : (.start w.next job : Label Ans J α ε).erase kept = some (.start v.next job) := by
        rw [h.next]
        exact if_pos hid
      refine ⟨_, htaken hlabel (.start v job), h.shared, ?_, fun id' hid' => ?_⟩
      · rw [Nat.count_succ, if_pos hid, ← h.next]
      · simp only [World.set, h.next]
        exact h.update_kept hid _ hid'
    · refine ⟨v, hskipped (if_neg hid), h.shared, ?_, fun id' hid' => ?_⟩
      · rw [Nat.count_succ, if_neg hid, ← h.next, Nat.add_zero]
      · exact h.update_gone hid _ hid'
  | @call id job hist op k ans s' thread act =>
    by_cases hid : kept id
    · have hthread := (h.threads id hid).trans thread
      rw [← h.shared] at act
      exact ⟨_, htaken (if_pos hid) (.call hthread act), rfl, h.next,
        fun id' hid' => h.update_kept hid _ hid'⟩
    · obtain rfl := hobserves id job _ rfl hid _ _ act
      exact ⟨v, hskipped (if_neg hid), h.shared, h.next, fun id' hid' => h.update_gone hid _ hid'⟩
  | @answer id job hist a thread =>
    by_cases hid : kept id
    · have hthread := (h.threads id hid).trans thread
      exact ⟨_, htaken (if_pos hid) (.answer hthread), h.shared, h.next,
        fun id' hid' => h.update_kept hid _ hid'⟩
    · exact ⟨v, hskipped (if_neg hid), h.shared, h.next, fun id' hid' => h.update_gone hid _ hid'⟩
  | env act =>
    rw [← h.shared] at act
    exact ⟨_, htaken rfl (.env act), rfl, h.next, h.threads⟩
  | restart act =>
    rw [← h.shared] at act
    exact ⟨_, htaken rfl (.restart act), rfl, h.next, fun _ _ => rfl⟩

/-- Threads that only observe can be erased from a run. -/
theorem Run.erase {s : σ} (h : Run S (World.initial s) τ w)
    (hobserves : ∀ id job c, .call id job c ∈ τ → ¬ kept id → Observes S c) :
    ∃ v, Run S (World.initial s) (erase kept τ) v ∧ Erased kept w v := by
  revert hobserves
  refine Run.induct (I := fun τ w =>
    (∀ id job c, .call id job c ∈ τ → ¬ kept id → Observes S c) →
      ∃ v, Run S (World.initial s) (Base.erase kept τ) v ∧ Erased kept w v)
    (fun _ => ⟨_, .refl, .initial s⟩) (fun {τ w l w'} _ ih hs hobserves => ?_) h
  obtain ⟨v, hrun, herased⟩ :=
    ih fun id job c hc => hobserves id job c (List.mem_append_left _ hc)
  obtain ⟨v', hrun', herased'⟩ := herased.step hs fun id job c hl =>
    hobserves id job c (hl ▸ List.mem_concat_self)
  rw [erase_concat]
  exact ⟨v', hrun.trans hrun', herased'⟩

/-- Every call of an answered thread belongs to the execution that gave the answer. -/
theorem Run.answered_history {s : σ} {job : J} {a : α} (h : Run S (World.initial s) τ w)
    (hanswer : .answer id job a ∈ τ) : ∃ hist, Reaches (S.program job) hist (.done a) ∧
      ∀ job' c, .call id job' c ∈ τ → c ∈ hist := by
  obtain ⟨τ₁, τ₂, w₁, w₂, rfl, hbefore, hs, hafter⟩ := h.split hanswer
  cases hs with
  | @answer _ _ hist _ thread =>
    refine ⟨hist, (hbefore.traced _ _ thread).reaches, ?_⟩
    intro job' c hc
    rcases List.mem_append.mp hc with hc | hc
    · have hearlier : .call id job' c ∈ τ₁ := by
        simpa using hc
      exact hbefore.history_complete _ _ thread job' c hearlier
    · -- an answered thread makes no calls
      obtain ⟨τ₃, τ₄, w₃, w₄, rfl, hmiddle, hcall, -⟩ := hafter.split hc
      have hrun := (hbefore.snoc (Step.answer thread)).trans hmiddle
      have hanswered : .answer id job a ∈ τ₁ ++ [.answer id job a] ++ τ₃ := by simp
      obtain ⟨hist', k, hthread⟩ := hcall.caller
      cases (hrun.answered_gone hanswered).1.symm.trans hthread

end Lockstep

end ArtistNode.Base
