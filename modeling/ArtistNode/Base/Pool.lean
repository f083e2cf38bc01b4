import ArtistNode.Base.Process
import Mathlib.Data.List.Pairwise
import Mathlib.Logic.Function.Basic

/-!
# Pools of concurrent processes over a shared state

Each thread of a pool runs the process of one job. A step of the pool starts a
job, performs the next operation of one thread atomically on the shared state,
delivers the result of a finished thread, lets the environment act, or restarts
the whole program, which kills every thread. A run carries the trace of its
labels, so that statements can speak about the past.
-/

namespace ArtistNode.Base

variable {Op : Type} {Ans : Op → Type} {J α σ ε : Type}

/-- What a pool runs: the process of each job, the atomic effect of each
    operation on the shared state, the environment's own steps, and what a
    restart leaves of the shared state. -/
structure System (Ans : Op → Type) (J α σ ε : Type) where
  program : J → Process Ans α
  act : σ → (op : Op) → Ans op → σ → Prop
  env : σ → ε → σ → Prop
  restart : σ → σ → Prop

/-- One running job: the calls it has made and what is left to run. -/
structure Thread (Ans : Op → Type) (J α : Type) where
  job : J
  history : List (Call Ans)
  rest : Process Ans α

/-- Threads are named by numbers, which are never used twice. -/
structure World (Ans : Op → Type) (J α σ : Type) where
  shared : σ
  threads : Nat → Option (Thread Ans J α)
  next : Nat

def World.initial (s : σ) : World Ans J α σ := ⟨s, fun _ => none, 0⟩

def World.set (w : World Ans J α σ) (id : Nat) (t : Option (Thread Ans J α)) :
    World Ans J α σ :=
  { w with threads := Function.update w.threads id t }

@[simp] theorem World.set_shared (w : World Ans J α σ) (id : Nat)
    (t : Option (Thread Ans J α)) : (w.set id t).shared = w.shared := rfl

@[simp] theorem World.set_next (w : World Ans J α σ) (id : Nat)
    (t : Option (Thread Ans J α)) : (w.set id t).next = w.next := rfl

inductive Label (Ans : Op → Type) (J α ε : Type) where
  | start (id : Nat) (job : J)
  | call (id : Nat) (job : J) (c : Call Ans)
  | answer (id : Nat) (job : J) (result : α)
  | env (e : ε)
  | restart

inductive Step (S : System Ans J α σ ε) :
    World Ans J α σ → Label Ans J α ε → World Ans J α σ → Prop where
  | start (w : World Ans J α σ) (job : J) :
      Step S w (.start w.next job)
        { w.set w.next (some ⟨job, [], S.program job⟩) with next := w.next + 1 }
  | call {w : World Ans J α σ} {id : Nat} {job : J} {h : List (Call Ans)} {op : Op}
      {k : Ans op → Process Ans α} {ans : Ans op} {s' : σ}
      (thread : w.threads id = some ⟨job, h, .call op k⟩) (act : S.act w.shared op ans s') :
      Step S w (.call id job ⟨op, ans⟩)
        { w.set id (some ⟨job, h ++ [⟨op, ans⟩], k ans⟩) with shared := s' }
  | answer {w : World Ans J α σ} {id : Nat} {job : J} {h : List (Call Ans)} {a : α}
      (thread : w.threads id = some ⟨job, h, .done a⟩) :
      Step S w (.answer id job a) (w.set id none)
  | env {w : World Ans J α σ} {e : ε} {s' : σ} (act : S.env w.shared e s') :
      Step S w (.env e) { w with shared := s' }
  | restart {w : World Ans J α σ} {s' : σ} (act : S.restart w.shared s') :
      Step S w .restart { w with shared := s', threads := fun _ => none }

inductive Run (S : System Ans J α σ ε) (w₀ : World Ans J α σ) :
    List (Label Ans J α ε) → World Ans J α σ → Prop where
  | refl : Run S w₀ [] w₀
  | snoc {τ : List (Label Ans J α ε)} {w w' : World Ans J α σ} {l : Label Ans J α ε} :
      Run S w₀ τ w → Step S w l w' → Run S w₀ (τ ++ [l]) w'

section Run

variable {S : System Ans J α σ ε} {w₀ w w' : World Ans J α σ}
variable {τ τ' : List (Label Ans J α ε)} {l : Label Ans J α ε}

theorem Run.trans (h : Run S w₀ τ w) (h' : Run S w τ' w') : Run S w₀ (τ ++ τ') w' := by
  induction h' with
  | refl => simpa using h
  | snoc _ hs ih => rw [← List.append_assoc]; exact ih.snoc hs

/-- Invariants of runs that may speak about the trace. -/
theorem Run.induct {I : List (Label Ans J α ε) → World Ans J α σ → Prop} (init : I [] w₀)
    (step : ∀ {τ w l w'}, Run S w₀ τ w → I τ w → Step S w l w' → I (τ ++ [l]) w')
    (h : Run S w₀ τ w) : I τ w := by
  induction h with
  | refl => exact init
  | snoc hr hs ih => exact step hr ih hs

/-! ### What is known about a thread -/

/-- The state of a thread agrees with the trace: its history is an execution of
    its job's program, and each call of it is in the trace. -/
structure Thread.Traced (S : System Ans J α σ ε) (τ : List (Label Ans J α ε)) (id : Nat)
    (t : Thread Ans J α) : Prop where
  started : .start id t.job ∈ τ
  reaches : Reaches (S.program t.job) t.history t.rest
  called : ∀ c ∈ t.history, .call id t.job c ∈ τ

theorem Thread.Traced.extend {id : Nat} {t : Thread Ans J α} (h : t.Traced S τ id)
    (l : Label Ans J α ε) : t.Traced S (τ ++ [l]) id :=
  ⟨List.mem_append_left _ h.started, h.reaches,
    fun c hc => List.mem_append_left _ (h.called c hc)⟩

theorem World.set_threads_cases {id id' : Nat} {t : Thread Ans J α}
    {u : Option (Thread Ans J α)} (h : (w.set id u).threads id' = some t) :
    (id' = id ∧ u = some t) ∨ (id' ≠ id ∧ w.threads id' = some t) := by
  by_cases hid : id' = id
  · subst hid
    exact Or.inl ⟨rfl, by simpa [World.set] using h⟩
  · exact Or.inr ⟨hid, by simpa [World.set, Function.update_of_ne hid] using h⟩

theorem Run.traced {s : σ} (h : Run S (World.initial s) τ w) :
    ∀ id t, w.threads id = some t → t.Traced S τ id := by
  refine Run.induct (I := fun τ w => ∀ id t, w.threads id = some t → t.Traced S τ id)
    (fun id t ht => ?_) (fun {τ w l w'} _ ih hs id t ht => ?_) h
  · simp [World.initial] at ht
  · cases hs with
    | start job =>
      rcases World.set_threads_cases ht with ⟨rfl, hu⟩ | ⟨-, hold⟩
      · obtain rfl := Option.some.inj hu
        exact ⟨by simp, .refl, by intro c hc; cases hc⟩
      · exact (ih id t hold).extend _
    | @call id' job hist op k ans s' thread act =>
      rcases World.set_threads_cases ht with ⟨rfl, hu⟩ | ⟨-, hold⟩
      · obtain rfl := Option.some.inj hu
        have hprev := ih id _ thread
        refine ⟨List.mem_append_left _ hprev.started, hprev.reaches.step ans, ?_⟩
        intro c hc
        rcases List.mem_append.mp hc with hc | hc
        · exact List.mem_append_left _ (hprev.called c hc)
        · simp only [List.mem_singleton] at hc
          subst hc
          simp
      · exact (ih id t hold).extend _
    | answer thread =>
      rcases World.set_threads_cases ht with ⟨-, hu⟩ | ⟨-, hold⟩
      · cases hu
      · exact (ih id t hold).extend _
    | env act => exact (ih id t ht).extend _
    | restart act => cases ht

/-- An answered job ran to its end, and each of its calls is in the trace. -/
theorem Run.answered {s : σ} (h : Run S (World.initial s) τ w) :
    ∀ id job a, .answer id job a ∈ τ →
      ∃ hist, Thread.Traced S τ id ⟨job, hist, .done a⟩ := by
  refine Run.induct (I := fun τ _ => ∀ id job a, .answer id job a ∈ τ →
      ∃ hist, Thread.Traced S τ id ⟨job, hist, .done a⟩)
    (fun id job a ha => by cases ha) (fun {τ w l w'} hr ih hs id job a ha => ?_) h
  rcases List.mem_append.mp ha with ha | ha
  · obtain ⟨hist, ht⟩ := ih id job a ha
    exact ⟨hist, ht.extend _⟩
  · simp only [List.mem_singleton] at ha
    subst ha
    cases hs with
    | answer thread => exact ⟨_, (hr.traced _ _ thread).extend _⟩

/-- A call in the trace was made by an execution of its job, all of whose calls are in
    the trace. -/
theorem Run.called {s : σ} (h : Run S (World.initial s) τ w) :
    ∀ {id job c}, .call id job c ∈ τ →
      ∃ hist k, Reaches (S.program job) hist (.call c.1 k) ∧
        ∀ c' ∈ hist, .call id job c' ∈ τ := by
  refine Run.induct (I := fun τ _ => ∀ {id job c}, .call id job c ∈ τ →
      ∃ hist k, Reaches (S.program job) hist (.call c.1 k) ∧ ∀ c' ∈ hist, .call id job c' ∈ τ)
    (fun hc => by cases hc) (fun {τ w l w'} hr ih hs id job c hc => ?_) h
  rcases List.mem_append.mp hc with hc | hc
  · obtain ⟨hist, k, hreaches, hcalled⟩ := ih hc
    exact ⟨hist, k, hreaches, fun c' hc' => List.mem_append_left _ (hcalled c' hc')⟩
  · simp only [List.mem_singleton] at hc
    subst hc
    cases hs with
    | call thread act =>
      have htraced := hr.traced _ _ thread
      exact ⟨_, _, htraced.reaches,
        fun c' hc' => List.mem_append_left _ (htraced.called c' hc')⟩

/-- If every program is guarded, each call in the trace was made at a history that
    justifies it, and that history is in the trace. -/
theorem Run.justified_call {s : σ} {G : J → List (Call Ans) → Op → Prop}
    {Q : J → List (Call Ans) → α → Prop}
    (hG : ∀ job, Guarded (G job) (Q job) [] (S.program job))
    (h : Run S (World.initial s) τ w) {id : Nat} {job : J} {c : Call Ans}
    (hc : .call id job c ∈ τ) :
    ∃ hist, G job hist c.1 ∧ ∀ c' ∈ hist, .call id job c' ∈ τ := by
  obtain ⟨hist, k, hreaches, hcalled⟩ := h.called hc
  exact ⟨hist, (hG job).pending hreaches, hcalled⟩

/-- A thread that makes a call was working on the job of the label. -/
theorem Step.caller {id : Nat} {job : J} {c : Call Ans} (h : Step S w (.call id job c) w') :
    ∃ hist k, w.threads id = some ⟨job, hist, .call c.1 k⟩ := by
  cases h with
  | call thread act => exact ⟨_, _, thread⟩

/-- What a step did to a thread that lives after it: nothing, or it started the thread, or it
    performed the thread's next operation. -/
theorem Step.thread_cases {id : Nat} {t : Thread Ans J α} (h : Step S w l w')
    (ht : w'.threads id = some t) :
    w.threads id = some t ∨ (l = .start id t.job ∧ t.history = []) ∨
      ∃ hist op k ans, l = .call id t.job ⟨op, ans⟩ ∧ t = ⟨t.job, hist ++ [⟨op, ans⟩], k ans⟩ ∧
        w.threads id = some ⟨t.job, hist, .call op k⟩ ∧ S.act w.shared op ans w'.shared := by
  cases h with
  | start job =>
    rcases World.set_threads_cases ht with ⟨rfl, hu⟩ | ⟨-, hold⟩
    · obtain rfl := Option.some.inj hu
      exact Or.inr (Or.inl ⟨rfl, rfl⟩)
    · exact Or.inl hold
  | @call id' job hist op k ans s' thread act =>
    rcases World.set_threads_cases ht with ⟨rfl, hu⟩ | ⟨-, hold⟩
    · obtain rfl := Option.some.inj hu
      exact Or.inr (Or.inr ⟨hist, op, k, ans, rfl, rfl, thread, act⟩)
    · exact Or.inl hold
  | answer thread =>
    rcases World.set_threads_cases ht with ⟨-, hu⟩ | ⟨-, hold⟩
    · cases hu
    · exact Or.inl hold
  | env act => exact Or.inl ht
  | restart act => cases ht

/-! ### Jobs started later -/

theorem Step.next_le (h : Step S w l w') : w.next ≤ w'.next := by
  cases h <;> simp

theorem Run.next_le (h : Run S w₀ τ w) : w₀.next ≤ w.next := by
  induction h with
  | refl => exact Nat.le_refl _
  | snoc _ hs ih => exact Nat.le_trans ih hs.next_le

/-- Calls are made by threads that were started before. -/
theorem Run.call_lt {s : σ} (h : Run S (World.initial s) τ w) :
    (∀ id t, w.threads id = some t → id < w.next) ∧
      ∀ id job c, .call id job c ∈ τ → id < w.next := by
  refine Run.induct (I := fun τ w => (∀ id t, w.threads id = some t → id < w.next) ∧
    ∀ id job c, .call id job c ∈ τ → id < w.next) ⟨?_, ?_⟩ (fun {τ w l w'} hr ih hs => ?_) h
  · intro id t ht
    simp [World.initial] at ht
  · intro id job c hc
    cases hc
  · obtain ⟨hthreads, hcalls⟩ := ih
    have hle := hs.next_le
    cases hs with
    | start job =>
      constructor
      · intro id t ht
        rcases World.set_threads_cases ht with ⟨rfl, -⟩ | ⟨-, hold⟩
        · exact Nat.lt_succ_self _
        · exact Nat.lt_succ_of_lt (hthreads id t hold)
      · intro id job' c hc
        simp only [List.mem_append, List.mem_singleton, reduceCtorEq, or_false] at hc
        exact Nat.lt_succ_of_lt (hcalls id job' c hc)
    | @call id' job' hist op k ans s' thread act =>
      have hid := hthreads id' _ thread
      constructor
      · intro id t ht
        rcases World.set_threads_cases ht with ⟨rfl, -⟩ | ⟨-, hold⟩
        · exact hid
        · exact hthreads id t hold
      · intro id job c hc
        rcases List.mem_append.mp hc with hc | hc
        · exact hcalls id job c hc
        · simp only [List.mem_singleton, Label.call.injEq] at hc
          rw [hc.1]
          exact hid
    | answer thread =>
      constructor
      · intro id t ht
        rcases World.set_threads_cases ht with ⟨-, hu⟩ | ⟨-, hold⟩
        · cases hu
        · exact hthreads id t hold
      · intro id job' c hc
        simp only [List.mem_append, List.mem_singleton, reduceCtorEq, or_false] at hc
        exact hcalls id job' c hc
    | env act =>
      refine ⟨hthreads, ?_⟩
      intro id job' c hc
      simp only [List.mem_append, List.mem_singleton, reduceCtorEq, or_false] at hc
      exact hcalls id job' c hc
    | restart act =>
      refine ⟨fun id t ht => (by cases ht), ?_⟩
      intro id job' c hc
      simp only [List.mem_append, List.mem_singleton, reduceCtorEq, or_false] at hc
      exact hcalls id job' c hc

/-- The history of a live thread holds every call it has made. -/
theorem Run.history_complete {s : σ} (h : Run S (World.initial s) τ w) :
    ∀ id t, w.threads id = some t → ∀ job c, .call id job c ∈ τ → c ∈ t.history := by
  refine Run.induct (I := fun τ w => ∀ id t, w.threads id = some t →
    ∀ job c, .call id job c ∈ τ → c ∈ t.history) ?_ (fun {τ w l w'} hr ih hs => ?_) h
  · intro id t ht
    simp [World.initial] at ht
  · intro id t ht job c hc
    cases hs with
    | start job' =>
      simp only [List.mem_append, List.mem_singleton, reduceCtorEq, or_false] at hc
      rcases World.set_threads_cases ht with ⟨rfl, -⟩ | ⟨-, hold⟩
      · -- a new number has no calls yet
        exact absurd (hr.call_lt.2 _ job c hc) (Nat.lt_irrefl _)
      · exact ih id t hold job c hc
    | @call id' job' hist op k ans s' thread act =>
      rcases World.set_threads_cases ht with ⟨rfl, hu⟩ | ⟨hne, hold⟩
      · obtain rfl := Option.some.inj hu
        rcases List.mem_append.mp hc with hc | hc
        · exact List.mem_append_left _ (ih _ _ thread job c hc)
        · simp only [List.mem_singleton, Label.call.injEq] at hc
          rw [hc.2.2]
          exact List.mem_concat_self
      · rcases List.mem_append.mp hc with hc | hc
        · exact ih id t hold job c hc
        · simp only [List.mem_singleton, Label.call.injEq] at hc
          exact absurd hc.1 hne
    | answer thread =>
      simp only [List.mem_append, List.mem_singleton, reduceCtorEq, or_false] at hc
      rcases World.set_threads_cases ht with ⟨-, hu⟩ | ⟨-, hold⟩
      · cases hu
      · exact ih id t hold job c hc
    | env act =>
      simp only [List.mem_append, List.mem_singleton, reduceCtorEq, or_false] at hc
      exact ih id t ht job c hc
    | restart act => cases ht

/-- Calls are made by jobs that were started before. -/
theorem Run.called_started {s : σ} (h : Run S (World.initial s) τ w) {id : Nat} {job : J}
    {c : Call Ans} (hc : .call id job c ∈ τ) : .start id job ∈ τ := by
  revert id job c
  refine Run.induct (I := fun τ _ => ∀ {id job c}, .call id job c ∈ τ → .start id job ∈ τ)
    (fun hc => by cases hc) (fun {τ w l w'} hr ih hs id job c hc => ?_) h
  rcases List.mem_append.mp hc with hc | hc
  · exact List.mem_append_left _ (ih hc)
  · simp only [List.mem_singleton] at hc
    subst hc
    cases hs with
    | call thread act => exact List.mem_append_left _ (hr.traced _ _ thread).started

/-- An answered thread is gone for good. -/
theorem Run.answered_gone {s : σ} (h : Run S (World.initial s) τ w) {id : Nat} {job : J} {a : α}
    (ha : .answer id job a ∈ τ) : w.threads id = none ∧ id < w.next := by
  revert id job a
  refine Run.induct (I := fun τ w => ∀ {id job a}, .answer id job a ∈ τ →
    w.threads id = none ∧ id < w.next) (fun ha => by cases ha)
    (fun {τ w l w'} hr ih hs id job a ha => ?_) h
  rcases List.mem_append.mp ha with ha | ha
  · obtain ⟨hnone, hlt⟩ := ih ha
    refine ⟨?_, Nat.lt_of_lt_of_le hlt hs.next_le⟩
    rcases hthread : w'.threads id with _ | t
    · rfl
    · exfalso
      rcases hs.thread_cases hthread with hold | ⟨rfl, -⟩ | ⟨hist, op, k, ans, -, -, hold, -⟩
      · cases hnone.symm.trans hold
      · cases hs with
        | start job' => exact Nat.lt_irrefl _ hlt
      · cases hnone.symm.trans hold
  · simp only [List.mem_singleton] at ha
    subst ha
    cases hs with
    | answer thread => exact ⟨Function.update_self _ _ _, hr.call_lt.1 _ _ thread⟩

/-! ### Operations called at most once -/

/-- The threads that called an operation of some kind, once for each such call. -/
def callers (f : Op → Bool) (τ : List (Label Ans J α ε)) : List Nat :=
  τ.filterMap fun l => match l with
    | .call id _ c => if f c.1 then some id else none
    | _ => none

theorem mem_callers {f : Op → Bool} {id : Nat} :
    id ∈ callers f τ ↔ ∃ job c, .call id job c ∈ τ ∧ f c.1 = true := by
  simp only [callers, List.mem_filterMap]
  constructor
  · rintro ⟨l, hl, hid⟩
    cases l with
    | call id' job c =>
      simp only [Option.ite_none_right_eq_some, Option.some.injEq] at hid
      obtain ⟨hf, rfl⟩ := hid
      exact ⟨job, c, hl, hf⟩
    | _ => cases hid
  · rintro ⟨job, c, hc, hf⟩
    exact ⟨_, hc, by simp [hf]⟩

/-- If no program calls operations of a kind more than once, no thread does. -/
theorem Run.callers_nodup {s : σ} {f : Op → Bool}
    (honce : ∀ {job hist op k}, Reaches (S.program job) hist (.call op k) → f op = true →
      ∀ c ∈ hist, f c.1 = false)
    (h : Run S (World.initial s) τ w) : (callers f τ).Nodup := by
  refine Run.induct (I := fun τ _ => (callers f τ).Nodup) List.nodup_nil
    (fun {τ w l w'} hr ih hs => ?_) h
  have hother : (callers f [l]) = [] → (callers f (τ ++ [l])).Nodup := by
    intro hl
    have happend : callers f (τ ++ [l]) = callers f τ ++ callers f [l] := List.filterMap_append
    rw [happend, hl, List.append_nil]
    exact ih
  cases hs with
  | @call id job hist op k ans s' thread act =>
    by_cases hf : f op = true
    · have happend : callers f (τ ++ [.call id job ⟨op, ans⟩]) = callers f τ ++ [id] := by
        simp [callers, hf]
      rw [happend]
      refine List.nodup_append.mpr ⟨ih, List.pairwise_singleton _ _, ?_⟩
      rintro id' hmem id'' hid rfl
      obtain rfl := List.mem_singleton.mp hid
      -- an earlier call of the kind would be in the thread's history
      obtain ⟨job', c, hc, hfc⟩ := mem_callers.mp hmem
      have hhist := hr.history_complete _ _ thread _ _ hc
      have hnone := honce (hr.traced _ _ thread).reaches hf c hhist
      rw [hfc] at hnone
      cases hnone
    · exact hother (by simp [callers, hf])
  | start job => exact hother rfl
  | answer thread => exact hother rfl
  | env act => exact hother rfl
  | restart act => exact hother rfl

/-- A run through a label passes the step with that label. -/
theorem Run.split (h : Run S w₀ τ w) (hl : l ∈ τ) :
    ∃ τ₁ τ₂ w₁ w₂, τ = τ₁ ++ [l] ++ τ₂ ∧ Run S w₀ τ₁ w₁ ∧ Step S w₁ l w₂ ∧ Run S w₂ τ₂ w := by
  induction h with
  | refl => cases hl
  | @snoc τ w w' l' hr hs ih =>
    rcases List.mem_append.mp hl with hl | hl
    · obtain ⟨τ₁, τ₂, w₁, w₂, rfl, hr₁, hstep, hr₂⟩ := ih hl
      exact ⟨τ₁, τ₂ ++ [l'], w₁, w₂, by simp, hr₁, hstep, hr₂.snoc hs⟩
    · obtain rfl := List.mem_singleton.mp hl
      exact ⟨τ, [], w, w', by simp, hr, hs, .refl⟩

/-- A job that was started and answered in the rest of a run made all its calls
    there. -/
theorem Run.served_later {s : σ} {id : Nat} {job : J} {a : α} (h : Run S (World.initial s) τ w)
    (h' : Run S w τ' w') (hid : w.next ≤ id) (hanswer : .answer id job a ∈ τ') :
    ∃ hist, Reaches (S.program job) hist (.done a) ∧ ∀ c ∈ hist, .call id job c ∈ τ' := by
  obtain ⟨hist, -, hreaches, hcalled⟩ :=
    (h.trans h').answered id job a (List.mem_append_right _ hanswer)
  refine ⟨hist, hreaches, ?_⟩
  intro c hc
  rcases List.mem_append.mp (hcalled c hc) with hmem | hmem
  · exact absurd (h.call_lt.2 id job c hmem) (Nat.not_lt.mpr hid)
  · exact hmem

/-- Where the values that labels carry do not repeat, a value names its label. -/
theorem eq_of_nodup_filterMap {β γ : Type} {f : β → Option γ} {l : List β} {a b : β} {v : γ}
    (h : (l.filterMap f).Nodup) (ha : a ∈ l) (hb : b ∈ l) (hfa : f a = some v)
    (hfb : f b = some v) : a = b := by
  by_contra hne
  have hpair : l.Pairwise fun x y => ∀ u, f x = some u → ∀ u', f y = some u' → u ≠ u' :=
    List.pairwise_filterMap.mp h
  have hsymm : Std.Symm fun x y => ∀ u, f x = some u → ∀ u', f y = some u' → u ≠ u' :=
    ⟨fun x y hxy u hu u' hu' heq => hxy u' hu' u hu heq.symm⟩
  exact hpair.forall ha hb hne v hfa v hfb rfl

/-! ### Jobs that run undisturbed -/

/-- `Performs S s calls s'`: the calls, with these answers and no other step in
    between, take the state from `s` to `s'`. -/
def Performs (S : System Ans J α σ ε) : σ → List (Call Ans) → σ → Prop
  | s, [], s' => s' = s
  | s, c :: calls, s' => ∃ s₁, S.act s c.1 c.2 s₁ ∧ Performs S s₁ calls s'

theorem performs_append {calls calls' : List (Call Ans)} {s s' : σ} :
    Performs S s (calls ++ calls') s' ↔
      ∃ s₁, Performs S s calls s₁ ∧ Performs S s₁ calls' s' := by
  induction calls generalizing s with
  | nil => simp [Performs]
  | cons c calls ih =>
    simp only [List.cons_append, Performs, ih]
    constructor
    · rintro ⟨s₁, act, s₂, hcalls, hrest⟩
      exact ⟨s₂, ⟨s₁, act, hcalls⟩, hrest⟩
    · rintro ⟨s₂, ⟨s₁, act, hcalls⟩, hrest⟩
      exact ⟨s₁, act, s₂, hcalls, hrest⟩

theorem Performs.of_concat {c : Call Ans} {calls : List (Call Ans)} {s s' : σ}
    (h : Performs S s (calls ++ [c]) s') :
    ∃ s₁, Performs S s calls s₁ ∧ S.act s₁ c.1 c.2 s' := by
  obtain ⟨s₁, hcalls, s₂, act, rfl⟩ := performs_append.mp h
  exact ⟨s₁, hcalls, act⟩

/-- The labels of one job that runs undisturbed. -/
def served (id : Nat) (job : J) (hist : List (Call Ans)) (a : α) : List (Label Ans J α ε) :=
  (.start id job :: hist.map (.call id job)) ++ [.answer id job a]

/-- A job can start at any time; the other threads wait. -/
theorem Run.begin (hr : Run S w₀ τ w) (job : J) :
    ∃ w', Run S w₀ (τ ++ [.start w.next job]) w' ∧ w'.shared = w.shared ∧
      w'.next = w.next + 1 ∧ w'.threads w.next = some ⟨job, [], S.program job⟩ ∧
      ∀ id, id ≠ w.next → w'.threads id = w.threads id :=
  ⟨_, hr.snoc (Step.start w job), rfl, rfl, Function.update_self _ _ _,
    fun _ hid => Function.update_of_ne hid _ _⟩

/-- A finished job can answer at any time; the other threads wait. -/
theorem Run.finish {id : Nat} {job : J} {h : List (Call Ans)} {a : α} (hr : Run S w₀ τ w)
    (hthread : w.threads id = some ⟨job, h, .done a⟩) :
    ∃ w', Run S w₀ (τ ++ [.answer id job a]) w' ∧ w'.shared = w.shared ∧ w'.next = w.next ∧
      w'.threads id = none ∧ ∀ id', id' ≠ id → w'.threads id' = w.threads id' :=
  ⟨_, hr.snoc (Step.answer hthread), rfl, rfl, Function.update_self _ _ _,
    fun _ hid => Function.update_of_ne hid _ _⟩

/-- A job can run undisturbed from its start to any point it can reach. -/
theorem Run.perform {job : J} {hist : List (Call Ans)} {q : Process Ans α} (hr : Run S w₀ τ w)
    (h : Reaches (S.program job) hist q) :
    ∀ {s'}, Performs S w.shared hist s' →
      ∃ w', Run S w₀ (τ ++ (.start w.next job :: hist.map (.call w.next job))) w' ∧
        w'.shared = s' ∧ w'.next = w.next + 1 ∧ w'.threads w.next = some ⟨job, hist, q⟩ := by
  induction h with
  | refl =>
    rintro s' rfl
    exact ⟨_, hr.snoc (Step.start w job), rfl, rfl, Function.update_self _ _ _⟩
  | @step h op k ans hreach ih =>
    intro s' hcalls
    obtain ⟨s₁, hcalls, act⟩ := hcalls.of_concat
    obtain ⟨w₁, hrun, rfl, hnext, hthread⟩ := ih hcalls
    have hlast := hrun.snoc (Step.call hthread act)
    rw [List.append_assoc, List.cons_append] at hlast
    rw [List.map_append]
    exact ⟨_, hlast, rfl, hnext, Function.update_self _ _ _⟩

/-- A job that is running can go on undisturbed; the other threads wait. -/
theorem Run.advance {id : Nat} {job : J} {h hist : List (Call Ans)} {p q : Process Ans α}
    (hr : Run S w₀ τ w) (hthread : w.threads id = some ⟨job, h, p⟩) (hp : Reaches p hist q) :
    ∀ {s'}, Performs S w.shared hist s' →
      ∃ w', Run S w₀ (τ ++ hist.map (.call id job)) w' ∧ w'.shared = s' ∧ w'.next = w.next ∧
        w'.threads id = some ⟨job, h ++ hist, q⟩ ∧
        ∀ id', id' ≠ id → w'.threads id' = w.threads id' := by
  induction hp with
  | refl =>
    rintro s' rfl
    refine ⟨w, by simpa using hr, rfl, rfl, by simpa using hthread, fun _ _ => rfl⟩
  | @step hist op k ans hreach ih =>
    intro s' hcalls
    obtain ⟨s₁, hcalls, act⟩ := hcalls.of_concat
    obtain ⟨w₁, hrun, rfl, hnext, hthread₁, hothers⟩ := ih hcalls
    have hlast := hrun.snoc (Step.call hthread₁ act)
    rw [List.append_assoc] at hlast
    rw [List.map_append, ← List.append_assoc h]
    refine ⟨_, hlast, rfl, hnext, Function.update_self _ _ _, ?_⟩
    intro id' hid'
    exact (Function.update_of_ne hid' _ _).trans (hothers id' hid')

/-- And from there to its answer. -/
theorem Run.serve {job : J} {hist : List (Call Ans)} {s' : σ} {a : α} (hr : Run S w₀ τ w)
    (h : Reaches (S.program job) hist (.done a)) (hcalls : Performs S w.shared hist s') :
    ∃ w', Run S w₀ (τ ++ served w.next job hist a) w' ∧ w'.shared = s' ∧
      w'.next = w.next + 1 := by
  obtain ⟨w₁, hrun, hshared, hnext, hthread⟩ := hr.perform h hcalls
  have hlast := hrun.snoc (Step.answer hthread)
  rw [List.append_assoc] at hlast
  exact ⟨_, hlast, hshared, hnext⟩

/-! ### Runs under a condition -/

/-- A run each of whose steps meets a condition on the world before it and its label. -/
inductive RunWith (S : System Ans J α σ ε)
    (C : World Ans J α σ → Label Ans J α ε → Prop) (w₀ : World Ans J α σ) :
    List (Label Ans J α ε) → World Ans J α σ → Prop where
  | refl : RunWith S C w₀ [] w₀
  | snoc {τ : List (Label Ans J α ε)} {w w' : World Ans J α σ} {l : Label Ans J α ε} :
      RunWith S C w₀ τ w → C w l → Step S w l w' → RunWith S C w₀ (τ ++ [l]) w'

theorem RunWith.run {C : World Ans J α σ → Label Ans J α ε → Prop} (h : RunWith S C w₀ τ w) :
    Run S w₀ τ w := by
  induction h with
  | refl => exact .refl
  | snoc _ _ hs ih => exact ih.snoc hs

theorem RunWith.trans {C : World Ans J α σ → Label Ans J α ε → Prop} (h : RunWith S C w₀ τ w)
    (h' : RunWith S C w τ' w') : RunWith S C w₀ (τ ++ τ') w' := by
  induction h' with
  | refl => simpa using h
  | snoc _ hc hs ih =>
    rw [← List.append_assoc]
    exact ih.snoc hc hs

theorem RunWith.mono {C C' : World Ans J α σ → Label Ans J α ε → Prop}
    (hC : ∀ w l, C w l → C' w l) (h : RunWith S C w₀ τ w) : RunWith S C' w₀ τ w := by
  induction h with
  | refl => exact .refl
  | snoc _ hc hs ih => exact ih.snoc (hC _ _ hc) hs

/-- A run meets a condition that each of its steps meets. -/
theorem RunWith.of_run {C : World Ans J α σ → Label Ans J α ε → Prop} (h : Run S w₀ τ w)
    (hall : ∀ {τ' l w w'}, Run S w₀ τ' w → Step S w l w' → τ' ++ [l] <+: τ → C w l) :
    RunWith S C w₀ τ w := by
  induction h with
  | refl => exact .refl
  | @snoc τ w w' l hr hs ih =>
    have hlast : C w l := hall hr hs (List.prefix_refl _)
    exact (ih fun hr' hs' hpre => hall hr' hs' (hpre.trans (List.prefix_append _ _))).snoc hlast hs

/-- A thread makes its next call where the condition allows it; the other threads wait. -/
theorem RunWith.call {C : World Ans J α σ → Label Ans J α ε → Prop} (h : RunWith S C w₀ τ w)
    {id : Nat} {job : J} {hist : List (Call Ans)} {op : Op} {k : Ans op → Process Ans α}
    {ans : Ans op} {s' : σ} (hthread : w.threads id = some ⟨job, hist, .call op k⟩)
    (hc : C w (.call id job ⟨op, ans⟩)) (act : S.act w.shared op ans s') :
    ∃ w', RunWith S C w₀ (τ ++ [.call id job ⟨op, ans⟩]) w' ∧ w'.shared = s' ∧ w'.next = w.next ∧
      w'.threads id = some ⟨job, hist ++ [⟨op, ans⟩], k ans⟩ ∧
      ∀ id', id' ≠ id → w'.threads id' = w.threads id' :=
  ⟨_, h.snoc hc (Step.call hthread act), rfl, rfl, Function.update_self _ _ _,
    fun _ hid => Function.update_of_ne hid _ _⟩

/-- Invariants of runs under a condition. -/
theorem RunWith.induct {C : World Ans J α σ → Label Ans J α ε → Prop}
    {I : List (Label Ans J α ε) → World Ans J α σ → Prop} (init : I [] w₀)
    (step : ∀ {τ w l w'}, Run S w₀ τ w → I τ w → C w l → Step S w l w' → I (τ ++ [l]) w')
    (h : RunWith S C w₀ τ w) : I τ w := by
  induction h with
  | refl => exact init
  | snoc hr hc hs ih => exact step hr.run ih hc hs

end Run

end ArtistNode.Base
