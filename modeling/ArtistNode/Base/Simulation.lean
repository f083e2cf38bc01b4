import ArtistNode.Base.Pool
import Mathlib.Data.List.Forall2

/-!
# Pools in lockstep

Two processes are related when they perform related operations and, as long as related
calls are answered, stay related to their results. One pool simulates another when the
programs of its jobs are related to those of the other's and each atomic step on the shared
state has its match. Then every run of the second is matched by a run of the first, label
by label.
-/

namespace ArtistNode.Base

variable {Op Op' : Type} {Ans : Op → Type} {Ans' : Op' → Type} {α α' β β' : Type}

/-! ### Related processes -/

/-- The processes perform operations in `O`, end with results in `R`, and keep to this for
    any two answers with which their calls are in `M`. -/
def Related (O : Op → Op' → Prop) (M : Call Ans → Call Ans' → Prop) (R : α → α' → Prop) :
    Process Ans α → Process Ans' α' → Prop
  | .done a, .done a' => R a a'
  | .call op k, .call op' k' =>
    O op op' ∧ ∀ ans ans', M ⟨op, ans⟩ ⟨op', ans'⟩ → Related O M R (k ans) (k' ans')
  | .done _, .call _ _ => False
  | .call _ _, .done _ => False

section Related

variable {O : Op → Op' → Prop} {M : Call Ans → Call Ans' → Prop} {R : α → α' → Prop}

@[simp] theorem related_done {a : α} {a' : α'} :
    Related O M R (.done a) (.done a') ↔ R a a' := Iff.rfl

@[simp] theorem related_call {op : Op} {op' : Op'} {k : Ans op → Process Ans α}
    {k' : Ans' op' → Process Ans' α'} :
    Related O M R (.call op k) (.call op' k') ↔
      O op op' ∧ ∀ ans ans', M ⟨op, ans⟩ ⟨op', ans'⟩ → Related O M R (k ans) (k' ans') := Iff.rfl

/-- Sequencing: the continuations are compared at related results. -/
theorem Related.bind {R' : β → β' → Prop} {f : α → Process Ans β} {f' : α' → Process Ans' β'}
    {p : Process Ans α} (hf : ∀ a a', R a a' → Related O M R' (f a) (f' a')) :
    ∀ {p' : Process Ans' α'}, Related O M R p p' → Related O M R' (p >>= f) (p' >>= f') := by
  induction p with
  | done a =>
    intro p' hp
    cases p' with
    | done a' => exact hf a a' hp
    | call op' k' => exact hp.elim
  | call op k ih =>
    intro p' hp
    cases p' with
    | done a' => exact hp.elim
    | call op' k' => exact ⟨hp.1, fun ans ans' hans => ih ans (hp.2 ans ans' hans)⟩

end Related

/-- A process whose operations are matched by themselves, answer for answer, is related to
    itself. -/
theorem Guarded.related_self {O : Op → Op → Prop} {M : Call Ans → Call Ans → Prop}
    {R : α → α → Prop} {G : List (Call Ans) → Op → Prop} {Q : List (Call Ans) → α → Prop}
    (hop : ∀ h op, G h op → O op op)
    (hans : ∀ h op ans ans', G h op → M ⟨op, ans⟩ ⟨op, ans'⟩ → ans' = ans)
    (hresult : ∀ h a, Q h a → R a a) {p : Process Ans α} :
    ∀ {h : List (Call Ans)}, Guarded G Q h p → Related O M R p p := by
  induction p with
  | done a => exact fun {h} hp => hresult h a hp
  | call op k ih =>
    intro h hp
    refine ⟨hop h op hp.1, ?_⟩
    intro ans ans' hcall
    obtain rfl := hans h op ans ans' hp.1 hcall
    exact ih ans' (hp.2 ans')

/-! ### Lists in lockstep -/

section Lists

variable {A B C : Type} {R : A → B → Prop} {xs : List A} {ys : List B}

theorem exists_mem_of_forall₂ (h : List.Forall₂ R xs ys) {x : A} (hx : x ∈ xs) :
    ∃ y ∈ ys, R x y := by
  induction h with
  | nil => cases hx
  | cons hxy hrest ih =>
    rcases List.mem_cons.mp hx with rfl | hx
    · exact ⟨_, List.mem_cons_self, hxy⟩
    · obtain ⟨y, hy, hR⟩ := ih hx
      exact ⟨y, List.mem_cons_of_mem _ hy, hR⟩

/-- What is selected from the one is selected from the other. -/
theorem filterMap_of_forall₂ {f : A → Option C} {g : B → Option C} (h : List.Forall₂ R xs ys)
    (hfg : ∀ x ∈ xs, ∀ y, R x y → g y = f x) : ys.filterMap g = xs.filterMap f := by
  induction h with
  | nil => rfl
  | @cons x y xs ys hxy hrest ih =>
    have hhead : g y = f x := hfg x List.mem_cons_self y hxy
    have htail := ih fun x' hx' => hfg x' (List.mem_cons_of_mem _ hx')
    rw [List.filterMap_cons, List.filterMap_cons, hhead, htail]

end Lists

/-! ### Lockstep -/

variable {J J' σ σ' ε ε' : Type}

/-- What corresponds to what in two pools. -/
structure Correspondence (Ans : Op → Type) (Ans' : Op' → Type) (J J' α α' σ σ' ε ε' : Type) where
  op : Op → Op' → Prop
  call : Call Ans → Call Ans' → Prop
  job : J → J' → Prop
  result : α → α' → Prop
  event : ε → ε' → Prop
  shared : σ → σ' → Prop

variable (C : Correspondence Ans Ans' J J' α α' σ σ' ε ε')

/-- The labels of matching steps. -/
inductive Correspondence.Labels : Label Ans J α ε → Label Ans' J' α' ε' → Prop
  | start {id : Nat} {job : J} {job' : J'} (hjob : C.job job job') :
      Labels (.start id job) (.start id job')
  | call {id : Nat} {job : J} {job' : J'} {c : Call Ans} {c' : Call Ans'}
      (hjob : C.job job job') (hcall : C.call c c') : Labels (.call id job c) (.call id job' c')
  | answer {id : Nat} {job : J} {job' : J'} {a : α} {a' : α'} (hjob : C.job job job')
      (hresult : C.result a a') : Labels (.answer id job a) (.answer id job' a')
  | env {e : ε} {e' : ε'} (hevent : C.event e e') : Labels (.env e) (.env e')
  | restart : Labels .restart .restart

/-- The threads work on corresponding jobs, and what is left of them is related. -/
structure Correspondence.Threads (t : Thread Ans J α) (t' : Thread Ans' J' α') : Prop where
  job : C.job t.job t'.job
  rest : Related C.op C.call C.result t.rest t'.rest

structure Correspondence.Worlds (w : World Ans J α σ) (w' : World Ans' J' α' σ') : Prop where
  shared : C.shared w.shared w'.shared
  next : w'.next = w.next
  threads : ∀ id, Option.Rel C.Threads (w.threads id) (w'.threads id)

theorem Correspondence.Worlds.initial {s : σ} {s' : σ'} (h : C.shared s s') :
    C.Worlds (World.initial s) (World.initial s') :=
  ⟨h, rfl, fun _ => .none⟩

/-- Every step on the shared state that a run of `S` from `w₀` takes has its match in `S'`. -/
structure Simulates (S : System Ans J α σ ε) (S' : System Ans' J' α' σ' ε')
    (w₀ : World Ans J α σ) : Prop where
  job : ∀ job, ∃ job', C.job job job'
  program : ∀ {job job'}, C.job job job' →
    Related C.op C.call C.result (S.program job) (S'.program job')
  act : ∀ {τ w id job h op k ans s' t op'}, Run S w₀ τ w →
    w.threads id = some ⟨job, h, .call op k⟩ → S.act w.shared op ans s' →
    C.shared w.shared t → C.op op op' →
      ∃ ans' t', S'.act t op' ans' t' ∧ C.call ⟨op, ans⟩ ⟨op', ans'⟩ ∧ C.shared s' t'
  env : ∀ {s s' t e}, S.env s e s' → C.shared s t →
    ∃ e' t', S'.env t e' t' ∧ C.event e e' ∧ C.shared s' t'
  restart : ∀ {s s' t}, S.restart s s' → C.shared s t → ∃ t', S'.restart t t' ∧ C.shared s' t'

section Lockstep

variable {C} {S : System Ans J α σ ε} {S' : System Ans' J' α' σ' ε'}
variable {w₀ w w₁ : World Ans J α σ} {v₀ v : World Ans' J' α' σ'}
variable {τ : List (Label Ans J α ε)} {l : Label Ans J α ε}

theorem Correspondence.Worlds.thread {id : Nat} {t : Thread Ans J α} (h : C.Worlds w v)
    (hthread : w.threads id = some t) : ∃ t', v.threads id = some t' ∧ C.Threads t t' := by
  have hrel := h.threads id
  rw [hthread] at hrel
  cases hv : v.threads id with
  | none =>
    rw [hv] at hrel
    cases hrel
  | some t' =>
    rw [hv] at hrel
    cases hrel with
    | some hthreads => exact ⟨t', rfl, hthreads⟩

/-- One thread of each world moves on. -/
theorem Correspondence.Worlds.update {id : Nat} {t : Option (Thread Ans J α)}
    {t' : Option (Thread Ans' J' α')} (h : C.Worlds w v) (ht : Option.Rel C.Threads t t')
    (id' : Nat) : Option.Rel C.Threads (Function.update w.threads id t id')
      (Function.update v.threads id t' id') := by
  rw [Function.update_apply, Function.update_apply]
  split
  · exact ht
  · exact h.threads id'

/-- A step is matched by a step. -/
theorem Simulates.step (hsim : Simulates C S S' w₀) (hrun : Run S w₀ τ w) (h : C.Worlds w v)
    (hs : Step S w l w₁) : ∃ l' v₁, Step S' v l' v₁ ∧ C.Labels l l' ∧ C.Worlds w₁ v₁ := by
  cases hs with
  | start job =>
    obtain ⟨job', hjob⟩ := hsim.job job
    refine ⟨_, _, .start v job', ?_, h.shared, congrArg (· + 1) h.next, ?_⟩
    · rw [h.next]
      exact .start hjob
    · simp only [World.set, h.next]
      exact h.update (.some ⟨hjob, hsim.program hjob⟩)
  | @call id job hist op k ans s' hthread hact =>
    obtain ⟨⟨job', hist', rest'⟩, hthread', hjob, hrest⟩ := h.thread hthread
    cases rest' with
    | done a' => exact hrest.elim
    | call op' k' =>
      obtain ⟨ans', t', hact', hcall, hshared⟩ := hsim.act hrun hthread hact h.shared hrest.1
      exact ⟨_, _, .call hthread' hact', .call hjob hcall, hshared, h.next,
        h.update (.some ⟨hjob, hrest.2 ans ans' hcall⟩)⟩
  | @answer id job hist a hthread =>
    obtain ⟨⟨job', hist', rest'⟩, hthread', hjob, hrest⟩ := h.thread hthread
    cases rest' with
    | done a' =>
      exact ⟨_, _, .answer hthread', .answer hjob hrest, h.shared, h.next, h.update .none⟩
    | call op' k' => exact hrest.elim
  | env hact =>
    obtain ⟨e', t', hact', hevent, hshared⟩ := hsim.env hact h.shared
    exact ⟨_, _, .env hact', .env hevent, hshared, h.next, h.threads⟩
  | restart hact =>
    obtain ⟨t', hact', hshared⟩ := hsim.restart hact h.shared
    exact ⟨_, _, .restart hact', .restart, hshared, h.next, fun _ => .none⟩

/-- A run is matched by a run, label by label. -/
theorem Simulates.run (hsim : Simulates C S S' w₀) (hrun : Run S w₀ τ w) (h : C.Worlds w₀ v₀) :
    ∃ τ' v, Run S' v₀ τ' v ∧ List.Forall₂ C.Labels τ τ' ∧ C.Worlds w v := by
  refine Run.induct (I := fun τ w => ∃ τ' v, Run S' v₀ τ' v ∧ List.Forall₂ C.Labels τ τ' ∧
    C.Worlds w v) ⟨[], v₀, .refl, .nil, h⟩ (fun {τ w l w₁} hr ih hs => ?_) hrun
  obtain ⟨τ', v, hr', hlabels, hworlds⟩ := ih
  obtain ⟨l', v₁, hs', hlabel, hworlds₁⟩ := hsim.step hr hworlds hs
  exact ⟨τ' ++ [l'], v₁, hr'.snoc hs', List.rel_append hlabels (.cons hlabel .nil), hworlds₁⟩

end Lockstep

end ArtistNode.Base
