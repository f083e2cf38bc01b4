import Mathlib.Data.List.Basic

/-!
# Processes that call operations

A `Process` is a sequential program that performs one operation at a time and
continues with the operation's answer. What an operation does is left open: the
answer may depend on a shared state, on other processes or on the outside
world. `Guarded` is the program logic of this file. It is relative to no
semantics: a guarded process performs an operation only when its own history
(the calls made so far, with their answers) justifies it, whatever the answers
are.
-/

namespace ArtistNode.Base

variable {Op : Type} {Ans : Op → Type} {α β : Type}

/-- An operation together with the answer it got. -/
abbrev Call (Ans : Op → Type) := (op : Op) × Ans op

inductive Process (Ans : Op → Type) (α : Type) where
  | done (result : α)
  | call (op : Op) (k : Ans op → Process Ans α)

namespace Process

def bind : Process Ans α → (α → Process Ans β) → Process Ans β
  | .done a, f => f a
  | .call op k, f => .call op fun ans => (k ans).bind f

instance : Monad (Process Ans) where
  pure := .done
  bind := Process.bind

@[simp] theorem pure_eq_done (a : α) : (pure a : Process Ans α) = .done a := rfl

@[simp] theorem done_bind (a : α) (f : α → Process Ans β) :
    (Process.done a >>= f) = f a := rfl

@[simp] theorem call_bind (op : Op) (k : Ans op → Process Ans α) (f : α → Process Ans β) :
    (Process.call op k >>= f) = .call op fun ans => k ans >>= f := rfl

end Process

/-- The process that performs `op` and returns its answer. -/
def perform (op : Op) : Process Ans (Ans op) := .call op .done

@[simp] theorem perform_bind (op : Op) (f : Ans op → Process Ans β) :
    (perform op >>= f) = .call op f := rfl

/-! ### Partial executions -/

/-- `Reaches p h q`: answering the calls of `p` as in the history `h`, in order,
    leaves `q` to be run. -/
inductive Reaches (p : Process Ans α) : List (Call Ans) → Process Ans α → Prop where
  | refl : Reaches p [] p
  | step {h : List (Call Ans)} {op : Op} {k : Ans op → Process Ans α} (ans : Ans op) :
      Reaches p h (.call op k) → Reaches p (h ++ [⟨op, ans⟩]) (k ans)

theorem Reaches.of_done {a : α} {h : List (Call Ans)} {q : Process Ans α}
    (hr : Reaches (.done a) h q) : h = [] ∧ q = .done a := by
  induction hr with
  | refl => exact ⟨rfl, rfl⟩
  | step ans _ ih => cases ih.2

/-- An execution of what follows the first call, with that call before it. -/
theorem Reaches.cons {op : Op} {k : Ans op → Process Ans α} {ans : Ans op}
    {h : List (Call Ans)} {q : Process Ans α} (hr : Reaches (k ans) h q) :
    Reaches (.call op k) (⟨op, ans⟩ :: h) q := by
  induction hr with
  | refl => exact Reaches.step ans .refl
  | step ans' _ ih => exact ih.step ans'

/-! ### The program logic -/

/-- `Guarded G Q h p`: after the history `h`, the process `p` performs `op` only
    at histories with `G`, and returns `a` only at histories with `Q`. -/
def Guarded (G : List (Call Ans) → Op → Prop) (Q : List (Call Ans) → α → Prop)
    (h : List (Call Ans)) : Process Ans α → Prop
  | .done a => Q h a
  | .call op k => G h op ∧ ∀ ans, Guarded G Q (h ++ [⟨op, ans⟩]) (k ans)

section Guarded

variable {G : List (Call Ans) → Op → Prop} {Q Q' : List (Call Ans) → α → Prop}
variable {R : List (Call Ans) → β → Prop}

@[simp] theorem guarded_done {h : List (Call Ans)} {a : α} :
    Guarded G Q h (.done a) ↔ Q h a := Iff.rfl

@[simp] theorem guarded_call {h : List (Call Ans)} {op : Op} {k : Ans op → Process Ans α} :
    Guarded G Q h (.call op k) ↔
      G h op ∧ ∀ ans, Guarded G Q (h ++ [⟨op, ans⟩]) (k ans) := Iff.rfl

/-- Sequencing: the continuation is checked at every history and result that the
    first process can end with. -/
theorem Guarded.bind {f : α → Process Ans β} {p : Process Ans α} :
    ∀ {h : List (Call Ans)}, Guarded G Q h p →
      (∀ h' a, Q h' a → Guarded G R h' (f a)) → Guarded G R h (p >>= f) := by
  induction p with
  | done a => intro h hp hf; exact hf h a hp
  | call op k ih => intro h hp hf; exact ⟨hp.1, fun ans => ih ans (hp.2 ans) hf⟩

theorem Guarded.mono {p : Process Ans α} (hQ : ∀ h a, Q h a → Q' h a) :
    ∀ {h : List (Call Ans)}, Guarded G Q h p → Guarded G Q' h p := by
  induction p with
  | done a => intro h hp; exact hQ h a hp
  | call op k ih => intro h hp; exact ⟨hp.1, fun ans => ih ans (hp.2 ans)⟩

/-- What holds anyway needs no look at the process. -/
theorem Guarded.of_forall (hG : ∀ h op, G h op) (hQ : ∀ h a, Q h a) (p : Process Ans α) :
    ∀ h : List (Call Ans), Guarded G Q h p := by
  induction p with
  | done a => exact fun h => hQ h a
  | call op k ih => exact fun h => ⟨hG h op, fun ans => ih ans _⟩

/-- Every history a process ends with extends the one it started with. -/
theorem Guarded.extends {p : Process Ans α} {h₀ : List (Call Ans)} :
    ∀ {h : List (Call Ans)}, h₀ <+: h → Guarded G Q h p →
      Guarded G (fun h' a => h₀ <+: h' ∧ Q h' a) h p := by
  induction p with
  | done a => intro h hpre hp; exact ⟨hpre, hp⟩
  | call op k ih =>
    intro h hpre hp
    exact ⟨hp.1, fun ans => ih ans (hpre.trans (List.prefix_append _ _)) (hp.2 ans)⟩

theorem Guarded.of_reaches {p q : Process Ans α} {h : List (Call Ans)}
    (hp : Guarded G Q [] p) (hr : Reaches p h q) : Guarded G Q h q := by
  induction hr with
  | refl => exact hp
  | step ans _ ih => exact ih.2 ans

/-- What a finished execution of a guarded process returned. -/
theorem Guarded.result {p : Process Ans α} {h : List (Call Ans)} {a : α}
    (hp : Guarded G Q [] p) (hr : Reaches p h (.done a)) : Q h a :=
  hp.of_reaches hr

/-- What justified the operation a guarded process is about to perform. -/
theorem Guarded.pending {p : Process Ans α} {h : List (Call Ans)} {op : Op}
    {k : Ans op → Process Ans α} (hp : Guarded G Q [] p) (hr : Reaches p h (.call op k)) :
    G h op :=
  (hp.of_reaches hr).1

/-- What justified each operation a guarded process has performed. -/
theorem Guarded.performed {p q : Process Ans α} {h : List (Call Ans)}
    (hp : Guarded G Q [] p) (hr : Reaches p h q) :
    ∀ c ∈ h, ∃ before, before <+: h ∧ G before c.1 := by
  induction hr with
  | refl => intro c hc; cases hc
  | @step h op k ans hr ih =>
    intro c hc
    rcases List.mem_append.mp hc with hc | hc
    · obtain ⟨before, hpre, hG⟩ := ih c hc
      exact ⟨before, hpre.trans (List.prefix_append _ _), hG⟩
    · simp only [List.mem_singleton] at hc
      subst hc
      exact ⟨h, List.prefix_append _ _, hp.pending hr⟩

end Guarded

/-! ### Where a process can stop -/

/-- Whenever the process comes to an operation, `P` holds of that operation and of what is
    left to run after it. -/
def Paused (P : (op : Op) → (Ans op → Process Ans α) → Prop) : Process Ans α → Prop
  | .done _ => True
  | .call op k => P op k ∧ ∀ ans, Paused P (k ans)

section Paused

variable {P : (op : Op) → (Ans op → Process Ans α) → Prop}

@[simp] theorem paused_done {a : α} : Paused P (.done a) := trivial

@[simp] theorem paused_call {op : Op} {k : Ans op → Process Ans α} :
    Paused P (.call op k) ↔ P op k ∧ ∀ ans, Paused P (k ans) := Iff.rfl

theorem Paused.of_reaches {p q : Process Ans α} {h : List (Call Ans)} (hp : Paused P p)
    (hr : Reaches p h q) : Paused P q := by
  induction hr with
  | refl => exact hp
  | step ans _ ih => exact ih.2 ans

/-- Where an execution has come to an operation. -/
theorem Paused.pending {p : Process Ans α} {h : List (Call Ans)} {op : Op}
    {k : Ans op → Process Ans α} (hp : Paused P p) (hr : Reaches p h (.call op k)) : P op k :=
  (hp.of_reaches hr).1

end Paused

/-! ### Assumptions on the answers -/

/-- `Assuming R Q p`: if each call is answered as `R` allows, `p` returns only
    results with `Q`. -/
def Assuming (R : Call Ans → Prop) (Q : α → Prop) : Process Ans α → Prop
  | .done a => Q a
  | .call op k => ∀ ans, R ⟨op, ans⟩ → Assuming R Q (k ans)

section Assuming

variable {R : Call Ans → Prop} {Q : α → Prop} {Q' : β → Prop}

@[simp] theorem assuming_done {a : α} :
    Assuming R Q (.done a : Process Ans α) ↔ Q a := Iff.rfl

@[simp] theorem assuming_call {op : Op} {k : Ans op → Process Ans α} :
    Assuming R Q (.call op k) ↔ ∀ ans, R ⟨op, ans⟩ → Assuming R Q (k ans) := Iff.rfl

theorem Assuming.bind {f : α → Process Ans β} {p : Process Ans α} (hp : Assuming R Q p)
    (hf : ∀ a, Q a → Assuming R Q' (f a)) : Assuming R Q' (p >>= f) := by
  induction p with
  | done a => exact hf a hp
  | call op k ih =>
    intro ans hans
    exact ih ans (hp ans hans)

theorem Assuming.of_reaches {p q : Process Ans α} {h : List (Call Ans)} (hp : Assuming R Q p)
    (hr : Reaches p h q) : (∀ c ∈ h, R c) → Assuming R Q q := by
  induction hr with
  | refl => exact fun _ => hp
  | step ans _ ih =>
    intro hall
    have hlast := hall _ List.mem_concat_self
    exact ih (fun c hc => hall c (List.mem_append_left _ hc)) ans hlast

end Assuming

/-! ### What an execution shows -/

/-- The first call of an execution, and the execution of the rest. -/
theorem reaches_call_iff {op : Op} {k : Ans op → Process Ans α} {h : List (Call Ans)} {a : α} :
    Reaches (.call op k) h (.done a) ↔
      ∃ ans h', h = ⟨op, ans⟩ :: h' ∧ Reaches (k ans) h' (.done a) := by
  constructor
  · intro hr
    have hsplit : ∀ {h q}, Reaches (.call op k) h q → (h = [] ∧ q = .call op k) ∨
        ∃ ans h', h = ⟨op, ans⟩ :: h' ∧ Reaches (k ans) h' q := by
      intro h q hr
      induction hr with
      | refl => exact Or.inl ⟨rfl, rfl⟩
      | @step h op' k' ans' _ ih =>
        rcases ih with ⟨rfl, heq⟩ | ⟨ans, h', rfl, hr'⟩
        · cases heq
          exact Or.inr ⟨ans', [], rfl, .refl⟩
        · exact Or.inr ⟨ans, _, rfl, hr'.step ans'⟩
    rcases hsplit hr with ⟨-, hq⟩ | hfound
    · cases hq
    · exact hfound
  · rintro ⟨ans, h', rfl, hr⟩
    exact hr.cons

/-- `Shows R v p t a`: with each call answered as `R` allows, `p` can return `a` after
    calls of which `v` picks out `t`. -/
def Shows {γ : Type} (R : Call Ans → Prop) (v : Call Ans → Option γ) (p : Process Ans α)
    (t : List γ) (a : α) : Prop :=
  ∃ h, (∀ c ∈ h, R c) ∧ Reaches p h (.done a) ∧ h.filterMap v = t

/-- The visible parts of the executions of a process. -/
def Trace {γ : Type} (R : Call Ans → Prop) (v : Call Ans → Option γ) (p : Process Ans α)
    (t : List γ) : Prop :=
  ∃ a, Shows R v p t a

section Shows

variable {γ : Type} {R : Call Ans → Prop} {v : Call Ans → Option γ} {t : List γ}

@[simp] theorem shows_done {a b : α} :
    Shows R v (.done a : Process Ans α) t b ↔ t = [] ∧ b = a := by
  constructor
  · rintro ⟨h, -, hr, rfl⟩
    obtain ⟨rfl, hdone⟩ := hr.of_done
    exact ⟨rfl, Process.done.inj hdone⟩
  · rintro ⟨rfl, rfl⟩
    exact ⟨[], by simp, .refl, rfl⟩

@[simp] theorem shows_call {op : Op} {k : Ans op → Process Ans α} {a : α} :
    Shows R v (.call op k) t a ↔
      ∃ ans t', R ⟨op, ans⟩ ∧ Shows R v (k ans) t' a ∧ t = (v ⟨op, ans⟩).toList ++ t' := by
  constructor
  · rintro ⟨h, hall, hr, rfl⟩
    obtain ⟨ans, h', rfl, hr'⟩ := reaches_call_iff.mp hr
    refine ⟨ans, h'.filterMap v, hall _ List.mem_cons_self, ?_, ?_⟩
    · exact ⟨h', fun c hc => hall c (List.mem_cons_of_mem _ hc), hr', rfl⟩
    · rw [List.filterMap_cons]
      cases v ⟨op, ans⟩ <;> rfl
  · rintro ⟨ans, t', hans, ⟨h', hall, hr, rfl⟩, rfl⟩
    refine ⟨⟨op, ans⟩ :: h', ?_, hr.cons, ?_⟩
    · intro c hc
      rcases List.mem_cons.mp hc with rfl | hc
      · exact hans
      · exact hall c hc
    · rw [List.filterMap_cons]
      cases v ⟨op, ans⟩ <;> rfl

/-- A hidden call with only one answer leaves the visible part to the rest. -/
theorem shows_call_answer {op : Op} {k : Ans op → Process Ans α} {ans₀ : Ans op} {a : α}
    (hhidden : v ⟨op, ans₀⟩ = none) (hanswer : ∀ ans, R ⟨op, ans⟩ ↔ ans = ans₀) :
    Shows R v (.call op k) t a ↔ Shows R v (k ans₀) t a := by
  rw [shows_call]
  constructor
  · rintro ⟨ans, t', hans, hshown, rfl⟩
    obtain rfl := (hanswer ans).mp hans
    rwa [hhidden]
  · intro hshown
    exact ⟨ans₀, t, (hanswer ans₀).mpr rfl, hshown, by rw [hhidden]; rfl⟩

theorem shows_bind {p : Process Ans α} {f : α → Process Ans β} {b : β} :
    ∀ {t}, Shows R v (p >>= f) t b ↔
      ∃ t₁ a t₂, Shows R v p t₁ a ∧ Shows R v (f a) t₂ b ∧ t = t₁ ++ t₂ := by
  induction p with
  | done a =>
    intro t
    constructor
    · intro hshown
      exact ⟨[], a, t, shows_done.mpr ⟨rfl, rfl⟩, hshown, rfl⟩
    · rintro ⟨t₁, a', t₂, hfirst, hrest, rfl⟩
      obtain ⟨rfl, rfl⟩ := shows_done.mp hfirst
      exact hrest
  | call op k ih =>
    intro t
    simp only [Process.call_bind, shows_call, ih]
    constructor
    · rintro ⟨ans, t', hans, ⟨t₁, a, t₂, hfirst, hrest, rfl⟩, rfl⟩
      exact ⟨_, a, t₂, ⟨ans, t₁, hans, hfirst, rfl⟩, hrest, (List.append_assoc _ _ _).symm⟩
    · rintro ⟨t', a, t₂, ⟨ans, t₁, hans, hfirst, rfl⟩, hrest, rfl⟩
      exact ⟨ans, _, hans, ⟨t₁, a, t₂, hfirst, hrest, rfl⟩, List.append_assoc _ _ _⟩

/-- A process of whose calls none is visible, and which can finish. -/
def Silent (R : Call Ans → Prop) (v : Call Ans → Option γ) (p : Process Ans α) : Prop :=
  ∀ t, Trace R v p t ↔ t = []

theorem silent_done (a : α) : Silent R v (.done a : Process Ans α) := by
  intro t
  simp [Trace]

theorem Silent.call {op : Op} {k : Ans op → Process Ans α} (hhidden : ∀ ans, v ⟨op, ans⟩ = none)
    (hanswer : ∃ ans, R ⟨op, ans⟩) (hk : ∀ ans, Silent R v (k ans)) :
    Silent R v (.call op k) := by
  intro t
  simp only [Trace, shows_call, hhidden, Option.toList_none, List.nil_append]
  constructor
  · rintro ⟨a, ans, t', -, hshown, rfl⟩
    exact (hk ans t).mp ⟨a, hshown⟩
  · rintro rfl
    obtain ⟨ans, hans⟩ := hanswer
    obtain ⟨a, hshown⟩ := (hk ans []).mpr rfl
    exact ⟨a, ans, [], hans, hshown, rfl⟩

/-- A silent continuation leaves the visible part as it is. -/
theorem trace_bind_silent {p : Process Ans α} {f : α → Process Ans β}
    (hf : ∀ a, Silent R v (f a)) : Trace R v (p >>= f) t ↔ Trace R v p t := by
  simp only [Trace, shows_bind]
  constructor
  · rintro ⟨b, t₁, a, t₂, hfirst, hrest, rfl⟩
    obtain rfl := (hf a t₂).mp ⟨b, hrest⟩
    exact ⟨a, by rwa [List.append_nil]⟩
  · rintro ⟨a, hfirst⟩
    obtain ⟨b, hrest⟩ := (hf a []).mpr rfl
    exact ⟨b, t, a, [], hfirst, hrest, (List.append_nil t).symm⟩

end Shows

end ArtistNode.Base
