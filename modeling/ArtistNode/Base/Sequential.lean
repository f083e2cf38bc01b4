import ArtistNode.Base.Pool

/-!
# Jobs that run undisturbed

`Alone` is the program logic of one job when nothing else takes a step in between: a
weakest precondition, computed from the process and the atomic effects of its
operations. Unlike `Guarded` it follows the shared state, and it sees in each answer
what the operation can really give there.
-/

namespace ArtistNode.Base

variable {Op : Type} {Ans : Op → Type} {J α β γ σ ε : Type}

/-- `Alone S Q s h p`: from the state `s` and the history `h`, however its operations
    turn out, `p` ends in a state, with a history and a result that satisfy `Q`. -/
def Alone (S : System Ans J α σ ε) (Q : σ → List (Call Ans) → β → Prop) (s : σ)
    (h : List (Call Ans)) : Process Ans β → Prop
  | .done b => Q s h b
  | .call op k => ∀ ans s', S.act s op ans s' → Alone S Q s' (h ++ [⟨op, ans⟩]) (k ans)

/-- `Can S Q s h p`: the operations can turn out so that `p` ends with `Q`. -/
def Can (S : System Ans J α σ ε) (Q : σ → List (Call Ans) → β → Prop) (s : σ)
    (h : List (Call Ans)) : Process Ans β → Prop
  | .done b => Q s h b
  | .call op k => ∃ ans s', S.act s op ans s' ∧ Can S Q s' (h ++ [⟨op, ans⟩]) (k ans)

/-- The job, run undisturbed from `s`, makes these calls, answers `a` and leaves `s'`. -/
structure Executes (S : System Ans J α σ ε) (job : J) (s : σ) (h : List (Call Ans)) (a : α)
    (s' : σ) : Prop where
  reaches : Reaches (S.program job) h (.done a)
  performs : Performs S s h s'

section Alone

variable {S : System Ans J α σ ε} {Q : σ → List (Call Ans) → β → Prop}
variable {R : σ → List (Call Ans) → γ → Prop} {s s' : σ} {h : List (Call Ans)}

@[simp] theorem alone_call {op : Op} {k : Ans op → Process Ans β} :
    Alone S Q s h (.call op k) ↔
      ∀ ans s', S.act s op ans s' → Alone S Q s' (h ++ [⟨op, ans⟩]) (k ans) := Iff.rfl

/-- Sequencing: the continuation starts in any state that the first process can leave. -/
theorem Alone.bind {f : β → Process Ans γ} {p : Process Ans β} :
    ∀ {s h}, Alone S Q s h p → (∀ s' h' b, Q s' h' b → Alone S R s' h' (f b)) →
      Alone S R s h (p >>= f) := by
  induction p with
  | done b => intro s h hp hf; exact hf s h b hp
  | call op k ih =>
    intro s h hp hf ans s' act
    exact ih ans (hp ans s' act) hf

theorem Alone.mono {Q' : σ → List (Call Ans) → β → Prop} {p : Process Ans β}
    (hQ : ∀ s h b, Q s h b → Q' s h b) : ∀ {s h}, Alone S Q s h p → Alone S Q' s h p := by
  induction p with
  | done b => intro s h hp; exact hQ s h b hp
  | call op k ih =>
    intro s h hp ans s' act
    exact ih ans (hp ans s' act)

theorem Alone.of_reaches {p q : Process Ans β} (hp : Alone S Q s [] p) (hr : Reaches p h q) :
    ∀ {s'}, Performs S s h s' → Alone S Q s' h q := by
  induction hr with
  | refl =>
    rintro s' rfl
    exact hp
  | step ans _ ih =>
    intro s' hcalls
    obtain ⟨s₁, hcalls, act⟩ := hcalls.of_concat
    exact ih hcalls ans s' act

/-- What an undisturbed execution ends with. -/
theorem Executes.post {Q : σ → List (Call Ans) → α → Prop} {job : J} {a : α}
    (hx : Executes S job s h a s') (hp : Alone S Q s [] (S.program job)) : Q s' h a :=
  hp.of_reaches hx.reaches hx.performs

/-- An undisturbed execution is a part of a run. -/
theorem Executes.serve {job : J} {a : α} {w₀ w : World Ans J α σ} {τ : List (Label Ans J α ε)}
    (hx : Executes S job w.shared h a s') (hr : Run S w₀ τ w) :
    ∃ w', Run S w₀ (τ ++ served w.next job h a) w' ∧ w'.shared = s' ∧ w'.next = w.next + 1 :=
  hr.serve hx.reaches hx.performs

/-- Where every operation can give some answer, every process has an execution. -/
theorem exists_performs (hS : ∀ s op, ∃ ans s', S.act s op ans s') (p : Process Ans β) :
    ∀ s, ∃ h b s', Reaches p h (.done b) ∧ Performs S s h s' := by
  induction p with
  | done b => exact fun s => ⟨[], b, s, .refl, rfl⟩
  | call op k ih =>
    intro s
    obtain ⟨ans, s₁, act⟩ := hS s op
    obtain ⟨h, b, s', hreach, hcalls⟩ := ih ans s₁
    exact ⟨⟨op, ans⟩ :: h, b, s', hreach.cons, s₁, act, hcalls⟩

theorem exists_executes (hS : ∀ s op, ∃ ans s', S.act s op ans s') (job : J) (s : σ) :
    ∃ h a s', Executes S job s h a s' := by
  obtain ⟨h, a, s', hreach, hcalls⟩ := exists_performs hS (S.program job) s
  exact ⟨h, a, s', hreach, hcalls⟩

/-! ### Outcomes that are possible -/

theorem Can.exists_performs {p : Process Ans β} :
    ∀ {s h₀}, Can S Q s h₀ p → ∃ h b s', Reaches p h (.done b) ∧ Performs S s h s' ∧
      Q s' (h₀ ++ h) b := by
  induction p with
  | done b =>
    intro s h₀ hp
    refine ⟨[], b, s, .refl, rfl, ?_⟩
    rw [List.append_nil]
    exact hp
  | call op k ih =>
    intro s h₀ hp
    obtain ⟨ans, s₁, act, hrest⟩ := hp
    obtain ⟨h, b, s', hreach, hcalls, hQ⟩ := ih ans hrest
    refine ⟨⟨op, ans⟩ :: h, b, s', hreach.cons, ⟨s₁, act, hcalls⟩, ?_⟩
    rw [List.append_cons]
    exact hQ

/-- Every execution ends with `Q`, and there is one that ends with `Q'`. -/
structure Settles (S : System Ans J α σ ε) (Q Q' : σ → List (Call Ans) → β → Prop) (s : σ)
    (h : List (Call Ans)) (p : Process Ans β) : Prop where
  always : Alone S Q s h p
  sometimes : Can S Q' s h p

/-- Where an operation always has an answer, it is enough to go on from each of them. -/
theorem Settles.call {Q' : σ → List (Call Ans) → β → Prop} {op : Op} {k : Ans op → Process Ans β}
    (htotal : ∃ ans s', S.act s op ans s')
    (hk : ∀ ans s', S.act s op ans s' → Settles S Q Q' s' (h ++ [⟨op, ans⟩]) (k ans)) :
    Settles S Q Q' s h (.call op k) := by
  constructor
  · intro ans s' act
    exact (hk ans s' act).always
  · obtain ⟨ans, s', act⟩ := htotal
    exact ⟨ans, s', act, (hk ans s' act).sometimes⟩

/-- Sequencing, after a process of which only what always holds is known. -/
theorem Settles.bind (hS : ∀ s op, ∃ ans s', S.act s op ans s')
    {R' : σ → List (Call Ans) → γ → Prop} {f : β → Process Ans γ} {p : Process Ans β} :
    ∀ {s h}, Alone S Q s h p → (∀ s' h' b, Q s' h' b → Settles S R R' s' h' (f b)) →
      Settles S R R' s h (p >>= f) := by
  induction p with
  | done b =>
    intro s h hp hf
    exact hf s h b hp
  | call op k ih =>
    intro s h hp hf
    apply Settles.call (hS s op)
    intro ans s' act
    exact ih ans (hp ans s' act) hf

end Alone

/-! ### Jobs that the environment disturbs -/

/-- The system with a step of the environment of kind `C` possible before each operation. -/
def System.disturbed (S : System Ans J α σ ε) (C : ε → Prop) : System Ans J α σ ε :=
  { S with act := fun s op ans s' =>
      ∃ s₁, (s₁ = s ∨ ∃ e, C e ∧ S.env s e s₁) ∧ S.act s₁ op ans s' }

/-- The label is one of this thread, or a step of the environment of kind `C`. -/
def Label.Within (id : Nat) (C : ε → Prop) : Label Ans J α ε → Prop
  | .start id' _ => id' = id
  | .call id' _ _ => id' = id
  | .answer id' _ _ => id' = id
  | .env e => C e
  | .restart => False

section Disturbed

variable {S : System Ans J α σ ε} {C : ε → Prop} {s s' : σ} {h : List (Call Ans)} {job : J}
variable {a : α} {w₀ w : World Ans J α σ} {τ : List (Label Ans J α ε)}

theorem Performs.disturbed : ∀ {s}, Performs S s h s' → Performs (S.disturbed C) s h s' := by
  induction h with
  | nil => exact fun hcalls => hcalls
  | cons c h ih =>
    intro s hcalls
    obtain ⟨s₁, act, hcalls⟩ := hcalls
    exact ⟨s₁, ⟨s, Or.inl rfl, act⟩, ih hcalls⟩

theorem Executes.disturbed (hx : Executes S job s h a s') :
    Executes (S.disturbed C) job s h a s' :=
  ⟨hx.reaches, hx.performs.disturbed⟩

/-- The calls of a disturbed execution, in the pool. -/
theorem Run.perform_disturbed {q : Process Ans α} (hr : Run S w₀ τ w)
    (hreach : Reaches (S.program job) h q) :
    ∀ {s'}, Performs (S.disturbed C) w.shared h s' → ∃ τ' w', Run S w₀ (τ ++ τ') w' ∧
      w'.shared = s' ∧ w'.threads w.next = some ⟨job, h, q⟩ ∧
      ∀ l ∈ τ', l.Within w.next C := by
  induction hreach with
  | refl =>
    rintro s' rfl
    refine ⟨[.start w.next job], _, hr.snoc (Step.start w job), rfl, Function.update_self _ _ _, ?_⟩
    intro l hl
    obtain rfl := List.mem_singleton.mp hl
    rfl
  | @step h op k ans hreach ih =>
    intro s' hcalls
    obtain ⟨s₁, hcalls, s₂, hbetween, act⟩ := hcalls.of_concat
    obtain ⟨τ₁, w₁, hrun, rfl, hthread, hwithin⟩ := ih hcalls
    rcases hbetween with rfl | ⟨e, he, henv⟩
    · have hlast := hrun.snoc (Step.call hthread act)
      rw [List.append_assoc] at hlast
      refine ⟨_, _, hlast, rfl, Function.update_self _ _ _, ?_⟩
      intro l hl
      rcases List.mem_append.mp hl with hl | hl
      · exact hwithin l hl
      · obtain rfl := List.mem_singleton.mp hl
        rfl
    · have hdisturbed := hrun.snoc (Step.env henv)
      have hthread' : ({ w₁ with shared := s₂ } : World Ans J α σ).threads w.next =
          some ⟨job, h, .call op k⟩ := hthread
      have hlast := hdisturbed.snoc (Step.call hthread' act)
      rw [List.append_assoc, List.append_assoc] at hlast
      refine ⟨_, _, hlast, rfl, Function.update_self _ _ _, ?_⟩
      intro l hl
      rcases List.mem_append.mp hl with hl | hl
      · exact hwithin l hl
      · simp only [List.cons_append, List.nil_append, List.mem_cons, List.not_mem_nil,
          or_false] at hl
        rcases hl with rfl | rfl
        · exact he
        · rfl

/-- A disturbed execution is a part of a run in which only its thread and the environment
    take steps. -/
theorem Executes.disturbed_run (hx : Executes (S.disturbed C) job w.shared h a s')
    (hr : Run S w₀ τ w) : ∃ τ' w', Run S w₀ (τ ++ τ') w' ∧ w'.shared = s' ∧
      .answer w.next job a ∈ τ' ∧ ∀ l ∈ τ', l.Within w.next C := by
  obtain ⟨τ₁, w₁, hrun, hshared, hthread, hwithin⟩ := hr.perform_disturbed hx.reaches hx.performs
  have hlast := hrun.snoc (Step.answer hthread)
  rw [List.append_assoc] at hlast
  refine ⟨_, _, hlast, hshared, List.mem_concat_self, ?_⟩
  intro l hl
  rcases List.mem_append.mp hl with hl | hl
  · exact hwithin l hl
  · obtain rfl := List.mem_singleton.mp hl
    rfl

end Disturbed

end ArtistNode.Base
