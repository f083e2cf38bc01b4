import ArtistNode.PoisonedLock
import ArtistNode.Recovery

/-!
# The event loop

`run_event_loop` asks the node for its next event, puts a payment received to the ledger,
logs every other event, and confirms each with `event_handled`, one event at a time, while
the HTTP handlers run beside it. The node's queue of events is outside this repository: it
is a parameter, with the few things that are documented of it as hypotheses. The runs of
the loop are runs of the daemon, with the queue and the loop to follow them.
-/

namespace ArtistNode

open Base

inductive NodeEvent where
  | paymentReceived (paymentHash : ByteArray)
  /-- Every other event, which the loop logs. -/
  | other (description : String)
deriving DecidableEq

/-! ### The node's queue -/

/-- The queue of events that the node keeps. -/
structure NodeQueue where
  State : Type
  /-- The event is in the queue. -/
  pending : State → NodeEvent → Prop
  /-- `next_event_async` answers with the event. -/
  next : State → NodeEvent → Prop
  /-- What `event_handled` answers with, and the queue afterwards. -/
  handled : State → Except String Unit → State → Prop
  /-- The node queues an event. -/
  arrive : State → NodeEvent → State → Prop
  /-- The node of the next process reads the queue that was stored. -/
  restart : State → State → Prop

/-- What is documented of the queue: the next event is the same until it is confirmed,
    confirming takes no other event out, whether or not it fails, and what is queued is
    still there after a restart. -/
structure NodeQueue.Documented (Q : NodeQueue) : Prop where
  next_arrive : ∀ {q q' e e'}, Q.next q e → Q.arrive q e' q' → Q.next q' e
  pending_arrive : ∀ {q q' e}, Q.arrive q e q' → Q.pending q' e
  keep_arrive : ∀ {q q' e e'}, Q.pending q e → Q.arrive q e' q' → Q.pending q' e
  keep_handled : ∀ {q q' e e' result}, Q.next q e → Q.handled q result q' → Q.pending q e' →
    e' ≠ e → Q.pending q' e'
  keep_restart : ∀ {q q' e}, Q.pending q e → Q.restart q q' → Q.pending q' e

/-! ### The loop -/

inductive LoopState where
  | waiting
  /-- A thread works on the payment that the loop was given. -/
  | handling (id : Nat)
  /-- That thread has called `event_handled`. -/
  | returning (id : Nat)
  /-- The loop logs the event that it was given. -/
  | logging (description : String)
  | stopped
deriving DecidableEq

/-- The loop breaks where `event_handled` failed. -/
def LoopState.after (running : Bool) : LoopState := if running then .waiting else .stopped

/-- The daemon, the node's queue and the loop. -/
structure NodeWorld (Q : NodeQueue) where
  daemon : DaemonWorld
  queue : Q.State
  loop : LoopState

inductive NodeLabel where
  | thread (l : DaemonLabel)
  | arrive (e : NodeEvent)
  /-- The loop was given an event that it logs. -/
  | log (description : String)
  /-- The loop has confirmed that event. -/
  | logged (description : String) (result : Except String Unit)

/-- What a step of the daemon's threads does to the queue and the loop: only the loop
    handles payments received, the one it was given, and one at a time. -/
def NodeQueue.Follows (Q : NodeQueue) (queue : Q.State) (loop : LoopState) :
    DaemonLabel → Q.State → LoopState → Prop
  | .start id (.paymentReceived paymentHash), queue', loop' =>
    loop = .waiting ∧ Q.next queue (.paymentReceived paymentHash) ∧
      queue' = queue ∧ loop' = .handling id
  | .call id (.paymentReceived _) ⟨.eventHandled, result⟩, queue', loop' =>
    Q.handled queue result queue' ∧ loop' = .returning id
  | .answer _ (.paymentReceived _) (.eventLoop running), queue', loop' =>
    queue' = queue ∧ loop' = .after running
  | .restart, queue', loop' => Q.restart queue queue' ∧ loop' = .waiting
  | _, queue', loop' => queue' = queue ∧ loop' = loop

inductive NodeStep (d : Daemon) {Q : NodeQueue} : NodeWorld Q → NodeLabel → NodeWorld Q → Prop where
  | thread {W : NodeWorld Q} {l : DaemonLabel} {w : DaemonWorld} {queue : Q.State}
      {loop : LoopState} (step : Step (system d) W.daemon l w)
      (follow : Q.Follows W.queue W.loop l queue loop) :
      NodeStep d W (.thread l) ⟨w, queue, loop⟩
  | arrive {W : NodeWorld Q} {e : NodeEvent} {queue : Q.State}
      (act : Q.arrive W.queue e queue) : NodeStep d W (.arrive e) ⟨W.daemon, queue, W.loop⟩
  | log {W : NodeWorld Q} {description : String} (waiting : W.loop = .waiting)
      (next : Q.next W.queue (.other description)) :
      NodeStep d W (.log description) ⟨W.daemon, W.queue, .logging description⟩
  | logged {W : NodeWorld Q} {description : String} {result : Except String Unit}
      {queue : Q.State} (logging : W.loop = .logging description)
      (act : Q.handled W.queue result queue) :
      NodeStep d W (.logged description result) ⟨W.daemon, queue, .after result.isOk⟩

inductive NodeRun (d : Daemon) {Q : NodeQueue} (W₀ : NodeWorld Q) :
    List NodeLabel → NodeWorld Q → Prop where
  | refl : NodeRun d W₀ [] W₀
  | snoc {σ : List NodeLabel} {W W' : NodeWorld Q} {l : NodeLabel} :
      NodeRun d W₀ σ W → NodeStep d W l W' → NodeRun d W₀ (σ ++ [l]) W'

/-- The loop starts on the queue that it finds. -/
def NodeWorld.initial {Q : NodeQueue} (s : Shared) (queue : Q.State) : NodeWorld Q :=
  ⟨World.initial s, queue, .waiting⟩

/-- The step of the daemon's threads that a label is. -/
def NodeLabel.thread? : NodeLabel → Option DaemonLabel
  | .thread l => some l
  | _ => none

/-! ### The loop is a run of the daemon -/

section Runs

variable {Q : NodeQueue} {d : Daemon} {W₀ W W' : NodeWorld Q} {σ σ' : List NodeLabel}

theorem NodeRun.trans (h : NodeRun d W₀ σ W) (h' : NodeRun d W σ' W') :
    NodeRun d W₀ (σ ++ σ') W' := by
  induction h' with
  | refl => simpa using h
  | snoc _ hs ih =>
    rw [← List.append_assoc]
    exact ih.snoc hs

theorem NodeRun.daemon (h : NodeRun d W₀ σ W) :
    Run (system d) W₀.daemon (σ.filterMap NodeLabel.thread?) W.daemon := by
  induction h with
  | refl => exact .refl
  | snoc _ hs ih =>
    rw [List.filterMap_append]
    cases hs with
    | thread step follow => exact ih.snoc step
    | _ =>
      -- the loop's own steps leave the threads alone
      rw [List.filterMap_cons_none rfl, List.filterMap_nil, List.append_nil]
      exact ih

theorem mem_threads {m : DaemonLabel} : m ∈ σ.filterMap NodeLabel.thread? ↔ .thread m ∈ σ := by
  rw [List.mem_filterMap]
  constructor
  · rintro ⟨l, hl, hm⟩
    cases l with
    | thread m' =>
      obtain rfl := Option.some.inj hm
      exact hl
    | _ => cases hm
  · intro hm
    exact ⟨_, hm, rfl⟩

end Runs

/-! ### The handler of a payment -/

/-- The handler acknowledges once, after it has put the payment to the ledger. -/
def AcknowledgesOnce (lib : Crates) (paymentHash : ByteArray) (h : List DaemonCall) (op : Op) :
    Prop :=
  op = .eventHandled → (∃ ans, (⟨.markPaid (lib.hexEncode paymentHash), ans⟩ : DaemonCall) ∈ h) ∧
    ∀ c ∈ h, c.1 ≠ .eventHandled

theorem onPaymentReceived_acknowledges (lib : Crates) (paymentHash : ByteArray) :
    Guarded (AcknowledgesOnce lib paymentHash)
      (fun h resp => (∃ c ∈ h, c.1 = .eventHandled) ∧ ∃ running, resp = .eventLoop running) []
      (onPaymentReceived lib paymentHash) := by
  unfold onPaymentReceived
  simp only [perform_bind, guarded_call]
  refine ⟨(fun hop => by cases hop), fun ans => ⟨?_, ?_⟩⟩
  · intro _
    constructor
    · exact ⟨ans, List.mem_singleton_self _⟩
    · intro c hc
      rw [List.mem_singleton.mp hc]
      simp
  · rintro (e | ⟨⟩)
    all_goals exact ⟨⟨_, List.mem_concat_self, rfl⟩, _, rfl⟩

/-! ### What the loop is doing -/

theorem Job.payment_or_other (job : Job) :
    (∃ paymentHash, job = .paymentReceived paymentHash) ∨
      ∀ paymentHash, job ≠ .paymentReceived paymentHash := by
  by_cases h : ∃ paymentHash, job = .paymentReceived paymentHash
  · exact Or.inl h
  · exact Or.inr fun paymentHash heq => h ⟨paymentHash, heq⟩

section Follows

variable {Q : NodeQueue} {queue queue' : Q.State} {loop loop' : LoopState} {id : Nat} {job : Job}

theorem NodeQueue.follows_start (h : ∀ paymentHash, job ≠ .paymentReceived paymentHash) :
    Q.Follows queue loop (.start id job) queue' loop' ↔ queue' = queue ∧ loop' = loop := by
  cases job with
  | paymentReceived paymentHash => exact absurd rfl (h paymentHash)
  | _ => exact Iff.rfl

theorem NodeQueue.follows_call {c : DaemonCall}
    (h : (∀ paymentHash, job ≠ .paymentReceived paymentHash) ∨ c.1 ≠ .eventHandled) :
    Q.Follows queue loop (.call id job c) queue' loop' ↔ queue' = queue ∧ loop' = loop := by
  obtain ⟨op, ans⟩ := c
  cases job with
  | paymentReceived paymentHash =>
    cases op with
    | eventHandled => exact absurd rfl (h.resolve_left fun hjob => hjob paymentHash rfl)
    | _ => exact Iff.rfl
  | _ => exact Iff.rfl

theorem NodeQueue.follows_answer {resp : Response}
    (h : ∀ paymentHash, job ≠ .paymentReceived paymentHash) :
    Q.Follows queue loop (.answer id job resp) queue' loop' ↔ queue' = queue ∧ loop' = loop := by
  cases job with
  | paymentReceived paymentHash => exact absurd rfl (h paymentHash)
  | _ => exact Iff.rfl

end Follows

/-- The loop works on the payment that a live handler has, which is the next event of the
    queue until the handler has confirmed it. -/
def Attended {Q : NodeQueue} (W : NodeWorld Q) (id : Nat) (paymentHash : ByteArray)
    (h : List DaemonCall) : Prop :=
  (W.loop = .handling id ∧ Q.next W.queue (.paymentReceived paymentHash) ∧
    ∀ c ∈ h, c.1 ≠ .eventHandled) ∨
  W.loop = .returning id ∧ ∃ c ∈ h, c.1 = .eventHandled

/-- Every live handler of a payment is the loop's, and `σ` has all its calls; what the loop
    logs is the next event. -/
structure Attends {Q : NodeQueue} (σ : List NodeLabel) (W : NodeWorld Q) : Prop where
  attended : ∀ id paymentHash h rest,
    W.daemon.threads id = some ⟨.paymentReceived paymentHash, h, rest⟩ →
      Attended W id paymentHash h ∧
        ∀ c ∈ h, .thread (.call id (.paymentReceived paymentHash) c) ∈ σ
  logging : ∀ description, W.loop = .logging description → Q.next W.queue (.other description)

section Attends

variable {Q : NodeQueue} {d : Daemon} {s₀ : Shared} {τ : List DaemonLabel} {W W' : NodeWorld Q}
variable {σ σ' : List NodeLabel} {l : NodeLabel} {queue : Q.State} {loop : LoopState}
variable {paymentHash : ByteArray}

theorem Attended.working {id : Nat} {hist : List DaemonCall}
    (h : Attended W id paymentHash hist) : W.loop = .handling id ∨ W.loop = .returning id := by
  rcases h with ⟨hloop, -⟩ | ⟨hloop, -⟩
  · exact Or.inl hloop
  · exact Or.inr hloop

/-- While the loop does not work on a payment, no handler of one is live. -/
theorem Attends.quiet (h : Attends σ W)
    (hquiet : ∀ id, W.loop ≠ .handling id ∧ W.loop ≠ .returning id)
    (id : Nat) (paymentHash : ByteArray) (hist : List DaemonCall) (rest : Handler Response) :
    W.daemon.threads id ≠ some ⟨.paymentReceived paymentHash, hist, rest⟩ := by
  intro hthread
  rcases (h.attended id paymentHash hist rest hthread).1.working with hloop | hloop
  · exact (hquiet id).1 hloop
  · exact (hquiet id).2 hloop

theorem Attends.of_quiet
    (hlogging : ∀ description, W.loop = .logging description → Q.next W.queue (.other description))
    (hnone : ∀ id paymentHash hist rest,
      W.daemon.threads id ≠ some ⟨.paymentReceived paymentHash, hist, rest⟩) : Attends σ W where
  attended id paymentHash hist rest hthread := absurd hthread (hnone id paymentHash hist rest)
  logging := hlogging

/-- Two handlers of payments are never live together. -/
theorem Attends.alone (h : Attends σ W) {id id' : Nat} {hash hash' : ByteArray}
    {hist hist' : List DaemonCall} {rest rest' : Handler Response}
    (hthread : W.daemon.threads id = some ⟨.paymentReceived hash, hist, rest⟩)
    (hthread' : W.daemon.threads id' = some ⟨.paymentReceived hash', hist', rest'⟩) :
    id' = id := by
  rcases (h.attended _ _ _ _ hthread).1.working with hloop | hloop
  all_goals
    rcases (h.attended _ _ _ _ hthread').1.working with hloop' | hloop'
    all_goals
      rw [hloop] at hloop'
      cases hloop'
    all_goals rfl

/-- Who calls `event_handled` for a payment has put it to the ledger, and it is the next
    event of the queue. -/
theorem Attends.eventHandled (h : Attends σ W) (hrun : DaemonRun d s₀ τ W.daemon) {id : Nat}
    {hist : List DaemonCall} {k : Except String Unit → Handler Response}
    (hthread : W.daemon.threads id =
      some ⟨.paymentReceived paymentHash, hist, .call .eventHandled k⟩) :
    W.loop = .handling id ∧ Q.next W.queue (.paymentReceived paymentHash) ∧
      ∃ ans, .thread (.call id (.paymentReceived paymentHash)
        ⟨.markPaid (d.lib.hexEncode paymentHash), ans⟩) ∈ σ := by
  obtain ⟨⟨ans, hmarked⟩, hnone⟩ := (onPaymentReceived_acknowledges d.lib paymentHash).pending
    (hrun.traced _ _ hthread).reaches rfl
  obtain ⟨hattended, hcalled⟩ := h.attended _ _ _ _ hthread
  rcases hattended with ⟨hloop, hnext, -⟩ | ⟨-, c, hc, hop⟩
  · exact ⟨hloop, hnext, ans, hcalled _ hmarked⟩
  · exact absurd hop (hnone c hc)

/-- Steps that leave the handlers of payments, the loop and the next event. -/
theorem Attends.keep (h : Attends σ W) (hloop : W'.loop = W.loop)
    (hnext : ∀ e, Q.next W.queue e → Q.next W'.queue e)
    (hthreads : ∀ id paymentHash hist rest,
      W'.daemon.threads id = some ⟨.paymentReceived paymentHash, hist, rest⟩ ↔
        W.daemon.threads id = some ⟨.paymentReceived paymentHash, hist, rest⟩) :
    Attends (σ ++ [l]) W' := by
  constructor
  · intro id paymentHash hist rest hthread
    obtain ⟨hattended, hcalled⟩ := h.attended id paymentHash hist rest ((hthreads _ _ _ _).mp hthread)
    refine ⟨?_, fun c hc => List.mem_append_left _ (hcalled c hc)⟩
    rcases hattended with ⟨hw, hfirst, hnone⟩ | ⟨hw, hcall⟩
    · exact Or.inl ⟨hloop.trans hw, hnext _ hfirst, hnone⟩
    · exact Or.inr ⟨hloop.trans hw, hcall⟩
  · intro description hw
    exact hnext _ (h.logging description (hloop.symm.trans hw))

theorem thread_ne_payment {t : Thread Answer Job Response}
    (h : ∀ paymentHash, t.job ≠ .paymentReceived paymentHash) (paymentHash : ByteArray)
    (hist : List DaemonCall) (rest : Handler Response) :
    some t ≠ some ⟨.paymentReceived paymentHash, hist, rest⟩ :=
  fun heq => h paymentHash (congrArg Thread.job (Option.some.inj heq))

/-- A thread that handles no payment can be changed. -/
theorem payment_update_iff {threads : Nat → Option (Thread Answer Job Response)} {id : Nat}
    {t : Option (Thread Answer Job Response)}
    (hold : ∀ paymentHash hist rest, threads id ≠ some ⟨.paymentReceived paymentHash, hist, rest⟩)
    (hnew : ∀ paymentHash hist rest, t ≠ some ⟨.paymentReceived paymentHash, hist, rest⟩)
    (id' : Nat) (paymentHash : ByteArray) (hist : List DaemonCall) (rest : Handler Response) :
    Function.update threads id t id' = some ⟨.paymentReceived paymentHash, hist, rest⟩ ↔
      threads id' = some ⟨.paymentReceived paymentHash, hist, rest⟩ := by
  by_cases hid : id' = id
  · subst hid
    rw [Function.update_self]
    constructor
    · intro heq
      exact absurd heq (hnew _ _ _)
    · intro heq
      exact absurd heq (hold _ _ _)
  · rw [Function.update_of_ne hid]

theorem Attends.start (h : Attends σ W) (hrun : DaemonRun d s₀ τ W.daemon) (job : Job)
    (hfollow : Q.Follows W.queue W.loop (.start W.daemon.next job) queue loop) :
    Attends (Q := Q) (σ ++ [.thread (.start W.daemon.next job)])
      ⟨{ W.daemon.set W.daemon.next (some ⟨job, [], handle d job⟩) with
        next := W.daemon.next + 1 }, queue, loop⟩ := by
  rcases job.payment_or_other with ⟨paymentHash, rfl⟩ | hother
  · obtain ⟨hwaiting, hnext, rfl, rfl⟩ := hfollow
    constructor
    · intro id hash hist rest hthread
      rcases World.set_threads_cases hthread with ⟨rfl, hu⟩ | ⟨-, hold⟩
      · cases hu
        exact ⟨Or.inl ⟨rfl, hnext, by simp⟩, by simp⟩
      · exact absurd hold (h.quiet (by simp [hwaiting]) id hash hist rest)
    · intro description hw
      cases hw
  · have hunused : ∀ t, W.daemon.threads W.daemon.next ≠ some t :=
      fun t ht => absurd (hrun.call_lt.1 _ t ht) (Nat.lt_irrefl _)
    obtain ⟨rfl, rfl⟩ := (NodeQueue.follows_start hother).mp hfollow
    refine h.keep rfl (fun _ he => he) ?_
    exact payment_update_iff (fun _ _ _ => hunused _) (thread_ne_payment hother)

theorem Attends.call (h : Attends σ W) {id : Nat} {job : Job}
    {hist : List DaemonCall} {op : Op} {k : Answer op → Handler Response} {ans : Answer op}
    {s' : Shared} (hthread : W.daemon.threads id = some ⟨job, hist, .call op k⟩)
    (hfollow : Q.Follows W.queue W.loop (.call id job ⟨op, ans⟩) queue loop) :
    Attends (Q := Q) (σ ++ [.thread (.call id job ⟨op, ans⟩)])
      ⟨{ W.daemon.set id (some ⟨job, hist ++ [⟨op, ans⟩], k ans⟩) with shared := s' },
        queue, loop⟩ := by
  rcases job.payment_or_other with ⟨paymentHash, rfl⟩ | hother
  · obtain ⟨hattended, hcalled⟩ := h.attended _ _ _ _ hthread
    have hcalls : ∀ c ∈ hist ++ [⟨op, ans⟩], NodeLabel.thread
        (.call id (.paymentReceived paymentHash) c) ∈
        σ ++ [.thread (.call id (.paymentReceived paymentHash) ⟨op, ans⟩)] := by
      intro c hc
      rcases List.mem_append.mp hc with hc | hc
      · exact List.mem_append_left _ (hcalled c hc)
      · rw [List.mem_singleton.mp hc]
        exact List.mem_concat_self
    have hafter : Attended ⟨{ W.daemon.set id (some ⟨.paymentReceived paymentHash,
        hist ++ [⟨op, ans⟩], k ans⟩) with shared := s' }, queue, loop⟩ id paymentHash
        (hist ++ [⟨op, ans⟩]) := by
      by_cases hop : op = .eventHandled
      · subst hop
        exact Or.inr ⟨hfollow.2, _, List.mem_concat_self, rfl⟩
      · obtain ⟨rfl, rfl⟩ := (NodeQueue.follows_call (Or.inr hop)).mp hfollow
        rcases hattended with ⟨hloop, hnext, hnone⟩ | ⟨hloop, c, hc, heq⟩
        · refine Or.inl ⟨hloop, hnext, ?_⟩
          intro c hc
          rcases List.mem_append.mp hc with hc | hc
          · exact hnone c hc
          · rw [List.mem_singleton.mp hc]
            exact hop
        · exact Or.inr ⟨hloop, c, List.mem_append_left _ hc, heq⟩
    constructor
    · intro id' hash hist' rest hlive
      rcases World.set_threads_cases hlive with ⟨rfl, hu⟩ | ⟨hne, hold⟩
      · cases hu
        exact ⟨hafter, hcalls⟩
      · exact absurd (h.alone hthread hold) hne
    · intro description hw
      rcases hafter.working with hloop | hloop
      all_goals
        rw [hloop] at hw
        cases hw
  · obtain ⟨rfl, rfl⟩ := (NodeQueue.follows_call (Or.inl hother)).mp hfollow
    refine h.keep rfl (fun _ he => he) ?_
    refine payment_update_iff ?_ (thread_ne_payment hother)
    rw [hthread]
    exact thread_ne_payment hother

theorem Attends.answer (h : Attends σ W) (hrun : DaemonRun d s₀ τ W.daemon) {id : Nat} {job : Job}
    {hist : List DaemonCall} {resp : Response}
    (hthread : W.daemon.threads id = some ⟨job, hist, .done resp⟩)
    (hfollow : Q.Follows W.queue W.loop (.answer id job resp) queue loop) :
    Attends (Q := Q) (σ ++ [.thread (.answer id job resp)])
      ⟨W.daemon.set id none, queue, loop⟩ := by
  rcases job.payment_or_other with ⟨paymentHash, rfl⟩ | hother
  · obtain ⟨-, running, rfl⟩ := (onPaymentReceived_acknowledges d.lib paymentHash).result
      (hrun.traced _ _ hthread).reaches
    obtain ⟨-, rfl⟩ := hfollow
    refine Attends.of_quiet ?_ ?_
    · intro description hw
      cases running <;> cases hw
    · intro id' hash hist' rest hlive
      rcases World.set_threads_cases hlive with ⟨-, hu⟩ | ⟨hne, hold⟩
      · cases hu
      · exact hne (h.alone hthread hold)
  · obtain ⟨rfl, rfl⟩ := (NodeQueue.follows_answer hother).mp hfollow
    refine h.keep rfl (fun _ he => he) ?_
    refine payment_update_iff ?_ (fun _ _ _ heq => by cases heq)
    rw [hthread]
    exact thread_ne_payment hother

theorem Attends.step (h : Attends σ W) (hqueue : Q.Documented) (hrun : DaemonRun d s₀ τ W.daemon)
    (hs : NodeStep d W l W') : Attends (σ ++ [l]) W' := by
  cases hs with
  | arrive act =>
    exact h.keep rfl (fun _ hnext => hqueue.next_arrive hnext act) (fun _ _ _ _ => Iff.rfl)
  | log waiting next =>
    refine .of_quiet ?_ (h.quiet (by simp [waiting]))
    intro description hw
    cases hw
    exact next
  | logged logging act =>
    refine .of_quiet ?_ (h.quiet (by simp [logging]))
    intro description hw
    unfold LoopState.after at hw
    split at hw
    all_goals cases hw
  | thread step follow =>
    cases step with
    | start job => exact h.start hrun job follow
    | call thread act => exact h.call thread follow
    | answer thread => exact h.answer hrun thread follow
    | env act =>
      obtain ⟨rfl, rfl⟩ := follow
      exact h.keep rfl (fun _ he => he) (fun _ _ _ _ => Iff.rfl)
    | restart act =>
      obtain ⟨-, rfl⟩ := follow
      exact .of_quiet (fun _ hw => by cases hw) (fun _ _ _ _ heq => by cases heq)

theorem Attends.run {W₁ : NodeWorld Q} (h : Attends σ W₁) (hqueue : Q.Documented)
    (hbase : DaemonRun d s₀ τ W₁.daemon) (hrun : NodeRun d W₁ σ' W) : Attends (σ ++ σ') W := by
  induction hrun with
  | refl => simpa using h
  | snoc hr hs ih =>
    have hbefore : DaemonRun d s₀ _ _ := hbase.trans hr.daemon
    rw [← List.append_assoc]
    exact ih.step hqueue hbefore hs

theorem NodeRun.attends (hqueue : Q.Documented) (h : NodeRun d (.initial s₀ queue) σ W) :
    Attends σ W := by
  have hinitial : Attends [] (.initial s₀ queue : NodeWorld Q) :=
    .of_quiet (fun _ hw => by cases hw) (fun _ _ _ _ heq => by cases heq)
  exact hinitial.run hqueue (τ := []) .refl h

/-- Where the loop waits, a run can be followed from there on. -/
theorem Attends.forget (h : Attends σ W) (hwaiting : W.loop = .waiting) : Attends [] W :=
  .of_quiet h.logging (h.quiet (by simp [hwaiting]))

end Attends

/-! ### Delivery at least once -/

/-- In the stretch `σ'` of a run, after `σ`, a handler of the payment has called
    `event_handled`, having put the payment to the ledger before. -/
def MarkedThenHandled (lib : Crates) (paymentHash : ByteArray) (σ σ' : List NodeLabel) : Prop :=
  ∃ σ₁ σ₂ id result ans,
    σ' = σ₁ ++ .thread (.call id (.paymentReceived paymentHash) ⟨.eventHandled, result⟩) :: σ₂ ∧
      .thread (.call id (.paymentReceived paymentHash)
        ⟨.markPaid (lib.hexEncode paymentHash), ans⟩) ∈ σ ++ σ₁

section Delivery

variable {Q : NodeQueue} {d : Daemon} {s₀ : Shared} {τ : List DaemonLabel} {W W' : NodeWorld Q}
variable {σ σ' : List NodeLabel} {l : NodeLabel} {queue : Q.State} {paymentHash : ByteArray}

theorem MarkedThenHandled.snoc {lib : Crates} (h : MarkedThenHandled lib paymentHash σ σ') (l : NodeLabel) :
    MarkedThenHandled lib paymentHash σ (σ' ++ [l]) := by
  obtain ⟨σ₁, σ₂, id, result, ans, rfl, hmarked⟩ := h
  exact ⟨σ₁, σ₂ ++ [l], id, result, ans, by simp, hmarked⟩

/-- A payment leaves the queue only where its handler confirms it, which has put it to the
    ledger. -/
theorem NodeStep.pending (hs : NodeStep d W l W') (hqueue : Q.Documented) (h : Attends σ W)
    (hrun : DaemonRun d s₀ τ W.daemon)
    (hpending : Q.pending W.queue (.paymentReceived paymentHash)) :
    Q.pending W'.queue (.paymentReceived paymentHash) ∨
      ∃ id result ans,
        l = .thread (.call id (.paymentReceived paymentHash) ⟨.eventHandled, result⟩) ∧
          .thread (.call id (.paymentReceived paymentHash)
            ⟨.markPaid (d.lib.hexEncode paymentHash), ans⟩) ∈ σ := by
  cases hs with
  | arrive act => exact Or.inl (hqueue.keep_arrive hpending act)
  | log waiting next => exact Or.inl hpending
  | logged logging act =>
    exact Or.inl (hqueue.keep_handled (h.logging _ logging) act hpending (by simp))
  | @thread l w queue loop step follow =>
    have hsame : queue = W.queue → Q.pending queue (.paymentReceived paymentHash) := by
      rintro rfl
      exact hpending
    cases step with
    | start job =>
      rcases job.payment_or_other with ⟨hash, rfl⟩ | hother
      · exact Or.inl (hsame follow.2.2.1)
      · exact Or.inl (hsame ((NodeQueue.follows_start hother).mp follow).1)
    | @call id job hist op k ans s' thread act =>
      by_cases hjob : (∀ hash, job ≠ .paymentReceived hash) ∨ op ≠ .eventHandled
      · exact Or.inl (hsame ((NodeQueue.follows_call hjob).mp follow).1)
      · -- the handler of the next event confirms it
        push Not at hjob
        obtain ⟨⟨hash, rfl⟩, rfl⟩ := hjob
        obtain ⟨-, hnext, marked, hmarked⟩ := h.eventHandled hrun thread
        by_cases heq : hash = paymentHash
        · subst heq
          exact Or.inr ⟨id, ans, marked, rfl, hmarked⟩
        · exact Or.inl (hqueue.keep_handled hnext follow.1 hpending (by simpa using Ne.symm heq))
    | @answer id job hist resp thread =>
      rcases job.payment_or_other with ⟨hash, rfl⟩ | hother
      · obtain ⟨-, running, rfl⟩ := (onPaymentReceived_acknowledges d.lib hash).result
          (hrun.traced _ _ thread).reaches
        exact Or.inl (hsame follow.1)
      · exact Or.inl (hsame ((NodeQueue.follows_answer hother).mp follow).1)
    | env act => exact Or.inl (hsame follow.1)
    | restart act => exact Or.inl (hqueue.keep_restart hpending follow.1)

/-- What was queued or arrived is queued still or was delivered. -/
theorem NodeRun.delivered (hrest : NodeRun d W σ' W') (hqueue : Q.Documented) (h : Attends σ W)
    (hrun : DaemonRun d s₀ τ W.daemon)
    (hevent : Q.pending W.queue (.paymentReceived paymentHash) ∨
      .arrive (.paymentReceived paymentHash) ∈ σ') :
    Q.pending W'.queue (.paymentReceived paymentHash) ∨
      MarkedThenHandled d.lib paymentHash σ σ' := by
  induction hrest with
  | refl => exact Or.inl (hevent.resolve_right (by simp))
  | @snoc σ' W₁ W₂ l hr hs ih =>
    by_cases hbefore : Q.pending W.queue (.paymentReceived paymentHash) ∨
        .arrive (.paymentReceived paymentHash) ∈ σ'
    · rcases ih hbefore with hpending | hdelivered
      · have hwhole : DaemonRun d s₀ _ W₁.daemon := hrun.trans hr.daemon
        rcases hs.pending hqueue (h.run hqueue hrun hr) hwhole hpending with hkept | hconfirmed
        · exact Or.inl hkept
        · obtain ⟨id, result, ans, rfl, hmarked⟩ := hconfirmed
          exact Or.inr ⟨σ', [], id, result, ans, rfl, hmarked⟩
      · exact Or.inr (hdelivered.snoc l)
    · -- the event has just arrived
      push Not at hbefore
      rcases hevent with hpending | harrived
      · exact absurd hpending hbefore.1
      · rcases List.mem_append.mp harrived with hmem | hmem
        · exact absurd hmem hbefore.2
        · obtain rfl := List.mem_singleton.mp hmem
          cases hs with
          | arrive act => exact Or.inl (hqueue.pending_arrive act)

end Delivery

/-! ### What a delivered payment has done -/

section Settled

variable {Q : NodeQueue} {d : Daemon} {s₀ : Shared} {W W' : NodeWorld Q} {σ σ' : List NodeLabel}
variable {queue : Q.State} {paymentHash : ByteArray} {p : PurchaseRecord}

/-- A payment that was queued while the loop waited and is not queued any more has set the
    flag of its purchase, within one lifetime in which the lock is sound, whether or not
    anything could be persisted. -/
theorem drained_payment_settled (hqueue : Q.Documented) (hopened : Opened d s₀)
    (hjson : .thread .restart ∈ σ → d.lib.Lossless) (hrun : NodeRun d (.initial s₀ queue) σ W)
    (hrest : NodeRun d W σ' W') (hwaiting : W.loop = .waiting)
    (hhealthy : W.daemon.shared.poisoned = false) (hlife : .thread .restart ∉ σ')
    (hpoison : .thread (.env .poison) ∉ σ')
    (hfresh : Fresh d.lib s₀.store.state ((σ ++ σ').filterMap NodeLabel.thread?))
    (hqueued : Q.pending W.queue (.paymentReceived paymentHash))
    (hdrained : ¬ Q.pending W'.queue (.paymentReceived paymentHash))
    (hp : W.daemon.shared.store.getPurchase (d.lib.hexEncode paymentHash) = some p) :
    W'.daemon.shared.store.getPurchase (d.lib.hexEncode paymentHash) =
      some { p with paid := true } := by
  have hbase : DaemonRun d s₀ (σ.filterMap NodeLabel.thread?) W.daemon := hrun.daemon
  have hthreads := hrest.daemon
  -- the payment left the queue by being confirmed, so it was put to the ledger in this stretch
  have hwaited : Attends [] W := (hrun.attends hqueue).forget hwaiting
  obtain ⟨σ₁, σ₂, id, result, ans, rfl, hmark⟩ :=
    (hrest.delivered hqueue hwaited hbase (Or.inl hqueued)).resolve_left hdrained
  have hmarked : .call id (.paymentReceived paymentHash)
      ⟨.markPaid (d.lib.hexEncode paymentHash), ans⟩ ∈
        (σ₁ ++ .thread (.call id (.paymentReceived paymentHash) ⟨.eventHandled, result⟩) ::
          σ₂).filterMap NodeLabel.thread? :=
    mem_threads.mpr (List.mem_append_left _ hmark)
  -- and the sound lock let it through
  have hanswered : ans ≠ none :=
    (Run.section_answered hhealthy hthreads (fun hmem => hpoison (mem_threads.mp hmem))).2 id _ _
      ans hmarked
  obtain ⟨changed, rfl⟩ := Option.ne_none_iff_exists'.mp hanswered
  have hchange : .markPaid (d.lib.hexEncode paymentHash) ∈ changesOf ((σ₁ ++
      .thread (.call id (.paymentReceived paymentHash) ⟨.eventHandled, result⟩) ::
        σ₂).filterMap NodeLabel.thread?) := by
    refine List.mem_filterMap.mpr ⟨.change (.markPaid (d.lib.hexEncode paymentHash)) changed.isOk,
      ?_, rfl⟩
    exact List.mem_filterMap.mpr ⟨_, hmarked, rfl⟩
  rw [List.filterMap_append] at hfresh
  have hdecides := hbase.flag_decided hopened (fun hmem => hjson (mem_threads.mp hmem)) hthreads
    (fun hmem => hlife (mem_threads.mp hmem)) hfresh hp
  rw [hdecides, decide_eq_true hchange, Bool.or_true]

end Settled

/-! ### A payment from its arrival on -/

/-- A run of the daemon that the loop does not follow is one beside it. -/
theorem Run.beside_loop {Q : NodeQueue} {d : Daemon} {w w' : DaemonWorld} {τ : List DaemonLabel}
    {queue : Q.State} {loop : LoopState} (h : Run (system d) w τ w')
    (hfollow : ∀ l ∈ τ, Q.Follows queue loop l queue loop) :
    NodeRun d (Q := Q) ⟨w, queue, loop⟩ (τ.map .thread) ⟨w', queue, loop⟩ := by
  induction h with
  | refl => exact .refl
  | @snoc τ w₁ w₂ l hr hs ih =>
    have hbefore := ih fun l' hl' => hfollow l' (List.mem_append_left _ hl')
    rw [List.map_append]
    exact hbefore.snoc (.thread hs (hfollow l List.mem_concat_self))

namespace Sample

/-- A queue in memory, and as it was stored. -/
structure EventQueue where
  memory : List NodeEvent
  disk : List NodeEvent
  kept : memory ⊆ disk

def noEvents : EventQueue := ⟨[], [], List.Subset.refl _⟩

/-- The queue takes out the first event and stores what is left; where it cannot, the event
    is gone from memory only. -/
def eventQueue : NodeQueue where
  State := EventQueue
  pending q e := e ∈ q.memory
  next q e := q.memory.head? = some e
  handled q result q' := q'.memory = q.memory.tail ∧
    q'.disk = match result with
      | .ok () => q.memory.tail
      | .error _ => q.disk
  arrive q e q' := q'.memory = q.memory ++ [e] ∧ q'.disk = q.memory ++ [e]
  restart q q' := q'.memory = q.disk ∧ q'.disk = q.disk

theorem eventQueue_documented : eventQueue.Documented where
  next_arrive := by
    intro q q' e e' hnext hact
    simp only [eventQueue] at hnext hact ⊢
    rw [hact.1, List.head?_append, hnext, Option.some_or]
  pending_arrive := by
    intro q q' e hact
    simp only [eventQueue] at hact ⊢
    rw [hact.1]
    exact List.mem_concat_self
  keep_arrive := by
    intro q q' e e' hpending hact
    simp only [eventQueue] at hpending hact ⊢
    rw [hact.1]
    exact List.mem_append_left _ hpending
  keep_handled := by
    intro q q' e e' result hnext hact hpending hne
    simp only [eventQueue] at hnext hact hpending ⊢
    rw [← List.cons_head?_tail hnext] at hpending
    rw [hact.1]
    exact (List.mem_cons.mp hpending).resolve_left hne
  keep_restart := by
    intro q q' e hpending hact
    simp only [eventQueue] at hpending hact ⊢
    rw [hact.1]
    exact q.kept hpending

def paid : NodeEvent := .paymentReceived paymentHash

/-- The payment of the sale is in the queue. -/
def onePayment : EventQueue := ⟨[paid], [paid], List.Subset.refl _⟩

/-- The state in which the event loop has marked the sale. -/
def afterMark : Shared where
  store := ⟨dir, settled⟩
  files := (markSale.run json ⟨0, none⟩ ⟨dir, sold⟩ afterSale.files).2.2
  poisoned := false
  payments := []

theorem mark_afterSale :
    act (daemon upload) afterSale (.markPaid hash) (some (.ok true)) afterMark :=
  Or.inr ⟨rfl, ⟨0, none⟩, rfl, rfl⟩

def markTrace (id : Nat) : List NodeLabel :=
  [.thread (.start id (.paymentReceived paymentHash)),
    .thread (.call id (.paymentReceived paymentHash) ⟨.markPaid hash, some (.ok true)⟩)]

/-- The loop marks and confirms the payment. -/
def settleTrace (id : Nat) : List NodeLabel :=
  markTrace id ++
    [.thread (.call id (.paymentReceived paymentHash) ⟨.eventHandled, .ok ()⟩),
      .thread (.answer id (.paymentReceived paymentHash) (.eventLoop true))]

/-- The sale, and then its payment comes in. -/
def arrivalTrace : List NodeLabel := saleTrace.map .thread ++ [.arrive paid]

def settling (w : DaemonWorld) : NodeWorld eventQueue := ⟨w, onePayment, .waiting⟩

theorem arrival_run : ∃ w, NodeRun (daemon upload) (Q := eventQueue) (.initial onSale noEvents)
    arrivalTrace (settling w) ∧ w.shared = afterSale ∧ w.next = 1 := by
  obtain ⟨w, hrun, hshared, hnext⟩ := sale_run
  have hother : ∀ hash, saleRequest ≠ .paymentReceived hash := by simp [saleRequest]
  have hfollow : ∀ l ∈ saleTrace, eventQueue.Follows noEvents .waiting l noEvents .waiting := by
    intro l hl
    simp only [saleTrace, served, List.mem_append, List.mem_cons, List.mem_map, List.not_mem_nil,
      or_false] at hl
    rcases hl with (rfl | ⟨c, -, rfl⟩) | rfl
    · exact (NodeQueue.follows_start hother).mpr ⟨rfl, rfl⟩
    · exact (NodeQueue.follows_call (Or.inl hother)).mpr ⟨rfl, rfl⟩
    · exact (NodeQueue.follows_answer hother).mpr ⟨rfl, rfl⟩
  have harrive : eventQueue.arrive noEvents paid onePayment := ⟨rfl, rfl⟩
  exact ⟨w, (Run.beside_loop hrun hfollow).snoc (.arrive harrive), hshared, hnext⟩

/-- What is left of the handler once the payment is marked. -/
def confirming : Handler Response :=
  .call .eventHandled fun
    | .ok () => .done (.eventLoop true)
    | .error _ => .done (.eventLoop false)

theorem mark_run {w : DaemonWorld} {s : Shared}
    (hmark : act (daemon upload) w.shared (.markPaid hash) (some (.ok true)) s) :
    ∃ w' h, NodeRun (daemon upload) (settling w) (markTrace w.next)
        ⟨w', onePayment, .handling w.next⟩ ∧
      w'.threads w.next = some ⟨.paymentReceived paymentHash, h, confirming⟩ ∧ w'.shared = s ∧
      w'.next = w.next + 1 := by
  have hstart := Step.start (S := system (daemon upload)) w (.paymentReceived paymentHash)
  have hstarted : NodeRun (daemon upload) (settling w) _ _ :=
    NodeRun.refl.snoc (.thread hstart ⟨rfl, rfl, rfl, rfl⟩)
  have hmarked := hstarted.snoc (.thread (.call (Function.update_self _ _ _) hmark) ⟨rfl, rfl⟩)
  exact ⟨_, _, hmarked, Function.update_self _ _ _, rfl, rfl⟩

theorem settle_run {w : DaemonWorld} {s : Shared}
    (hmark : act (daemon upload) w.shared (.markPaid hash) (some (.ok true)) s) :
    ∃ w', NodeRun (daemon upload) (settling w) (settleTrace w.next)
      ⟨w', noEvents, .waiting⟩ ∧ w'.shared = s := by
  obtain ⟨w₁, h, hmarked, hthread, hshared, -⟩ := mark_run hmark
  have hack : act (daemon upload) w₁.shared .eventHandled (.ok ()) w₁.shared := rfl
  have hpopped : eventQueue.Follows onePayment (.handling w.next)
      (.call w.next (.paymentReceived paymentHash) ⟨.eventHandled, .ok ()⟩) noEvents
        (.returning w.next) := ⟨⟨rfl, rfl⟩, rfl⟩
  have hhandled := hmarked.snoc (.thread (.call hthread hack) hpopped)
  have hanswered := hhandled.snoc (.thread (.answer (Function.update_self _ _ _)) ⟨rfl, rfl⟩)
  exact ⟨_, hanswered, hshared⟩

end Sample

/-- The sale of the track is marked once its payment has left the queue. -/
theorem drained_payment_settled_sale :
    Sample.afterMark.store.getPurchase Sample.hash = some { Sample.sale with paid := true } := by
  obtain ⟨w, hrun, hshared, hnext⟩ := Sample.arrival_run
  have hmark : act (Sample.daemon Sample.upload) w.shared (.markPaid Sample.hash)
      (some (.ok true)) Sample.afterMark := by
    rw [hshared]
    exact Sample.mark_afterSale
  obtain ⟨w', hrest, hshared'⟩ := Sample.settle_run hmark
  rw [hnext] at hrest
  have hthreads : (Sample.arrivalTrace ++ Sample.settleTrace 1).filterMap NodeLabel.thread? =
      Sample.saleTrace ++ served 1 (.paymentReceived Sample.paymentHash)
        [⟨.markPaid Sample.hash, some (.ok true)⟩, ⟨.eventHandled, .ok ()⟩] (.eventLoop true) := by
    have hsale : (Sample.saleTrace.map NodeLabel.thread).filterMap NodeLabel.thread? =
        Sample.saleTrace := by
      rw [List.filterMap_map]
      exact List.filterMap_some
    rw [Sample.arrivalTrace, List.filterMap_append, List.filterMap_append, hsale, List.append_assoc]
    rfl
  have hfresh : Fresh (Sample.daemon Sample.upload).lib Sample.onSale.store.state
      ((Sample.arrivalTrace ++ Sample.settleTrace 1).filterMap NodeLabel.thread?) := by
    rw [hthreads]
    exact Sample.fresh_sale.append_served fun _ _ heq => by cases heq
  have hp : (Sample.settling w).daemon.shared.store.getPurchase
      ((Sample.daemon Sample.upload).lib.hexEncode Sample.paymentHash) = some Sample.sale := by
    simp only [Sample.settling, hshared]
    exact congrArg (Sample.afterSale.store.getPurchase ·) Sample.encode_paymentHash
  have hhealthy : (Sample.settling w).daemon.shared.poisoned = false := by
    simp only [Sample.settling, hshared]
    rfl
  have hsettled := drained_payment_settled Sample.eventQueue_documented
    (Sample.opened_onSale Sample.upload) (fun _ => Sample.json_lossless) hrun hrest rfl hhealthy
    (by simp [Sample.settleTrace, Sample.markTrace])
    (by simp [Sample.settleTrace, Sample.markTrace]) hfresh (List.mem_singleton_self _)
    (by simp [Sample.eventQueue, Sample.noEvents]) hp
  simp only [hshared'] at hsettled
  exact (congrArg (Sample.afterMark.store.getPurchase ·) Sample.encode_paymentHash).symm.trans
    hsettled

end ArtistNode
