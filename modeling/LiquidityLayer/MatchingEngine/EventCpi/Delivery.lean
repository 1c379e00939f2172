import Mathlib.Data.List.Nodup
import LiquidityLayer.MatchingEngine.EventCpi.Dedup
import LiquidityLayer.MatchingEngine.EventCpi.Queue

/-! What reaches the callback over whole runs. While a slot is kept, `onLogs` enqueues each of
its signatures at most once, whatever the interleaving. In a run whose handlers do not
overlap, the entries the handlers examine, and whose events they pass to the callback, leave
the queue in order, each once. So from a fresh subscription no signature of a kept slot is
examined twice; overlapping handlers break this. -/

namespace LiquidityLayer.MatchingEngine.OnEventCpi

/-- The signatures a list of effects enqueues for `eventSlot`, in order. -/
def enqueuedIn (eventSlot : Nat) (effects : List Effect) : List String :=
  ((enqueuedOf effects).filter fun tx => tx.eventSlot = eventSlot).map UnprocessedTx.signature

@[simp] theorem enqueuedIn_append (eventSlot : Nat) (effects effects' : List Effect) :
    enqueuedIn eventSlot (effects ++ effects') =
      enqueuedIn eventSlot effects ++ enqueuedIn eventSlot effects' := by
  simp [enqueuedIn]

/-- The entry an effect examined, if it is a `dequeue()`: the head its handler read before
its `await`, under whose signature and slot it then calls the callback. -/
@[simp] def Effect.examinedTx : Effect → Option UnprocessedTx
  | .enqueued _ => none
  | .dequeued _ examined => some examined
  | .callback _ _ _ => none
  | .cleanedUp _ => none

/-- The entries the `dequeue()` calls of a list of effects examined, in order. -/
def examinedOf (effects : List Effect) : List UnprocessedTx := effects.filterMap Effect.examinedTx

@[simp] theorem examinedOf_append (effects effects' : List Effect) :
    examinedOf (effects ++ effects') = examinedOf effects ++ examinedOf effects' :=
  List.filterMap_append _ _ _

/-- Where every `dequeue()` removes the entry it examined, the examined entries are the removed
ones. -/
theorem examinedOf_eq_removedOf {effects : List Effect} (h : DequeuesExamined effects) :
    examinedOf effects = removedOf effects := by
  induction effects with
  | nil => rfl
  | cons effect effects ih =>
      have hRest : examinedOf effects = removedOf effects :=
        ih fun removed examined hMem => h removed examined (.tail _ hMem)
      cases effect with
      | dequeued removed examined =>
          rw [h removed examined (.head _)] at *
          simp [examinedOf, removedOf_cons, ← hRest]
      | _ => simpa [examinedOf, removedOf_cons] using hRest

theorem enqueuedOf_resume (program : EventProgram) (handler : SlotHandler)
    (parsedTx : Option ParsedTransactionWithMeta) (l : Listener) :
    enqueuedOf (resume program handler parsedTx l).2 = [] := by
  cases parsedTx with
  | none => rfl
  | some parsedTx =>
      cases hFind : findEvents program parsedTx with
      | none => simp [resume_of_findEvents_none handler l hFind]
      | some events =>
          simp [resume_of_findEvents_some handler l hFind,
            (loop_queue handler.slot { l with unprocessedTxs := l.unprocessedTxs.dequeue }).2.1]

/-- What a step can enqueue: nothing, or, for a notification of a signature its slot has not
observed, that signature and slot. -/
theorem enqueuedOf_step (program : EventProgram) (l : Listener) (action : Action) :
    enqueuedOf (step program l action).2 = [] ∨
      ∃ signature eventSlot, action = .logs signature eventSlot ∧
        signature ∉ l.observed eventSlot ∧
        enqueuedOf (step program l action).2 = [⟨signature, eventSlot⟩] := by
  cases action with
  | logs signature eventSlot =>
      by_cases hObserved : signature ∈ l.observed eventSlot
      · exact .inl (by simp [step, onLogs_of_mem_observed hObserved])
      · exact .inr ⟨signature, eventSlot, rfl, hObserved,
          by simp [step, onLogs_of_not_mem_observed hObserved]⟩
  | slotChange slot => exact .inl (loop_queue slot l).2.1
  | resolve i parsedTx =>
      refine .inl ?_
      simp only [step]
      split
      · rfl
      · exact enqueuedOf_resume program _ parsedTx _
  | reject i =>
      refine .inl ?_
      simp only [step]
      split <;> rfl

/-- What effects from `l` to `l'` enqueue for `eventSlot`: pairwise distinct signatures, none
observed for it in `l`, each observed for it in `l'`. -/
structure EnqueuesFresh (eventSlot : Nat) (l l' : Listener) (effects : List Effect) : Prop where
  nodup : (enqueuedIn eventSlot effects).Nodup
  fresh : ∀ signature ∈ enqueuedIn eventSlot effects, signature ∉ l.observed eventSlot
  observed : enqueuedIn eventSlot effects ⊆ l'.observed eventSlot

/-- Two stretches of a run that each enqueue fresh signatures, where the observed set only grows,
together enqueue fresh signatures. -/
theorem EnqueuesFresh.append {eventSlot : Nat} {l l' l'' : Listener}
    {effects effects' : List Effect} (h : EnqueuesFresh eventSlot l l' effects)
    (h' : EnqueuesFresh eventSlot l' l'' effects')
    (hGrows : l.observed eventSlot ⊆ l'.observed eventSlot)
    (hKeeps : l'.observed eventSlot ⊆ l''.observed eventSlot) :
    EnqueuesFresh eventSlot l l'' (effects ++ effects') where
  nodup := by
    rw [enqueuedIn_append]
    exact List.nodup_append.mpr ⟨h.nodup, h'.nodup, fun signature hFirst hLater =>
      h'.fresh signature hLater (h.observed hFirst)⟩
  fresh signature hMem := by
    rw [enqueuedIn_append] at hMem
    rcases List.mem_append.mp hMem with hFirst | hLater
    · exact h.fresh signature hFirst
    · exact fun hObserved => h'.fresh signature hLater (hGrows hObserved)
  observed := by
    rw [enqueuedIn_append]
    exact List.append_subset.mpr ⟨h.observed.trans hKeeps, h'.observed⟩

theorem step_enqueuesFresh (program : EventProgram) (l : Listener) (action : Action)
    (eventSlot : Nat) :
    EnqueuesFresh eventSlot l (step program l action).1 (step program l action).2 := by
  rcases enqueuedOf_step program l action with hNone | ⟨signature, slot, rfl, hFresh, hOne⟩
  · constructor <;> simp [enqueuedIn, hNone]
  · by_cases hSlot : slot = eventSlot
    · subst hSlot
      have hAdded : signature ∈ (step program l (.logs signature slot)).1.observed slot := by
        show signature ∈ (onLogs l signature slot).1.observed slot
        rw [onLogs_observed, if_pos rfl]
        exact mem_addSignature.mpr (.inr rfl)
      exact ⟨by simp [enqueuedIn, hOne], by simpa [enqueuedIn, hOne] using hFresh,
        by simpa [enqueuedIn, hOne] using hAdded⟩
    · constructor <;> simp [enqueuedIn, hOne, hSlot]

theorem run_enqueuesFresh (program : EventProgram) (l : Listener) (actions : List Action)
    (eventSlot : Nat)
    (hKept : ∀ effect ∈ (run program l actions).2, effect.evicts eventSlot = false) :
    EnqueuesFresh eventSlot l (run program l actions).1 (run program l actions).2 := by
  induction actions generalizing l with
  | nil => constructor <;> simp [enqueuedIn]
  | cons action actions ih =>
      rw [run_cons] at hKept ⊢
      obtain ⟨hKeptStep, hKeptRest⟩ := List.forall_mem_append.mp hKept
      exact (step_enqueuesFresh program l action eventSlot).append (ih _ hKeptRest)
        (step_observed_subset program l action eventSlot hKeptStep)
        (run_observed_subset program _ actions eventSlot hKeptRest)

/-- Over any run, whatever the interleaving, in which no handler deletes the slot
`eventSlot`: the signatures enqueued for it are pairwise distinct, none was observed for it
when the run began, and each is observed for it when the run ends. -/
theorem run_enqueues_signature_once (program : EventProgram) (l : Listener)
    (actions : List Action) (eventSlot : Nat)
    (hKept : ∀ effect ∈ (run program l actions).2, effect.evicts eventSlot = false) :
    (enqueuedIn eventSlot (run program l actions).2).Nodup ∧
      (∀ signature ∈ enqueuedIn eventSlot (run program l actions).2,
        signature ∉ l.observed eventSlot) ∧
      enqueuedIn eventSlot (run program l actions).2 ⊆
        (run program l actions).1.observed eventSlot :=
  have h := run_enqueuesFresh program l actions eventSlot hKept
  ⟨h.nodup, h.fresh, h.observed⟩

/-- A handler called with slot 2 finds no transaction and cleans up, which keeps slot 1, before
`a` is notified again in slot 1. -/
theorem run_enqueues_signature_once_sample :
    Effect.cleanedUp 2 ∈ (run ⟨PublicKey.new [], fun _ => none⟩ Listener.init
        [.logs "a" 1, .logs "b" 1, .slotChange 2, .resolve 0 none, .logs "a" 1, .slotChange 3]).2 ∧
    (∀ effect ∈ (run ⟨PublicKey.new [], fun _ => none⟩ Listener.init
        [.logs "a" 1, .logs "b" 1, .slotChange 2, .resolve 0 none, .logs "a" 1, .slotChange 3]).2,
        effect.evicts 1 = false) ∧
      enqueuedIn 1 (run ⟨PublicKey.new [], fun _ => none⟩ Listener.init
        [.logs "a" 1, .logs "b" 1, .slotChange 2, .resolve 0 none, .logs "a" 1, .slotChange 3]).2 = ["a", "b"] ∧
      (enqueuedIn 1 (run ⟨PublicKey.new [], fun _ => none⟩ Listener.init
        [.logs "a" 1, .logs "b" 1, .slotChange 2, .resolve 0 none, .logs "a" 1, .slotChange 3]).2).Nodup :=
  have hKept : ∀ effect ∈ (run ⟨PublicKey.new [], fun _ => none⟩ Listener.init
      [.logs "a" 1, .logs "b" 1, .slotChange 2, .resolve 0 none, .logs "a" 1, .slotChange 3]).2,
      effect.evicts 1 = false := by decide
  ⟨by decide, hKept, by decide, (run_enqueues_signature_once _ _ _ _ hKept).1⟩

/-- A serial run from a serial state: the entries its handlers examine, followed by the queue
at its end, are the queue at its start followed by the entries it enqueued. -/
theorem serial_run_examinedOf (program : EventProgram) (l : Listener) (actions : List Action)
    (hSerial : Serial l) (hRun : SerialRun program l actions) :
    examinedOf (run program l actions).2 ++ (run program l actions).1.unprocessedTxs.items =
      l.unprocessedTxs.items ++ enqueuedOf (run program l actions).2 := by
  induction actions generalizing l with
  | nil => simp [examinedOf]
  | cons action actions ih =>
      obtain ⟨hStart, hRest⟩ := hRun
      obtain ⟨hSerial', hStep⟩ := step_serial program l action hSerial hStart
      rw [run_cons, examinedOf_append, enqueuedOf_append, examinedOf_eq_removedOf hStep,
        List.append_assoc, ih _ hSerial' hRest, ← List.append_assoc, ← step_queue,
        List.append_assoc]

/-- From a fresh subscription, over a serial run in which no handler deletes the slot
`eventSlot`, the handlers examine no signature of that slot twice, so no transaction of it has
its events passed to the callback twice. -/
theorem serial_run_examines_signature_once (program : EventProgram) (actions : List Action)
    (eventSlot : Nat) (hRun : SerialRun program Listener.init actions)
    (hKept : ∀ effect ∈ (run program Listener.init actions).2, effect.evicts eventSlot = false) :
    (((examinedOf (run program Listener.init actions).2).filter fun tx =>
        tx.eventSlot = eventSlot).map UnprocessedTx.signature).Nodup := by
  have hPrefix : examinedOf (run program Listener.init actions).2 <+:
      enqueuedOf (run program Listener.init actions).2 :=
    ⟨_, serial_run_examinedOf program Listener.init actions (.inl rfl) hRun⟩
  exact ((hPrefix.sublist.filter _).map _).nodup
    (run_enqueuesFresh program Listener.init actions eventSlot hKept).nodup

/-- One handler called with slot 2 examines `a`, then `b`, then finds the queue empty and cleans
up, which keeps slot 1; `a` is notified again in between. -/
theorem serial_run_examines_signature_once_sample :
    SerialRun ⟨PublicKey.new [], fun _ => none⟩ Listener.init
        [.logs "a" 1, .logs "b" 1, .slotChange 2, .resolve 0 (some ⟨some ⟨some []⟩⟩),
          .logs "a" 1, .resolve 0 (some ⟨some ⟨some []⟩⟩)] ∧
      Effect.cleanedUp 2 ∈ (run ⟨PublicKey.new [], fun _ => none⟩ Listener.init
        [.logs "a" 1, .logs "b" 1, .slotChange 2, .resolve 0 (some ⟨some ⟨some []⟩⟩),
          .logs "a" 1, .resolve 0 (some ⟨some ⟨some []⟩⟩)]).2 ∧
      (∀ effect ∈ (run ⟨PublicKey.new [], fun _ => none⟩ Listener.init
        [.logs "a" 1, .logs "b" 1, .slotChange 2, .resolve 0 (some ⟨some ⟨some []⟩⟩),
          .logs "a" 1, .resolve 0 (some ⟨some ⟨some []⟩⟩)]).2, effect.evicts 1 = false) ∧
      (((examinedOf (run ⟨PublicKey.new [], fun _ => none⟩ Listener.init
        [.logs "a" 1, .logs "b" 1, .slotChange 2, .resolve 0 (some ⟨some ⟨some []⟩⟩),
          .logs "a" 1, .resolve 0 (some ⟨some ⟨some []⟩⟩)]).2).filter fun tx =>
            tx.eventSlot = 1).map UnprocessedTx.signature).Nodup :=
  have hRun : SerialRun ⟨PublicKey.new [], fun _ => none⟩ Listener.init
      [.logs "a" 1, .logs "b" 1, .slotChange 2, .resolve 0 (some ⟨some ⟨some []⟩⟩),
        .logs "a" 1, .resolve 0 (some ⟨some ⟨some []⟩⟩)] := by
    simp [SerialRun]
    decide
  have hKept : ∀ effect ∈ (run ⟨PublicKey.new [], fun _ => none⟩ Listener.init
      [.logs "a" 1, .logs "b" 1, .slotChange 2, .resolve 0 (some ⟨some ⟨some []⟩⟩),
        .logs "a" 1, .resolve 0 (some ⟨some ⟨some []⟩⟩)]).2, effect.evicts 1 = false := by decide
  ⟨hRun, by decide, hKept, serial_run_examines_signature_once _ _ _ hRun hKept⟩

end LiquidityLayer.MatchingEngine.OnEventCpi
