import LiquidityLayer.MatchingEngine.EventCpi.Listener

/-! The queue of unprocessed transactions: what each step enqueues and removes. Only while no
handler starts before the previous one has finished does each `dequeue()` remove the entry its
handler examined: two handlers suspended on the same head remove two entries for it, and
dispatch its events twice. -/

namespace LiquidityLayer.MatchingEngine.OnEventCpi

/-- The entry an effect enqueues, if it is an `enqueue`. -/
@[simp] def Effect.enqueuedTx : Effect → Option UnprocessedTx
  | .enqueued tx => some tx
  | .dequeued _ _ => none
  | .callback _ _ _ => none
  | .cleanedUp _ => none

/-- The entry an effect removes, if it is a `dequeue()` on a non-empty queue. -/
@[simp] def Effect.removedTx : Effect → Option UnprocessedTx
  | .enqueued _ => none
  | .dequeued removed _ => removed
  | .callback _ _ _ => none
  | .cleanedUp _ => none

/-- The entries a list of effects enqueues, in order. -/
def enqueuedOf (effects : List Effect) : List UnprocessedTx := effects.filterMap Effect.enqueuedTx

/-- The entries the `dequeue()` calls of a list of effects remove, in order. -/
def removedOf (effects : List Effect) : List UnprocessedTx := effects.filterMap Effect.removedTx

/-- What a handler does with an entry it examined and found at the head: it removes it and
passes its events to the callback. -/
def handled (tx : UnprocessedTx) (events : List MatchingEngineEvent) : List Effect :=
  .dequeued (some tx) tx :: callbacks tx events

@[simp] theorem enqueuedOf_nil : enqueuedOf [] = [] := rfl

@[simp] theorem removedOf_nil : removedOf [] = [] := rfl

@[simp] theorem enqueuedOf_cons (effect : Effect) (effects : List Effect) :
    enqueuedOf (effect :: effects) = effect.enqueuedTx.toList ++ enqueuedOf effects := by
  cases effect <;> rfl

@[simp] theorem removedOf_cons (effect : Effect) (effects : List Effect) :
    removedOf (effect :: effects) = effect.removedTx.toList ++ removedOf effects := by
  cases effect with
  | dequeued removed examined => cases removed <;> rfl
  | _ => rfl

@[simp] theorem enqueuedOf_append (effects effects' : List Effect) :
    enqueuedOf (effects ++ effects') = enqueuedOf effects ++ enqueuedOf effects' :=
  List.filterMap_append _ _ _

@[simp] theorem removedOf_append (effects effects' : List Effect) :
    removedOf (effects ++ effects') = removedOf effects ++ removedOf effects' :=
  List.filterMap_append _ _ _

@[simp] theorem enqueuedOf_callbacks (tx : UnprocessedTx) (events : List MatchingEngineEvent) :
    enqueuedOf (callbacks tx events) = [] := by
  induction events <;> simp_all [callbacks]

@[simp] theorem removedOf_callbacks (tx : UnprocessedTx) (events : List MatchingEngineEvent) :
    removedOf (callbacks tx events) = [] := by
  induction events <;> simp_all [callbacks]

theorem loop_queue (slot : Nat) (l : Listener) :
    (loop slot l).1.unprocessedTxs = l.unprocessedTxs ∧ enqueuedOf (loop slot l).2 = [] ∧
      removedOf (loop slot l).2 = [] := by
  rcases loop_cases slot l with ⟨-, h⟩ | ⟨head, rest, -, h⟩ <;> rw [h] <;> exact ⟨rfl, rfl, rfl⟩

theorem resume_queue (program : EventProgram) (handler : SlotHandler)
    (parsedTx : Option ParsedTransactionWithMeta) (l : Listener) :
    l.unprocessedTxs.items ++ enqueuedOf (resume program handler parsedTx l).2 =
      removedOf (resume program handler parsedTx l).2 ++
        (resume program handler parsedTx l).1.unprocessedTxs.items := by
  have hHead : l.unprocessedTxs.items = l.unprocessedTxs.items.head?.toList ++ l.unprocessedTxs.items.tail := by
    cases l.unprocessedTxs.items <;> rfl
  cases parsedTx with
  | none => simp [resume_none, cleanUp]
  | some parsedTx =>
      cases hFind : findEvents program parsedTx with
      | none =>
          rw [resume_of_findEvents_none handler l hFind]
          simpa using hHead
      | some events =>
          rw [resume_of_findEvents_some handler l hFind]
          obtain ⟨hQueue, hEnqueued, hRemoved⟩ :=
            loop_queue handler.slot { l with unprocessedTxs := l.unprocessedTxs.dequeue }
          simpa [hQueue, hEnqueued, hRemoved] using hHead

/-- One step: the queue before it, followed by what it enqueues, is what it removes followed by
the queue after it. -/
theorem step_queue (program : EventProgram) (l : Listener) (action : Action) :
    l.unprocessedTxs.items ++ enqueuedOf (step program l action).2 =
      removedOf (step program l action).2 ++ (step program l action).1.unprocessedTxs.items := by
  cases action with
  | logs signature eventSlot =>
      rcases (onLogs_cases l signature eventSlot).2 with ⟨hQueue, hEffects⟩ | ⟨hQueue, hEffects⟩ <;>
        simp [step, hQueue, hEffects]
  | slotChange slot =>
      obtain ⟨hQueue, hEnqueued, hRemoved⟩ := loop_queue slot l
      simp [step, hQueue, hEnqueued, hRemoved]
  | resolve i parsedTx =>
      simp only [step]
      split
      · simp
      · exact resume_queue program _ parsedTx { l with handlers := l.handlers.eraseIdx i }
  | reject i =>
      simp only [step]
      split <;> simp

/-- At most one handler is suspended, and it waits on the queue's head. -/
def Serial (l : Listener) : Prop :=
  l.handlers = [] ∨ ∃ handler, l.handlers = [handler] ∧ l.unprocessedTxs.head = some handler.head

/-- A run in which no slot change starts a handler while another is suspended. -/
def SerialRun (program : EventProgram) : Listener → List Action → Prop
  | _, [] => True
  | l, action :: actions =>
    (∀ slot, action = .slotChange slot → l.handlers = []) ∧
      SerialRun program (step program l action).1 actions

/-- Every `dequeue()` among the effects removes the entry its handler examined. -/
def DequeuesExamined (effects : List Effect) : Prop :=
  ∀ removed examined, Effect.dequeued removed examined ∈ effects → removed = some examined

theorem loop_serial (slot : Nat) (l : Listener) (hIdle : l.handlers = []) :
    Serial (loop slot l).1 ∧ DequeuesExamined (loop slot l).2 := by
  rcases loop_cases slot l with ⟨-, h⟩ | ⟨head, rest, hItems, h⟩ <;> rw [h]
  · exact ⟨.inl hIdle, by simp [DequeuesExamined]⟩
  · exact ⟨.inr ⟨⟨slot, head⟩, by simp [hIdle], by simp [hItems]⟩, by simp [DequeuesExamined]⟩

theorem resume_serial (program : EventProgram) (handler : SlotHandler)
    (parsedTx : Option ParsedTransactionWithMeta) (l : Listener) (hIdle : l.handlers = [])
    (hHead : l.unprocessedTxs.head = some handler.head) :
    Serial (resume program handler parsedTx l).1 ∧
      DequeuesExamined (resume program handler parsedTx l).2 := by
  cases parsedTx with
  | none => exact ⟨.inl hIdle, by simp [resume_none, DequeuesExamined]⟩
  | some parsedTx =>
      cases hFind : findEvents program parsedTx with
      | none =>
          rw [resume_of_findEvents_none handler l hFind]
          exact ⟨.inl hIdle, by simpa [DequeuesExamined] using hHead⟩
      | some events =>
          rw [resume_of_findEvents_some handler l hFind]
          obtain ⟨hSerial, hLoop⟩ :=
            loop_serial handler.slot { l with unprocessedTxs := l.unprocessedTxs.dequeue } hIdle
          refine ⟨hSerial, ?_⟩
          intro removed examined hMem
          simp only [List.cons_append, List.mem_cons, List.mem_append, callbacks, List.mem_map,
            Effect.dequeued.injEq] at hMem
          rcases hMem with ⟨rfl, rfl⟩ | ⟨event, -, hEvent⟩ | hMem
          · simpa using hHead
          · cases hEvent
          · exact hLoop removed examined hMem

/-- One step from a serial state, which starts no handler while one is suspended, keeps the
state serial, and each of its `dequeue()` calls removes the entry its handler examined. -/
theorem step_serial (program : EventProgram) (l : Listener) (action : Action)
    (hSerial : Serial l) (hStart : ∀ slot, action = .slotChange slot → l.handlers = []) :
    Serial (step program l action).1 ∧ DequeuesExamined (step program l action).2 := by
  cases action with
  | logs signature eventSlot =>
      obtain ⟨hHandlers, hQueue⟩ := onLogs_cases l signature eventSlot
      refine ⟨?_, ?_⟩
      · rcases hSerial with hIdle | ⟨handler, hOne, hHead⟩
        · exact .inl (hHandlers.trans hIdle)
        · refine .inr ⟨handler, hHandlers.trans hOne, ?_⟩
          rcases hQueue with ⟨hQueue, -⟩ | ⟨hQueue, -⟩
          · simp only [step, hQueue, hHead]
          · simp only [ArrayQueue.head_eq] at hHead
            simp [step, hQueue, List.head?_append, hHead]
      · rcases hQueue with ⟨-, hEffects⟩ | ⟨-, hEffects⟩ <;>
          simp [step, hEffects, DequeuesExamined]
  | slotChange slot => exact loop_serial slot l (hStart slot rfl)
  | resolve i parsedTx =>
      rcases hSerial with hIdle | ⟨handler, hOne, hHead⟩
      · simp [step, hIdle, DequeuesExamined, Serial]
      · cases i with
        | zero =>
            simp only [step, hOne, List.getElem?_cons_zero, List.eraseIdx_cons_zero]
            exact resume_serial program handler parsedTx _ rfl hHead
        | succ i =>
            simp only [step, hOne, List.getElem?_cons_succ, List.getElem?_nil]
            exact ⟨.inr ⟨handler, hOne, hHead⟩, by simp [DequeuesExamined]⟩
  | reject i =>
      rcases hSerial with hIdle | ⟨handler, hOne, hHead⟩
      · simp [step, hIdle, DequeuesExamined, Serial]
      · cases i with
        | zero =>
            simp only [step, hOne, List.getElem?_cons_zero, List.eraseIdx_cons_zero]
            exact ⟨.inl rfl, by simp [DequeuesExamined]⟩
        | succ i =>
            simp only [step, hOne, List.getElem?_cons_succ, List.getElem?_nil]
            exact ⟨.inr ⟨handler, hOne, hHead⟩, by simp [DequeuesExamined]⟩

/-- A serial run from a serial state: every `dequeue()` removes the entry its handler
examined. -/
theorem serial_run_dequeues_examined (program : EventProgram) (l : Listener)
    (actions : List Action) (hSerial : Serial l) (hRun : SerialRun program l actions) :
    DequeuesExamined (run program l actions).2 := by
  induction actions generalizing l with
  | nil => simp [DequeuesExamined]
  | cons action actions ih =>
      obtain ⟨hStart, hRest⟩ := hRun
      obtain ⟨hSerial', hStep⟩ := step_serial program l action hSerial hStart
      rw [run_cons]
      intro removed examined hMem
      rcases List.mem_append.mp hMem with hMem | hMem
      · exact hStep removed examined hMem
      · exact ih _ hSerial' hRest removed examined hMem

/-- A handler that examines `a`, dequeues it on a transaction with inner instructions, and is
suspended again on `b`, enqueued meanwhile. -/
theorem serial_run_dequeues_examined_init :
    Serial Listener.init ∧ SerialRun ⟨PublicKey.new [], fun _ => none⟩ Listener.init
      [.logs "a" 1, .slotChange 2, .logs "b" 1, .resolve 0 (some ⟨some ⟨some []⟩⟩)] ∧
      Effect.dequeued (some ⟨"a", 1⟩) ⟨"a", 1⟩ ∈ (run ⟨PublicKey.new [], fun _ => none⟩
          Listener.init
          [.logs "a" 1, .slotChange 2, .logs "b" 1, .resolve 0 (some ⟨some ⟨some []⟩⟩)]).2 ∧
      DequeuesExamined (run ⟨PublicKey.new [], fun _ => none⟩ Listener.init
          [.logs "a" 1, .slotChange 2, .logs "b" 1, .resolve 0 (some ⟨some ⟨some []⟩⟩)]).2 :=
  have hSerial : Serial Listener.init := .inl rfl
  have hRun : SerialRun ⟨PublicKey.new [], fun _ => none⟩ Listener.init
      [.logs "a" 1, .slotChange 2, .logs "b" 1, .resolve 0 (some ⟨some ⟨some []⟩⟩)] := by
    simp [SerialRun]
    decide
  ⟨hSerial, hRun, by decide, serial_run_dequeues_examined _ _ _ hSerial hRun⟩

/-- Two log notifications, then a second slot change while the first handler waits on its
RPC: the second handler removes `b` while it dispatches `a` again, and `b`, whose transaction
is not yet available when the first handler reaches it, leaves the queue without ever being
dispatched. -/
theorem onEventCpi_overlapping_slot_changes :
    let program : EventProgram := ⟨PublicKey.new [], fun data => some ⟨"auctionUpdated", data⟩⟩
    let parsedTx : ParsedTransactionWithMeta :=
      ⟨some ⟨some [⟨[⟨PublicKey.new [], some (cpiEventIxSelector ++ [1])⟩]⟩]⟩⟩
    run program Listener.init
        [.logs "a" 1, .logs "b" 1, .slotChange 2, .slotChange 3,
          .resolve 0 (some parsedTx), .resolve 0 (some parsedTx), .resolve 0 none] =
      (⟨⟨[]⟩, ⟨[(1, ["a", "b"])]⟩, []⟩,
        [.enqueued ⟨"a", 1⟩, .enqueued ⟨"b", 1⟩,
          .dequeued (some ⟨"a", 1⟩) ⟨"a", 1⟩, .callback ⟨"auctionUpdated", [1]⟩ 1 "a",
          .dequeued (some ⟨"b", 1⟩) ⟨"a", 1⟩, .callback ⟨"auctionUpdated", [1]⟩ 1 "a",
          .cleanedUp 3, .cleanedUp 2]) := by
  decide

end LiquidityLayer.MatchingEngine.OnEventCpi
