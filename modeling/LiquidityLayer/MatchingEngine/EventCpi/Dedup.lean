import LiquidityLayer.MatchingEngine.EventCpi.Listener

/-! The deduplication of `onLogs` notifications. A signature observed in a slot stays observed
until a handler whose slot lies more than 64 slots later cleans up, and while it is observed a
redelivered notification of it does nothing at all. Over any run the observed map is the one
its effects describe: each enqueue adds its signature to its slot, each clean-up deletes the
slots more than 64 below its own. -/

namespace LiquidityLayer.MatchingEngine.OnEventCpi

/-- `observedTxs.get(eventSlot)`, a missing set read as empty. -/
def Listener.observed (l : Listener) (eventSlot : Nat) : List String :=
  (l.observedTxs.get eventSlot).getD []

/-- Whether an effect is a clean-up that deletes the observed slot `eventSlot`. -/
def Effect.evicts (eventSlot : Nat) : Effect → Bool
  | .cleanedUp slot => eventSlot + 64 < slot
  | _ => false

theorem addSignature_of_contains {set : List String} {signature : String}
    (h : set.contains signature) : addSignature set signature = set := by
  rw [addSignature, if_pos h]

/-- Creating an empty set for a slot not yet in the map changes no slot's signatures. -/
theorem getD_prepare (map : JsMap Nat (List String)) (eventSlot slot : Nat) :
    ((if map.has eventSlot then map else map.set eventSlot []).get slot).getD [] =
      (map.get slot).getD [] := by
  split
  · rfl
  · rename_i hHas
    rw [JsMap.get_set]
    split
    · subst slot
      simp [JsMap.has] at hHas
      simp [hHas]
    · rfl

/-- What a notification does to the observed sets: it adds its signature to its slot's set. -/
theorem onLogs_observed (l : Listener) (signature : String) (eventSlot slot : Nat) :
    (onLogs l signature eventSlot).1.observed slot =
      if slot = eventSlot then addSignature (l.observed eventSlot) signature
      else l.observed slot := by
  have hPrep := getD_prepare l.observedTxs eventSlot
  unfold onLogs
  generalize (if l.observedTxs.has eventSlot then l.observedTxs else l.observedTxs.set eventSlot []) =
    prepared at hPrep
  dsimp only
  split
  · rename_i hContains
    simp only [Listener.observed, hPrep] at hContains ⊢
    split
    · subst slot
      rw [addSignature_of_contains hContains]
    · rfl
  · simp only [Listener.observed, JsMap.get_set, hPrep]
    split
    · subst slot
      rfl
    · exact hPrep slot

/-- A notification of a signature already observed in its slot changes nothing. -/
theorem onLogs_of_mem_observed {l : Listener} {signature : String} {eventSlot : Nat}
    (h : signature ∈ l.observed eventSlot) : onLogs l signature eventSlot = (l, []) := by
  have hGet : ∃ observed, l.observedTxs.get eventSlot = some observed ∧ signature ∈ observed := by
    unfold Listener.observed at h
    cases hGet : l.observedTxs.get eventSlot with
    | none => simp [hGet] at h
    | some observed => exact ⟨observed, rfl, by simpa [hGet] using h⟩
  obtain ⟨observed, hGet, hMem⟩ := hGet
  have hHas : l.observedTxs.has eventSlot := by simp [JsMap.has, hGet]
  simp [onLogs, hHas, hGet, hMem]

/-- A notification of a signature not yet observed in its slot enqueues it. -/
theorem onLogs_of_not_mem_observed {l : Listener} {signature : String} {eventSlot : Nat}
    (h : signature ∉ l.observed eventSlot) :
    (onLogs l signature eventSlot).2 = [.enqueued ⟨signature, eventSlot⟩] := by
  have hPrep := getD_prepare l.observedTxs eventSlot eventSlot
  unfold onLogs
  generalize
    (if l.observedTxs.has eventSlot then l.observedTxs else l.observedTxs.set eventSlot []) =
      prepared at hPrep
  dsimp only
  split
  · rename_i hContains
    rw [hPrep] at hContains
    exact absurd (by simpa [List.elem_iff, List.contains] using hContains) h
  · rfl

/-- One step keeps every observed signature of `eventSlot`, unless it deletes the slot. -/
theorem step_observed_subset (program : EventProgram) (l : Listener) (action : Action)
    (eventSlot : Nat) (hKept : ∀ effect ∈ (step program l action).2, effect.evicts eventSlot = false) :
    l.observed eventSlot ⊆ (step program l action).1.observed eventSlot := by
  intro signature hMem
  by_cases hLogs : ∃ signature' slot, action = .logs signature' slot
  · obtain ⟨signature', slot, rfl⟩ := hLogs
    show signature ∈ (onLogs l signature' slot).1.observed eventSlot
    rw [onLogs_observed]
    split
    · subst slot
      exact mem_addSignature.mpr (.inl hMem)
    · exact hMem
  · push_neg at hLogs
    rcases step_observedTxs program l action hLogs with h | ⟨slot, hClean, h⟩
    · simpa [Listener.observed, h] using hMem
    · have hNot : ¬ eventSlot + 64 < slot := by simpa [Effect.evicts] using hKept _ hClean
      simpa [Listener.observed, h, cleanUp_get, hNot] using hMem

/-- A run keeps every observed signature of `eventSlot`, unless one of its handlers deletes
the slot. -/
theorem run_observed_subset (program : EventProgram) (l : Listener) (actions : List Action)
    (eventSlot : Nat) (hKept : ∀ effect ∈ (run program l actions).2, effect.evicts eventSlot = false) :
    l.observed eventSlot ⊆ (run program l actions).1.observed eventSlot := by
  induction actions generalizing l with
  | nil => exact List.Subset.refl _
  | cons action actions ih =>
      rw [run_cons] at hKept ⊢
      exact (step_observed_subset program l action eventSlot
        fun effect hEffect => hKept effect (List.mem_append_left _ hEffect)).trans
        (ih _ fun effect hEffect => hKept effect (List.mem_append_right _ hEffect))

/-- A notification delivered a second time, after any run in which no handler deleted its
slot, finds its signature observed and does nothing. -/
theorem logs_redelivery_enqueues_nothing (program : EventProgram) (l : Listener)
    (signature : String) (eventSlot : Nat) (between : List Action)
    (hKept : ∀ effect ∈ (run program (step program l (.logs signature eventSlot)).1 between).2,
      effect.evicts eventSlot = false) :
    let l' := (run program (step program l (.logs signature eventSlot)).1 between).1
    signature ∈ l'.observed eventSlot ∧ step program l' (.logs signature eventSlot) = (l', []) := by
  have hFirst : signature ∈ (step program l (.logs signature eventSlot)).1.observed eventSlot := by
    show signature ∈ (onLogs l signature eventSlot).1.observed eventSlot
    rw [onLogs_observed, if_pos rfl]
    exact mem_addSignature.mpr (.inr rfl)
  have hObserved := run_observed_subset program _ between eventSlot hKept hFirst
  exact ⟨hObserved, onLogs_of_mem_observed hObserved⟩

/-- A handler called with slot 65 cleans up, which keeps slot 1, before the notification of `a`
in slot 1 is delivered again. -/
theorem logs_redelivery_enqueues_nothing_sample :
    Effect.cleanedUp 65 ∈ (run ⟨PublicKey.new [], fun _ => none⟩
        (step ⟨PublicKey.new [], fun _ => none⟩ Listener.init (.logs "a" 1)).1
        [.slotChange 65, .resolve 0 none, .logs "b" 1]).2 ∧
    (∀ effect ∈ (run ⟨PublicKey.new [], fun _ => none⟩
        (step ⟨PublicKey.new [], fun _ => none⟩ Listener.init (.logs "a" 1)).1
        [.slotChange 65, .resolve 0 none, .logs "b" 1]).2, effect.evicts 1 = false) ∧
      let l' := (run ⟨PublicKey.new [], fun _ => none⟩
        (step ⟨PublicKey.new [], fun _ => none⟩ Listener.init (.logs "a" 1)).1
        [.slotChange 65, .resolve 0 none, .logs "b" 1]).1
      "a" ∈ l'.observed 1 ∧ step ⟨PublicKey.new [], fun _ => none⟩ l' (.logs "a" 1) = (l', []) :=
  ⟨by decide, by decide, logs_redelivery_enqueues_nothing _ _ _ _ _ (by decide)⟩

/-- What an effect does to the observed set of `eventSlot`: an entry enqueued in that slot adds
its signature, creating the set if it is missing; a clean-up more than 64 slots later deletes
the set. -/
def Effect.replay (eventSlot : Nat) (observed : Option (List String)) :
    Effect → Option (List String)
  | .enqueued tx =>
    if tx.eventSlot = eventSlot then some (addSignature (observed.getD []) tx.signature)
    else observed
  | .cleanedUp slot => if eventSlot + 64 < slot then none else observed
  | _ => observed

/-- The observed set of `eventSlot` after effects, from `observed`. -/
def replayObserved (eventSlot : Nat) (observed : Option (List String)) (effects : List Effect) :
    Option (List String) :=
  effects.foldl (Effect.replay eventSlot) observed

@[simp] theorem replayObserved_nil (eventSlot : Nat) (observed : Option (List String)) :
    replayObserved eventSlot observed [] = observed := rfl

@[simp] theorem replayObserved_cons (eventSlot : Nat) (observed : Option (List String))
    (effect : Effect) (effects : List Effect) :
    replayObserved eventSlot observed (effect :: effects) =
      replayObserved eventSlot (effect.replay eventSlot observed) effects := rfl

@[simp] theorem replayObserved_append (eventSlot : Nat) (observed : Option (List String))
    (effects effects' : List Effect) :
    replayObserved eventSlot observed (effects ++ effects') =
      replayObserved eventSlot (replayObserved eventSlot observed effects) effects' :=
  List.foldl_append _ _ _ _

@[simp] theorem replayObserved_callbacks (eventSlot : Nat) (observed : Option (List String))
    (tx : UnprocessedTx) (events : List MatchingEngineEvent) :
    replayObserved eventSlot observed (callbacks tx events) = observed := by
  induction events <;> simp_all [callbacks, Effect.replay]

/-- What a notification does to the observed map: a signature not yet observed is added to its
slot's set, which is created if missing. -/
theorem onLogs_get (l : Listener) (signature : String) (eventSlot slot : Nat) :
    (onLogs l signature eventSlot).1.observedTxs.get slot =
      if slot = eventSlot ∧ signature ∉ l.observed eventSlot then
        some (addSignature (l.observed eventSlot) signature)
      else l.observedTxs.get slot := by
  by_cases hObserved : signature ∈ l.observed eventSlot
  · simp [onLogs_of_mem_observed hObserved, hObserved]
  · have hHas : l.observedTxs.has eventSlot = false → l.observed eventSlot = [] := by
      cases hGet : l.observedTxs.get eventSlot <;> simp [JsMap.has, Listener.observed, hGet]
    by_cases hSlot : l.observedTxs.has eventSlot <;>
      simp_all [onLogs, Listener.observed, JsMap.get_set]

theorem loop_get (slot : Nat) (l : Listener) (eventSlot : Nat) :
    (loop slot l).1.observedTxs.get eventSlot =
      replayObserved eventSlot (l.observedTxs.get eventSlot) (loop slot l).2 := by
  rcases loop_cases slot l with ⟨-, h⟩ | ⟨head, rest, -, h⟩ <;> rw [h]
  · simp [cleanUp_get, Effect.replay]
  · rfl

theorem resume_get (program : EventProgram) (handler : SlotHandler)
    (parsedTx : Option ParsedTransactionWithMeta) (l : Listener) (eventSlot : Nat) :
    (resume program handler parsedTx l).1.observedTxs.get eventSlot =
      replayObserved eventSlot (l.observedTxs.get eventSlot)
        (resume program handler parsedTx l).2 := by
  cases parsedTx with
  | none => simp [resume_none, cleanUp_get, Effect.replay]
  | some parsedTx =>
      cases hFind : findEvents program parsedTx with
      | none => simp [resume_of_findEvents_none handler l hFind, Effect.replay]
      | some events =>
          simp [resume_of_findEvents_some handler l hFind, Effect.replay,
            loop_get handler.slot { l with unprocessedTxs := l.unprocessedTxs.dequeue }]

theorem step_get (program : EventProgram) (l : Listener) (action : Action) (eventSlot : Nat) :
    (step program l action).1.observedTxs.get eventSlot =
      replayObserved eventSlot (l.observedTxs.get eventSlot) (step program l action).2 := by
  cases action with
  | logs signature slot =>
      by_cases hObserved : signature ∈ l.observed slot
      · simp [step, onLogs_of_mem_observed hObserved]
      · simp only [step, onLogs_get, onLogs_of_not_mem_observed hObserved, replayObserved_cons,
          replayObserved_nil, Effect.replay, hObserved, not_false_eq_true, and_true]
        by_cases hSlot : eventSlot = slot
        · subst hSlot
          rfl
        · simp [hSlot, Ne.symm hSlot]
  | slotChange slot => exact loop_get slot l eventSlot
  | resolve i parsedTx =>
      simp only [step]
      split
      · rfl
      · exact resume_get program _ parsedTx _ eventSlot
  | reject i =>
      simp only [step]
      split <;> rfl

/-- Over any run, whatever the interleaving, the observed set of a slot is its set at the start
replayed through the run's effects: each entry enqueued in that slot adds its signature, and
each clean-up more than 64 slots later deletes the set. A slot deleted by a clean-up stays
absent until an entry of it is enqueued again. -/
theorem run_observedTxs_get (program : EventProgram) (l : Listener) (actions : List Action)
    (eventSlot : Nat) :
    (run program l actions).1.observedTxs.get eventSlot =
      replayObserved eventSlot (l.observedTxs.get eventSlot) (run program l actions).2 := by
  induction actions generalizing l with
  | nil => rfl
  | cons action actions ih =>
      rw [run_cons, replayObserved_append, ← step_get, ih]

end LiquidityLayer.MatchingEngine.OnEventCpi
