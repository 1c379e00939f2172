import LiquidityLayer.MatchingEngine.State

/-! `MatchingEngineProgram.onEventCpi` as a state machine. Its closure holds the queue of
unprocessed transactions and the map of observed signatures by slot; the JavaScript runtime
holds the `onSlotChange` handlers that are suspended at their `await`. One step is the code
between two suspension points: an `onLogs` notification, the start of a handler, or the
resumption of a suspended handler with what `getParsedTransaction` returned. Any number of
handlers may be suspended at once, and the environment chooses which one resumes next. -/

namespace LiquidityLayer.MatchingEngine.OnEventCpi

/-- Modelled from the spec: `ArrayQueue` of `../utils`, which is not among the sources, as
the FIFO queue the listener uses it as: `enqueue` at the back, `head` and `dequeue` at the
front, `head` giving `null` on an empty queue. -/
structure ArrayQueue (α : Type) where
  items : List α
  deriving DecidableEq, Repr

namespace ArrayQueue

variable {α : Type}

def isEmpty (queue : ArrayQueue α) : Bool := queue.items.isEmpty

def head (queue : ArrayQueue α) : Option α := queue.items.head?

def enqueue (queue : ArrayQueue α) (item : α) : ArrayQueue α := ⟨queue.items ++ [item]⟩

def dequeue (queue : ArrayQueue α) : ArrayQueue α := ⟨queue.items.tail⟩

@[simp] theorem head_eq (queue : ArrayQueue α) : queue.head = queue.items.head? := rfl

@[simp] theorem items_enqueue (queue : ArrayQueue α) (item : α) :
    (queue.enqueue item).items = queue.items ++ [item] := rfl

@[simp] theorem items_dequeue (queue : ArrayQueue α) : queue.dequeue.items = queue.items.tail := rfl

end ArrayQueue

/-- A JavaScript `Map`, by its entries in insertion order. `set` on a present key replaces
its value in place; on a new key it appends. -/
structure JsMap (κ ν : Type) where
  entries : List (κ × ν)
  deriving DecidableEq, Repr

namespace JsMap

variable {κ ν : Type} [DecidableEq κ]

def get (map : JsMap κ ν) (key : κ) : Option ν := map.entries.lookup key

def has (map : JsMap κ ν) (key : κ) : Bool := (map.get key).isSome

def set (map : JsMap κ ν) (key : κ) (value : ν) : JsMap κ ν :=
  if map.has key then ⟨map.entries.map fun entry => if entry.1 = key then (key, value) else entry⟩
  else ⟨map.entries ++ [(key, value)]⟩

/-- The map left by a loop over its keys that deletes every key failing `keep`. -/
def retain (map : JsMap κ ν) (keep : κ → Bool) : JsMap κ ν :=
  ⟨map.entries.filter fun entry => keep entry.1⟩

theorem lookup_cons (key key' : κ) (value : ν) (entries : List (κ × ν)) :
    ((key, value) :: entries).lookup key' = if key' = key then some value else entries.lookup key' := by
  rw [List.lookup_cons]
  by_cases h : key' = key
  · simp [h]
  · simp [beq_eq_false_iff_ne.mpr h, h]

/-- Replacing the values of `key` leaves every other key's value alone. -/
theorem lookup_replace_of_ne {key key' : κ} (value : ν) (entries : List (κ × ν)) (h : key' ≠ key) :
    (entries.map fun entry => if entry.1 = key then (key, value) else entry).lookup key' =
      entries.lookup key' := by
  induction entries with
  | nil => rfl
  | cons entry entries ih =>
      rcases entry with ⟨k, v⟩
      by_cases hk : k = key
      · subst hk
        simp [lookup_cons, h, ih]
      · simp only [List.map_cons, if_neg hk, lookup_cons, ih]

theorem lookup_replace_self (key : κ) (value : ν) (entries : List (κ × ν))
    (hHas : (entries.lookup key).isSome) :
    (entries.map fun entry => if entry.1 = key then (key, value) else entry).lookup key =
      some value := by
  induction entries with
  | nil => simp at hHas
  | cons entry entries ih =>
      rcases entry with ⟨k, v⟩
      by_cases hk : k = key
      · simp [hk, lookup_cons]
      · rw [lookup_cons, if_neg (Ne.symm hk)] at hHas
        simp only [List.map_cons, if_neg hk, lookup_cons, if_neg (Ne.symm hk), ih hHas]

theorem get_set (map : JsMap κ ν) (key key' : κ) (value : ν) :
    (map.set key value).get key' = if key' = key then some value else map.get key' := by
  unfold set
  split
  · rename_i hHas
    by_cases h : key' = key
    · subst h; rw [if_pos rfl]; exact lookup_replace_self _ _ _ hHas
    · rw [if_neg h]; exact lookup_replace_of_ne _ _ h
  · rename_i hHas
    simp only [get]
    by_cases h : key' = key
    · subst h
      simp only [has, get, Option.isSome_iff_ne_none, ne_eq, not_not] at hHas
      simp [List.lookup_append, hHas, lookup_cons]
    · simp [List.lookup_append, lookup_cons, h]

theorem get_retain (map : JsMap κ ν) (keep : κ → Bool) (key : κ) :
    (map.retain keep).get key = if keep key then map.get key else none := by
  simp only [retain, get]
  induction map.entries with
  | nil => simp
  | cons entry entries ih =>
      rcases entry with ⟨k, v⟩
      by_cases hKey : key = k
      · subst hKey
        by_cases hKeep : keep key <;> simp [List.filter, hKeep, lookup_cons, ih]
      · by_cases hKeep : keep k <;> simp [List.filter, hKeep, lookup_cons, hKey, ih]

end JsMap

/-- A JavaScript `Set<string>` as a list without repeats; `add` keeps it so. -/
def addSignature (set : List String) (signature : String) : List String :=
  if set.contains signature then set else set ++ [signature]

theorem mem_addSignature {set : List String} {signature other : String} :
    other ∈ addSignature set signature ↔ other ∈ set ∨ other = signature := by
  unfold addSignature
  split
  · rename_i hHas
    simp only [List.elem_iff, List.contains] at hHas
    constructor
    · exact Or.inl
    · rintro (h | rfl)
      · exact h
      · exact hHas
  · simp

/-- The `{ signature, eventSlot }` records of `unprocessedTxs`. -/
structure UnprocessedTx where
  signature : String
  eventSlot : Nat
  deriving DecidableEq, Repr

/-- An `onSlotChange` handler suspended at `await connection.getParsedTransaction(...)`:
the slot of the `slotInfo` it was called with, and the `head` it read before the await. -/
structure SlotHandler where
  slot : Nat
  head : UnprocessedTx
  deriving DecidableEq, Repr

/-- The state of one `onEventCpi` subscription. -/
structure Listener where
  unprocessedTxs : ArrayQueue UnprocessedTx
  observedTxs : JsMap Nat (List String)
  handlers : List SlotHandler
  deriving DecidableEq, Repr

/-- A subscription just made: nothing queued, observed or in flight. -/
def Listener.init : Listener := ⟨⟨[]⟩, ⟨[]⟩, []⟩

/-- An instruction of a parsed transaction. A partially decoded instruction carries its
`data`, here already base58-decoded; a parsed one has no `data` field. -/
structure ParsedInstruction where
  programId : PublicKey
  data : Option Bytes
  deriving DecidableEq, Repr

structure ParsedInnerInstruction where
  instructions : List ParsedInstruction
  deriving DecidableEq, Repr

structure ParsedTransactionMeta where
  innerInstructions : Option (List ParsedInnerInstruction)
  deriving DecidableEq, Repr

/-- What `getParsedTransaction` returns for a transaction it finds. -/
structure ParsedTransactionWithMeta where
  meta : Option ParsedTransactionMeta
  deriving DecidableEq, Repr

/-- A decoded event, passed to the callback as `{ [decoded.name]: decoded.data }`. -/
structure MatchingEngineEvent where
  name : String
  data : Bytes
  deriving DecidableEq, Repr

/-- What the listener uses of the program: its id, and Anchor's event decoder
`program.coder.events.decode`, which is not part of this repository. -/
structure EventProgram where
  ID : PublicKey
  decodeEvent : Bytes → Option MatchingEngineEvent

/-- `CPI_EVENT_IX_SELECTOR`: the first eight bytes of a self-CPI that carries an event. -/
def cpiEventIxSelector : Bytes := [228, 69, 165, 46, 81, 203, 154, 29]

/-- The body of the inner `for` loop: the event an instruction carries, if it is an
instruction of this program whose data starts with the selector and decodes. -/
def instructionEvent (program : EventProgram) (ix : ParsedInstruction) :
    Option MatchingEngineEvent :=
  if ix.programId ≠ program.ID then none
  else match ix.data with
    | none => none
    | some data => if data.take 8 ≠ cpiEventIxSelector then none else program.decodeEvent (data.drop 8)

/-- The "Find the event." loops: the events of a transaction in order, or `none` when it has
no list of inner instructions, where `for ... of` throws a `TypeError`. -/
def findEvents (program : EventProgram) (parsedTx : ParsedTransactionWithMeta) :
    Option (List MatchingEngineEvent) :=
  match parsedTx.meta with
  | none => none
  | some meta => meta.innerInstructions.map fun innerInstructions =>
      innerInstructions.flatMap fun innerIx => innerIx.instructions.filterMap (instructionEvent program)

/-- What a step does that the world or a proof can see. `enqueued`, `dequeued` and
`cleanedUp` mark the queue and map operations; `callback` is a call of the user's callback. -/
inductive Effect where
  | enqueued (tx : UnprocessedTx)
  | dequeued (removed : Option UnprocessedTx) (examined : UnprocessedTx)
  | callback (event : MatchingEngineEvent) (eventSlot : Nat) (signature : String)
  | cleanedUp (slot : Nat)
  deriving DecidableEq, Repr

/-- What the environment does next. `resolve i` and `reject i` settle the pending
`getParsedTransaction` of the `i`-th suspended handler. -/
inductive Action where
  | logs (signature : String) (slot : Nat)
  | slotChange (slot : Nat)
  | resolve (handler : Nat) (parsedTx : Option ParsedTransactionWithMeta)
  | reject (handler : Nat)
  deriving DecidableEq, Repr

/-- The `onLogs` callback for a notification of `signature` in slot `eventSlot`. -/
def onLogs (l : Listener) (signature : String) (eventSlot : Nat) : Listener × List Effect :=
  let observedTxs :=
    if l.observedTxs.has eventSlot then l.observedTxs else l.observedTxs.set eventSlot []
  let observed := (observedTxs.get eventSlot).getD []
  if observed.contains signature then ({ l with observedTxs := observedTxs }, [])
  else
    let tx : UnprocessedTx := ⟨signature, eventSlot⟩
    ({ l with unprocessedTxs := l.unprocessedTxs.enqueue tx,
              observedTxs := observedTxs.set eventSlot (addSignature observed signature) },
      [.enqueued tx])

/-- The "Clean up consumed." loop of a handler called with slot `slot`: every observed slot
below `slot - 64` is deleted. -/
def cleanUp (slot : Nat) (l : Listener) : Listener :=
  { l with observedTxs := l.observedTxs.retain fun observedSlot =>
      !decide ((observedSlot : Int) < (slot : Int) - 64) }

/-- A handler's `while` loop from its test to the next `await`. On an empty queue it leaves
the loop, cleans up and returns; otherwise it reads the head, asks for its transaction and
is suspended. -/
def loop (slot : Nat) (l : Listener) : Listener × List Effect :=
  if l.unprocessedTxs.isEmpty then (cleanUp slot l, [.cleanedUp slot])
  else match l.unprocessedTxs.head with
    | none => (cleanUp slot l, [.cleanedUp slot])
    | some head => ({ l with handlers := l.handlers ++ [⟨slot, head⟩] }, [])

/-- The callback calls a handler makes for the events it found, under the signature and slot
of the head `tx` it read. -/
def callbacks (tx : UnprocessedTx) (events : List MatchingEngineEvent) : List Effect :=
  events.map fun event => .callback event tx.eventSlot tx.signature

/-- A suspended handler resumed with the result of its `getParsedTransaction`: on `null` it
breaks out of the loop and cleans up; otherwise it dequeues, passes the transaction's events
to the callback under the signature and slot of the head it read, and loops. A transaction
without inner instructions throws after the dequeue, and the handler ends there. -/
def resume (program : EventProgram) (handler : SlotHandler)
    (parsedTx : Option ParsedTransactionWithMeta) (l : Listener) : Listener × List Effect :=
  match parsedTx with
  | none => (cleanUp handler.slot l, [.cleanedUp handler.slot])
  | some parsedTx =>
    let dequeued := Effect.dequeued l.unprocessedTxs.head handler.head
    let l := { l with unprocessedTxs := l.unprocessedTxs.dequeue }
    match findEvents program parsedTx with
    | none => (l, [dequeued])
    | some events =>
      let next := loop handler.slot l
      (next.1, dequeued :: callbacks handler.head events ++ next.2)

/-- One step of the subscription. Settling a handler that is not suspended does nothing. -/
def step (program : EventProgram) (l : Listener) : Action → Listener × List Effect
  | .logs signature slot => onLogs l signature slot
  | .slotChange slot => loop slot l
  | .resolve i parsedTx =>
    match l.handlers[i]? with
    | none => (l, [])
    | some handler => resume program handler parsedTx { l with handlers := l.handlers.eraseIdx i }
  | .reject i =>
    match l.handlers[i]? with
    | none => (l, [])
    | some _ => ({ l with handlers := l.handlers.eraseIdx i }, [])

/-- A run: the state after the actions, and the effects of all their steps in order. -/
def run (program : EventProgram) (l : Listener) : List Action → Listener × List Effect
  | [] => (l, [])
  | action :: actions =>
    let first := step program l action
    let rest := run program first.1 actions
    (rest.1, first.2 ++ rest.2)

@[simp] theorem run_nil (program : EventProgram) (l : Listener) : run program l [] = (l, []) := rfl

theorem run_cons (program : EventProgram) (l : Listener) (action : Action) (actions : List Action) :
    run program l (action :: actions) =
      ((run program (step program l action).1 actions).1,
        (step program l action).2 ++ (run program (step program l action).1 actions).2) := rfl

/-- A handler called with `slot` deletes an observed slot exactly when it lies more than 64
slots below `slot`. -/
theorem cleanUp_get (slot : Nat) (l : Listener) (eventSlot : Nat) :
    (cleanUp slot l).observedTxs.get eventSlot =
      if eventSlot + 64 < slot then none else l.observedTxs.get eventSlot := by
  rw [cleanUp, JsMap.get_retain]
  by_cases h : eventSlot + 64 < slot
  · have hInt : (eventSlot : Int) < (slot : Int) - 64 := by omega
    simp [h, hInt]
  · have hInt : ¬ (eventSlot : Int) < (slot : Int) - 64 := by omega
    simp [h, hInt]

/-- A notification changes no handler, and either leaves the queue alone or enqueues its
signature and slot. -/
theorem onLogs_cases (l : Listener) (signature : String) (eventSlot : Nat) :
    (onLogs l signature eventSlot).1.handlers = l.handlers ∧
      ((onLogs l signature eventSlot).1.unprocessedTxs = l.unprocessedTxs ∧
          (onLogs l signature eventSlot).2 = [] ∨
        (onLogs l signature eventSlot).1.unprocessedTxs =
            l.unprocessedTxs.enqueue ⟨signature, eventSlot⟩ ∧
          (onLogs l signature eventSlot).2 = [.enqueued ⟨signature, eventSlot⟩]) := by
  unfold onLogs
  generalize (if l.observedTxs.has eventSlot then l.observedTxs else l.observedTxs.set eventSlot []) =
    prepared
  dsimp only
  split
  · exact ⟨rfl, .inl ⟨rfl, rfl⟩⟩
  · exact ⟨rfl, .inr ⟨rfl, rfl⟩⟩

/-- A handler's loop on an empty queue cleans up; on a non-empty one it is suspended on the
head. The code's second exit, on a `null` head, is never taken. -/
theorem loop_cases (slot : Nat) (l : Listener) :
    l.unprocessedTxs.items = [] ∧ loop slot l = (cleanUp slot l, [.cleanedUp slot]) ∨
      ∃ head rest, l.unprocessedTxs.items = head :: rest ∧
        loop slot l = ({ l with handlers := l.handlers ++ [⟨slot, head⟩] }, []) := by
  rcases l with ⟨⟨items⟩, observedTxs, handlers⟩
  cases items with
  | nil => exact .inl ⟨rfl, rfl⟩
  | cons head rest => exact .inr ⟨head, rest, rfl, rfl⟩

theorem loop_observedTxs (slot : Nat) (l : Listener) :
    (loop slot l).1.observedTxs = l.observedTxs ∨
      (Effect.cleanedUp slot ∈ (loop slot l).2 ∧ (loop slot l).1 = cleanUp slot l) := by
  rcases loop_cases slot l with ⟨-, h⟩ | ⟨head, rest, -, h⟩ <;> rw [h]
  · exact .inr ⟨List.mem_singleton_self _, rfl⟩
  · exact .inl rfl

theorem resume_none (program : EventProgram) (handler : SlotHandler) (l : Listener) :
    resume program handler none l = (cleanUp handler.slot l, [.cleanedUp handler.slot]) := rfl

/-- A transaction without inner instructions: the handler dequeues, then throws. -/
theorem resume_of_findEvents_none {program : EventProgram} {parsedTx : ParsedTransactionWithMeta}
    (handler : SlotHandler) (l : Listener) (h : findEvents program parsedTx = none) :
    resume program handler (some parsedTx) l =
      ({ l with unprocessedTxs := l.unprocessedTxs.dequeue },
        [.dequeued l.unprocessedTxs.head handler.head]) := by
  simp [resume, h]

theorem resume_of_findEvents_some {program : EventProgram} {parsedTx : ParsedTransactionWithMeta}
    {events : List MatchingEngineEvent} (handler : SlotHandler) (l : Listener)
    (h : findEvents program parsedTx = some events) :
    resume program handler (some parsedTx) l =
      ((loop handler.slot { l with unprocessedTxs := l.unprocessedTxs.dequeue }).1,
        .dequeued l.unprocessedTxs.head handler.head :: callbacks handler.head events ++
          (loop handler.slot { l with unprocessedTxs := l.unprocessedTxs.dequeue }).2) := by
  simp [resume, h]

theorem resume_observedTxs (program : EventProgram) (handler : SlotHandler)
    (parsedTx : Option ParsedTransactionWithMeta) (l : Listener) :
    (resume program handler parsedTx l).1.observedTxs = l.observedTxs ∨
      ∃ slot, Effect.cleanedUp slot ∈ (resume program handler parsedTx l).2 ∧
        (resume program handler parsedTx l).1.observedTxs = (cleanUp slot l).observedTxs := by
  unfold resume
  split
  · exact .inr ⟨handler.slot, List.mem_singleton_self _, rfl⟩
  · split
    · exact .inl rfl
    · rcases loop_observedTxs handler.slot { l with unprocessedTxs := l.unprocessedTxs.dequeue }
        with h | ⟨hMem, h⟩
      · exact .inl h
      · exact .inr ⟨handler.slot, List.mem_cons_of_mem _ (List.mem_append_right _ hMem), by rw [h]; rfl⟩

/-- Every step but a log notification either leaves the observed map alone, or replaces it
by the map of one clean-up, which its effects report. -/
theorem step_observedTxs (program : EventProgram) (l : Listener) (action : Action)
    (hLogs : ∀ signature eventSlot, action ≠ .logs signature eventSlot) :
    (step program l action).1.observedTxs = l.observedTxs ∨
      ∃ slot, Effect.cleanedUp slot ∈ (step program l action).2 ∧
        (step program l action).1.observedTxs = (cleanUp slot l).observedTxs := by
  cases action with
  | logs signature eventSlot => exact absurd rfl (hLogs signature eventSlot)
  | slotChange slot =>
      rcases loop_observedTxs slot l with h | ⟨hMem, h⟩
      · exact .inl h
      · exact .inr ⟨slot, hMem, by rw [step, h]⟩
  | resolve i parsedTx =>
      simp only [step]
      split
      · exact .inl rfl
      · rename_i handler _
        exact resume_observedTxs program handler parsedTx { l with handlers := l.handlers.eraseIdx i }
  | reject i =>
      simp only [step]
      split <;> exact .inl rfl

end LiquidityLayer.MatchingEngine.OnEventCpi
