import LiquidityLayer.MatchingEngine.EventCpi.Queue

/-! One `onSlotChange` handler run from its call to its end with nothing interleaved, against
an oracle that says what `getParsedTransaction` returns for each signature. The handler
dispatches the queue's entries in order while their transactions are available, and stops at
the first one that is not: that entry and every entry behind it stay queued, undispatched.
When every transaction is available, one run empties the queue. -/

namespace LiquidityLayer.MatchingEngine.OnEventCpi

/-- The suspended handler at the front of `handlers` run to completion with no other step in
between: each time it waits, its `getParsedTransaction` resolves with `oracle` of the signature
it asked for. `fuel` bounds the number of resumptions. -/
def drive (program : EventProgram) (oracle : String → Option ParsedTransactionWithMeta) :
    Nat → Listener → Listener × List Effect
  | 0, l => (l, [])
  | fuel + 1, l =>
    match l.handlers with
    | [] => (l, [])
    | handler :: _ =>
      let first := step program l (.resolve 0 (oracle handler.head.signature))
      let rest := drive program oracle fuel first.1
      (rest.1, first.2 ++ rest.2)

/-- One `onSlotChange` call with `slot`, run to its end with no other handler or notification
interleaved. -/
def runSlotChange (program : EventProgram) (oracle : String → Option ParsedTransactionWithMeta)
    (fuel slot : Nat) (l : Listener) : Listener × List Effect :=
  let start := step program l (.slotChange slot)
  let rest := drive program oracle fuel start.1
  (rest.1, start.2 ++ rest.2)

/-- The events the callback gets for `tx`: `none` when its transaction is unavailable, or has
no inner instructions and makes the handler throw. -/
def dispatchable (program : EventProgram) (oracle : String → Option ParsedTransactionWithMeta)
    (tx : UnprocessedTx) : Option (List MatchingEngineEvent) :=
  (oracle tx.signature).bind (findEvents program)

section

variable {program : EventProgram} {oracle : String → Option ParsedTransactionWithMeta}
  {slot : Nat} {l : Listener}

theorem drive_idle (fuel : Nat) (hIdle : l.handlers = []) : drive program oracle fuel l = (l, []) := by
  cases fuel <;> simp [drive, hIdle]

/-- A handler whose head's transaction is unavailable cleans up and ends, whatever the queue
holds behind the head. -/
theorem runSlotChange_of_unavailable {head : UnprocessedTx} {rest : List UnprocessedTx}
    (fuel : Nat) (hIdle : l.handlers = []) (hQueue : l.unprocessedTxs.items = head :: rest)
    (hUnavailable : oracle head.signature = none) :
    runSlotChange program oracle (fuel + 1) slot l = (cleanUp slot l, [.cleanedUp slot]) := by
  rcases l with ⟨⟨items⟩, observedTxs, handlers⟩
  simp only at hIdle hQueue
  subst hIdle hQueue
  simp [runSlotChange, drive, step, loop, ArrayQueue.isEmpty, hUnavailable, resume_none,
    drive_idle, cleanUp]

/-- A handler whose head's transaction is available and has inner instructions handles the
head, then goes on exactly as a handler called on the rest of the queue. -/
theorem runSlotChange_of_dispatchable {head : UnprocessedTx} {rest : List UnprocessedTx}
    {events : List MatchingEngineEvent} (fuel : Nat) (hIdle : l.handlers = [])
    (hQueue : l.unprocessedTxs.items = head :: rest)
    (hEvents : dispatchable program oracle head = some events) :
    runSlotChange program oracle (fuel + 1) slot l =
      ((runSlotChange program oracle fuel slot { l with unprocessedTxs := ⟨rest⟩ }).1,
        handled head events ++ (runSlotChange program oracle fuel slot
          { l with unprocessedTxs := ⟨rest⟩ }).2) := by
  obtain ⟨parsedTx, hParsed, hFind⟩ := Option.bind_eq_some.mp hEvents
  rcases l with ⟨⟨items⟩, observedTxs, handlers⟩
  simp only at hIdle hQueue
  subst hIdle hQueue
  simp [runSlotChange, drive, step, hParsed, resume_of_findEvents_some _ _ hFind, handled,
    loop, ArrayQueue.isEmpty, ArrayQueue.dequeue]

/-- A handler called on an empty queue cleans up and ends. -/
theorem runSlotChange_of_empty (fuel : Nat) (hIdle : l.handlers = [])
    (hQueue : l.unprocessedTxs.items = []) :
    runSlotChange program oracle fuel slot l = (cleanUp slot l, [.cleanedUp slot]) := by
  rcases l with ⟨⟨items⟩, observedTxs, handlers⟩
  simp only at hIdle hQueue
  subst hIdle hQueue
  simp [runSlotChange, step, loop, ArrayQueue.isEmpty, drive_idle, cleanUp]

/-- A handler run over a queue `pre ++ rest` whose entries in `pre` are all dispatchable handles
them in order, one resumption each, and then goes on as a run called on `rest`. -/
theorem runSlotChange_append (fuel : Nat) (hIdle : l.handlers = []) (pre rest : List UnprocessedTx)
    (hQueue : l.unprocessedTxs.items = pre ++ rest)
    (hPre : ∀ tx ∈ pre, (dispatchable program oracle tx).isSome) :
    runSlotChange program oracle (pre.length + fuel) slot l =
      ((runSlotChange program oracle fuel slot { l with unprocessedTxs := ⟨rest⟩ }).1,
        pre.flatMap (fun tx => handled tx ((dispatchable program oracle tx).getD [])) ++
          (runSlotChange program oracle fuel slot { l with unprocessedTxs := ⟨rest⟩ }).2) := by
  induction pre generalizing l with
  | nil =>
      rcases l with ⟨⟨items⟩, observedTxs, handlers⟩
      simp only at hQueue
      subst hQueue
      simp
  | cons tx pre ih =>
      obtain ⟨events, hEvents⟩ := Option.isSome_iff_exists.mp (hPre tx (.head _))
      rw [List.cons_append] at hQueue
      rw [List.length_cons, Nat.add_right_comm, runSlotChange_of_dispatchable _ hIdle hQueue hEvents,
        @ih { l with unprocessedTxs := ⟨pre ++ rest⟩ } hIdle rfl fun tx' hTx' => hPre tx' (.tail _ hTx')]
      simp [hEvents]

end

/-- One complete handler run, nothing interleaved, on a queue whose every entry has an
available transaction with inner instructions, and with a resumption for each: the callback
gets the events of every entry in queue order, the queue ends empty, and the run ends with one
clean-up. -/
theorem runSlotChange_drains (program : EventProgram)
    (oracle : String → Option ParsedTransactionWithMeta) (slot fuel : Nat) (l : Listener)
    (hIdle : l.handlers = [])
    (hAll : ∀ tx ∈ l.unprocessedTxs.items, (dispatchable program oracle tx).isSome)
    (hFuel : l.unprocessedTxs.items.length ≤ fuel) :
    runSlotChange program oracle fuel slot l =
      (cleanUp slot { l with unprocessedTxs := ⟨[]⟩ },
        l.unprocessedTxs.items.flatMap
          (fun tx => handled tx ((dispatchable program oracle tx).getD [])) ++ [.cleanedUp slot]) := by
  obtain ⟨extra, rfl⟩ := Nat.exists_eq_add_of_le hFuel
  rw [runSlotChange_append extra hIdle _ [] (List.append_nil _).symm hAll,
    @runSlotChange_of_empty program oracle slot { l with unprocessedTxs := ⟨[]⟩ } extra hIdle rfl]

theorem runSlotChange_drains_sample :
    let program : EventProgram := ⟨PublicKey.new [], fun data => some ⟨"auctionUpdated", data⟩⟩
    let oracle : String → Option ParsedTransactionWithMeta :=
      fun _ => some ⟨some ⟨some [⟨[⟨PublicKey.new [], some (cpiEventIxSelector ++ [1])⟩]⟩]⟩⟩
    let l : Listener := ⟨⟨[⟨"a", 1⟩, ⟨"c", 2⟩]⟩, ⟨[(1, ["a"]), (2, ["c"])]⟩, []⟩
    (l.handlers = [] ∧ (∀ tx ∈ l.unprocessedTxs.items, (dispatchable program oracle tx).isSome) ∧
      l.unprocessedTxs.items.length ≤ 2) ∧
      runSlotChange program oracle 2 70 l =
        (cleanUp 70 { l with unprocessedTxs := ⟨[]⟩ },
          l.unprocessedTxs.items.flatMap
            (fun tx => handled tx ((dispatchable program oracle tx).getD [])) ++ [.cleanedUp 70]) :=
  have hAll : ∀ tx ∈ [(⟨"a", 1⟩ : UnprocessedTx), ⟨"c", 2⟩],
      (dispatchable ⟨PublicKey.new [], fun data => some ⟨"auctionUpdated", data⟩⟩
        (fun _ => some ⟨some ⟨some [⟨[⟨PublicKey.new [], some (cpiEventIxSelector ++ [1])⟩]⟩]⟩⟩)
        tx).isSome := by
    decide
  ⟨⟨rfl, hAll, by decide⟩, runSlotChange_drains _ _ 70 2 _ rfl hAll (by decide)⟩

/-- One complete handler run, nothing interleaved, on a queue `pre ++ stuck :: post` where
every entry of `pre` has an available transaction with inner instructions and `stuck`'s is
unavailable: the callback gets the events of `pre`'s entries in order, `stuck` and every entry
behind it stay queued, and none of their events is dispatched. -/
theorem runSlotChange_stops_at_unavailable (program : EventProgram)
    (oracle : String → Option ParsedTransactionWithMeta) (slot fuel : Nat) (l : Listener)
    (pre : List UnprocessedTx) (stuck : UnprocessedTx) (post : List UnprocessedTx)
    (hIdle : l.handlers = []) (hQueue : l.unprocessedTxs.items = pre ++ stuck :: post)
    (hPre : ∀ tx ∈ pre, (dispatchable program oracle tx).isSome)
    (hStuck : oracle stuck.signature = none) (hFuel : pre.length < fuel) :
    runSlotChange program oracle fuel slot l =
      (cleanUp slot { l with unprocessedTxs := ⟨stuck :: post⟩ },
        pre.flatMap (fun tx => handled tx ((dispatchable program oracle tx).getD [])) ++
          [.cleanedUp slot]) := by
  obtain ⟨extra, rfl⟩ : ∃ extra, fuel = pre.length + (extra + 1) := ⟨fuel - pre.length - 1, by omega⟩
  rw [runSlotChange_append (extra + 1) hIdle pre (stuck :: post) hQueue hPre,
    @runSlotChange_of_unavailable program oracle slot { l with unprocessedTxs := ⟨stuck :: post⟩ }
      stuck post extra hIdle rfl hStuck]

theorem runSlotChange_stops_at_unavailable_sample :
    let program : EventProgram := ⟨PublicKey.new [], fun data => some ⟨"auctionUpdated", data⟩⟩
    let parsedTx : ParsedTransactionWithMeta :=
      ⟨some ⟨some [⟨[⟨PublicKey.new [], some (cpiEventIxSelector ++ [1])⟩]⟩]⟩⟩
    let oracle : String → Option ParsedTransactionWithMeta :=
      fun signature => if signature = "b" then none else some parsedTx
    let l : Listener := ⟨⟨[⟨"a", 1⟩, ⟨"b", 1⟩, ⟨"c", 2⟩]⟩, ⟨[]⟩, []⟩
    (l.handlers = [] ∧ l.unprocessedTxs.items = [⟨"a", 1⟩] ++ ⟨"b", 1⟩ :: [⟨"c", 2⟩] ∧
      (∀ tx ∈ [(⟨"a", 1⟩ : UnprocessedTx)], (dispatchable program oracle tx).isSome) ∧
      oracle "b" = none ∧ [(⟨"a", 1⟩ : UnprocessedTx)].length < 2) ∧
      runSlotChange program oracle 2 70 l =
        (cleanUp 70 { l with unprocessedTxs := ⟨⟨"b", 1⟩ :: [⟨"c", 2⟩]⟩ },
          [(⟨"a", 1⟩ : UnprocessedTx)].flatMap
            (fun tx => handled tx ((dispatchable program oracle tx).getD [])) ++ [.cleanedUp 70]) :=
  have hPre : ∀ tx ∈ [(⟨"a", 1⟩ : UnprocessedTx)],
      (dispatchable ⟨PublicKey.new [], fun data => some ⟨"auctionUpdated", data⟩⟩
        (fun signature => if signature = "b" then none
          else some ⟨some ⟨some [⟨[⟨PublicKey.new [], some (cpiEventIxSelector ++ [1])⟩]⟩]⟩⟩)
        tx).isSome := by
    decide
  ⟨⟨rfl, rfl, hPre, rfl, by decide⟩,
    runSlotChange_stops_at_unavailable _ _ 70 2 _ [⟨"a", 1⟩] ⟨"b", 1⟩ [⟨"c", 2⟩]
      rfl rfl hPre rfl (by decide)⟩

/-- A queue `[a, b]` where `a`'s transaction is unavailable and `b`'s is available: one
complete handler run dispatches nothing and leaves both entries queued. -/
theorem runSlotChange_unavailable_head_blocks :
    let program : EventProgram := ⟨PublicKey.new [], fun data => some ⟨"auctionUpdated", data⟩⟩
    let parsedTx : ParsedTransactionWithMeta :=
      ⟨some ⟨some [⟨[⟨PublicKey.new [], some (cpiEventIxSelector ++ [1])⟩]⟩]⟩⟩
    let oracle : String → Option ParsedTransactionWithMeta :=
      fun signature => if signature = "b" then some parsedTx else none
    dispatchable program oracle ⟨"b", 1⟩ = some [⟨"auctionUpdated", [1]⟩] ∧
      runSlotChange program oracle 2 5 ⟨⟨[⟨"a", 1⟩, ⟨"b", 1⟩]⟩, ⟨[(1, ["a", "b"])]⟩, []⟩ =
        (⟨⟨[⟨"a", 1⟩, ⟨"b", 1⟩]⟩, ⟨[(1, ["a", "b"])]⟩, []⟩, [.cleanedUp 5]) := by
  decide

end LiquidityLayer.MatchingEngine.OnEventCpi
