import LiquidityLayer.Relayer.Basic

/-! `getCircleAttestation`, the same in both relayers. It asks the Circle attestation service for
the attestation of a message hash, and asks again after a pause until an answer comes back with
status 200 and a body whose status is `complete`. A request that fails counts as no answer, and
nothing the service says is an error. The loop has no bound, so it is modelled over the answers
its successive requests get; a network's `getCircleAttestation` is what the loop returns against
the service, `none` when it never returns. -/

namespace LiquidityLayer.Relayer

open Handler

/-- What `axios.get` resolves with: the HTTP status and the body's `status` and `attestation`. -/
structure AttestationResponse where
  status : Nat
  dataStatus : String
  attestation : String
  deriving DecidableEq, Repr

/-- The `.then` of one request: the attestation of a response with status 200 whose body's status
is `complete`; `null` for any other response, and for a failed request, which `.catch` turned
into `null`. -/
def readAttestation : Option AttestationResponse → Option String
  | some response =>
    if response.status = 200 ∧ response.dataStatus = "complete" then some response.attestation
    else none
  | none => none

/-- `getCircleAttestation`, over the answers of its successive requests: it returns at the first
that gives an attestation, and while none has it is still polling. -/
def getCircleAttestation : List (Option AttestationResponse) → Option String
  | [] => none
  | answer :: answers =>
    match readAttestation answer with
    | some attestation => some attestation
    | none => getCircleAttestation answers

/-- Later answers matter only while the loop has not returned. -/
theorem getCircleAttestation_append (answers more : List (Option AttestationResponse)) :
    getCircleAttestation (answers ++ more) =
      (getCircleAttestation answers).or (getCircleAttestation more) := by
  induction answers with
  | nil => rfl
  | cons answer answers ih =>
      simp only [List.cons_append, getCircleAttestation]
      cases readAttestation answer <;> simp [ih]

theorem getCircleAttestation_singleton (answer : Option AttestationResponse) :
    getCircleAttestation [answer] = readAttestation answer := by
  simp only [getCircleAttestation]
  cases readAttestation answer <;> rfl

/-- The first `n` answers the service gives to the requests for `messageHash`. -/
def firstAnswers (answers : String → Nat → Option AttestationResponse) (messageHash : String)
    (n : Nat) : List (Option AttestationResponse) :=
  (List.range n).map (answers messageHash)

theorem getCircleAttestation_firstAnswers_succ
    (answers : String → Nat → Option AttestationResponse) (messageHash : String) (n : Nat) :
    getCircleAttestation (firstAnswers answers messageHash (n + 1)) =
      (getCircleAttestation (firstAnswers answers messageHash n)).or
        (readAttestation (answers messageHash n)) := by
  rw [firstAnswers, List.range_succ, List.map_append, getCircleAttestation_append]
  simp [firstAnswers, getCircleAttestation_singleton]

variable {answers : String → Nat → Option AttestationResponse} {messageHash : String}

/-- Within its first `n` answers the loop is still polling exactly when none of them gives an
attestation. -/
theorem getCircleAttestation_firstAnswers_eq_none {n : Nat} :
    getCircleAttestation (firstAnswers answers messageHash n) = none ↔
      ∀ i < n, readAttestation (answers messageHash i) = none := by
  induction n with
  | zero => simp [firstAnswers, getCircleAttestation]
  | succ n ih =>
      rw [getCircleAttestation_firstAnswers_succ, Option.or_eq_none, ih, Nat.forall_lt_succ]

/-- Within its first `n` answers the loop returns an attestation exactly when the `k`-th of them
gives it and none before does. -/
theorem getCircleAttestation_firstAnswers_eq_some {n : Nat} {attestation : String} :
    getCircleAttestation (firstAnswers answers messageHash n) = some attestation ↔
      ∃ k < n, (∀ i < k, readAttestation (answers messageHash i) = none) ∧
        readAttestation (answers messageHash k) = some attestation := by
  induction n with
  | zero => simp [firstAnswers, getCircleAttestation]
  | succ n ih =>
      rw [getCircleAttestation_firstAnswers_succ, Option.or_eq_some, ih,
        getCircleAttestation_firstAnswers_eq_none, Nat.exists_lt_succ]

/-- A network whose `getCircleAttestation` is the loop run against a service that answers the
`i`-th request for a hash with `answers hash i`. -/
def Network.Polls (network : Network) (answers : String → Nat → Option AttestationResponse) :
    Prop :=
  ∀ messageHash attestation, network.getCircleAttestation messageHash = some attestation ↔
    ∃ n, Relayer.getCircleAttestation (firstAnswers answers messageHash n) = some attestation

/-- A network that polls gives for a hash the attestation of the first answer that has one. -/
theorem Network.Polls.getCircleAttestation_eq_some {network : Network}
    (hPolls : network.Polls answers) {attestation : String} :
    network.getCircleAttestation messageHash = some attestation ↔
      ∃ k, (∀ i < k, readAttestation (answers messageHash i) = none) ∧
        readAttestation (answers messageHash k) = some attestation := by
  rw [hPolls]
  constructor
  · rintro ⟨n, hn⟩
    obtain ⟨k, -, hk⟩ := getCircleAttestation_firstAnswers_eq_some.mp hn
    exact ⟨k, hk⟩
  · rintro ⟨k, hk⟩
    exact ⟨k + 1, getCircleAttestation_firstAnswers_eq_some.mpr ⟨k, Nat.lt_succ_self k, hk⟩⟩

section

variable {findCircleMessageInLogs : List Log → Option String → Except String (Option String)}
  {sdk : Sdk} {network : Network} {logs : List Log} {circleEmitterAddress : Option String}

/-- Against a network that polls, the attestation `handleCircleMessageInLogs` pairs with a Circle
message is the one of the first answer for the message's hash that came back with status 200
and `complete`: every earlier answer, a failed request or any other status, was asked again. -/
theorem handleCircleMessageInLogsWith_first_complete (hPolls : network.Polls answers)
    {circleMessage attestation : String}
    (h : handleCircleMessageInLogsWith findCircleMessageInLogs sdk network logs
      circleEmitterAddress = .ok (some circleMessage, some attestation)) :
    ∃ circleMessageHash k, sdk.keccak256 circleMessage = .ok circleMessageHash ∧
      (∀ i < k, readAttestation (answers circleMessageHash i) = none) ∧
      readAttestation (answers circleMessageHash k) = some attestation := by
  obtain ⟨circleMessageHash, -, hHash, hAttestation⟩ := handleCircleMessageInLogsWith_eq_ok h
  obtain ⟨k, hFirst⟩ := hPolls.getCircleAttestation_eq_some.mp hAttestation
  exact ⟨circleMessageHash, k, hHash, hFirst⟩

/-- Against a network that polls, a Circle message whose attestation never completes blocks
`handleCircleMessageInLogs` for good: the loop has no bound and the handler no timeout. -/
theorem handleCircleMessageInLogsWith_blocks (hPolls : network.Polls answers)
    {circleMessage circleMessageHash : String}
    (hFound : findCircleMessageInLogs logs circleEmitterAddress = .ok (some circleMessage))
    (hHash : sdk.keccak256 circleMessage = .ok circleMessageHash)
    (hNever : ∀ i, readAttestation (answers circleMessageHash i) = none) :
    handleCircleMessageInLogsWith findCircleMessageInLogs sdk network logs
      circleEmitterAddress = .error .blocked := by
  have hNone : network.getCircleAttestation circleMessageHash = none := by
    cases hAttestation : network.getCircleAttestation circleMessageHash with
    | none => rfl
    | some attestation =>
        obtain ⟨k, -, hAt⟩ := hPolls.getCircleAttestation_eq_some.mp hAttestation
        rw [hNever k] at hAt
        cases hAt
  simp [handleCircleMessageInLogsWith, hFound, hHash, hNone, call, wait, bind, Except.bind]

end

/-- A network that answers every attestation request with `attestation`, and nothing else. -/
def attestingNetwork (attestation : Option String) : Network where
  getSignedVAAWithRetry _ _ _ := none
  getTransactionReceipt := .error "no receipt"
  getCircleAttestation _ := attestation
  isMessageConsumed _ _ _ := .ok false
  isTransferCompleted _ _ _ := .ok false

/-- An SDK whose `keccak256` is the identity and whose other calls throw. -/
def hashingSdk : Sdk where
  getAddress _ := .error "no address"
  tryUint8ArrayToNative _ _ := .error "no address"
  getEmitterAddressEth _ := .error "no address"
  parseVaaHash _ := .error "no VAA"
  keccak256 message := .ok message
  parseMessageSent _ := .error "no message"

/-- A service that fails the first request, answers the second with a pending attestation and
every later one with a complete one. -/
def pendingThenComplete (_ : String) : Nat → Option AttestationResponse
  | 0 => none
  | 1 => some ⟨200, "pending_confirmations", ""⟩
  | _ => some ⟨200, "complete", "0xa77e57"⟩

theorem handleCircleMessageInLogsWith_first_complete_sample :
    (attestingNetwork (some "0xa77e57")).Polls pendingThenComplete ∧
      handleCircleMessageInLogsWith (fun _ _ => .ok (some "0x0c")) hashingSdk
        (attestingNetwork (some "0xa77e57")) [] none = .ok (some "0x0c", some "0xa77e57") ∧
      ∃ circleMessageHash k, hashingSdk.keccak256 "0x0c" = .ok circleMessageHash ∧
        (∀ i < k, readAttestation (pendingThenComplete circleMessageHash i) = none) ∧
        readAttestation (pendingThenComplete circleMessageHash k) = some "0xa77e57" :=
  have hPolls : (attestingNetwork (some "0xa77e57")).Polls pendingThenComplete := by
    intro messageHash attestation
    constructor
    · rintro ⟨⟩
      exact ⟨3, rfl⟩
    · rintro ⟨n, hn⟩
      obtain ⟨k, -, -, hAt⟩ := getCircleAttestation_firstAnswers_eq_some.mp hn
      rcases k with _ | _ | k <;> simp [pendingThenComplete, readAttestation] at hAt
      exact congrArg some hAt
  have hOk : handleCircleMessageInLogsWith (fun _ _ => .ok (some "0x0c")) hashingSdk
      (attestingNetwork (some "0xa77e57")) [] none = .ok (some "0x0c", some "0xa77e57") := rfl
  ⟨hPolls, hOk, handleCircleMessageInLogsWith_first_complete hPolls hOk⟩

theorem handleCircleMessageInLogsWith_blocks_sample :
    (attestingNetwork none).Polls (fun _ _ => some ⟨200, "pending_confirmations", ""⟩) ∧
      handleCircleMessageInLogsWith (fun _ _ => .ok (some "0x0c")) hashingSdk
        (attestingNetwork none) [] none = .error .blocked :=
  have hNever : ∀ (messageHash : String) (i : Nat),
      readAttestation ((fun _ _ => some ⟨200, "pending_confirmations", ""⟩ :
        String → Nat → Option AttestationResponse) messageHash i) = none := fun _ _ => rfl
  have hPolls : (attestingNetwork none).Polls
      (fun _ _ => some ⟨200, "pending_confirmations", ""⟩) := by
    intro messageHash attestation
    constructor
    · rintro ⟨⟩
    · rintro ⟨n, hn⟩
      obtain ⟨k, -, -, hAt⟩ := getCircleAttestation_firstAnswers_eq_some.mp hn
      simp [readAttestation] at hAt
  ⟨hPolls, handleCircleMessageInLogsWith_blocks hPolls rfl rfl (hNever "0x0c")⟩

end LiquidityLayer.Relayer
