import EditorSession.Proofs.Changes
import EditorSession.Proofs.Convergence

/-! # Requests that the connection refuses

Where the connection refuses a request, what was recorded for it is taken back, and all that is left
of it is an identifier that was drawn in vain (`Session.RevertsOnFailure`).  So an operation that
fails leaves everything that can be seen of the session where it was (`Session.Unmoved`), except
that settings turn the switch also then (`Session.failed_unmoved`). -/

namespace EditorSession

/-- The operation only sends a request. -/
def Operation.Requests : Operation → Prop
  | .register _ _ | .unregister _ | .pull | .initialised => True
  | .change settings => settings = .null
  | _ => False

namespace Session

/-- The other session shows the same attempts, requests and capabilities. -/
structure Unmoved (s s' : Session) : Prop where
  attempts : ∀ m, s'.attemptsFor m = s.attemptsFor m
  pending : ∀ m, s'.registry.hasPending m = s.registry.hasPending m
  outstanding : ∀ n, s'.outstandingRequest n = s.outstandingRequest n
  count : s'.outstandingCount = s.outstandingCount
  next : s'.nextRequestId = s.nextRequestId
  capabilities : s'.capabilities = s.capabilities
  sent : s'.connection.sent = s.connection.sent

/-- If the outcome is a failure, it leaves the ledger as it was, or only an identifier was drawn. -/
def RevertsOnFailure {α : Type} (s : Session) (outcome : Outcome α) : Prop :=
  ∀ e, outcome.1 = .error e → outcome.2.ledger = s.ledger ∨ outcome.2.ledger = s.ledger.draw

variable {connection : Connection} {supply : Nat → RegistrationId} {config : Config}
  {s s' : Session} {operation : Operation} {settings : Json} {e : ClientError}

/-! ### Ledgers that show the same -/

/-- Neither the identifiers that were drawn nor the switch are shown among the rest. -/
theorem unmoved_of_ledger {drawn : Nat} {formatOnType : Bool} (h : s'.ledger =
    { s.ledger with drawn := drawn, formatOnType := formatOnType }) : s.Unmoved s' := by
  have hrecorded : ∀ m, s'.registry.recorded m = s.registry.recorded m :=
    fun m => congrArg (Ledger.recorded · m) h
  have hwaiting : ∀ n, s'.outstanding.find? n = s.outstanding.find? n :=
    fun n => congrArg (Ledger.waiting · n) h
  constructor
  case attempts =>
    intro m
    rw [attemptsFor, attemptsFor, Registry.attemptsFor, Registry.attemptsFor, hrecorded]
  case pending =>
    intro m
    rw [Registry.hasPending, Registry.hasPending, hrecorded]
  case outstanding => exact hwaiting
  case count =>
    rw [outstandingCount, outstandingCount, Table.size_eq_ncard, Table.size_eq_ncard]
    simp only [hwaiting]
  case next => exact congrArg Ledger.nextRequestId h
  case capabilities => exact congrArg Ledger.capabilities h
  case sent => exact congrArg Ledger.sent h

theorem unmoved_of_reverted (h : s'.ledger = s.ledger ∨ s'.ledger = s.ledger.draw) :
    s.Unmoved s' ∧ s'.formatOnType = s.formatOnType := by
  rcases h with h | h
  · exact ⟨unmoved_of_ledger h, congrArg Ledger.formatOnType h⟩
  · exact ⟨unmoved_of_ledger h, congrArg Ledger.formatOnType h⟩

/-! ### What a refused request leaves behind -/

theorem RevertsOnFailure.congr {α β : Type} {outcome : Outcome α} {outcome' : Outcome β}
    (h : s.RevertsOnFailure outcome) (hl : outcome'.2.ledger = outcome.2.ledger)
    (he : ∀ e, outcome'.1 = .error e → outcome.1 = .error e) : s.RevertsOnFailure outcome' := by
  intro e hfail
  rw [hl]
  exact h e (he e hfail)

theorem RevertsOnFailure.discarding {α : Type} {outcome : Outcome α}
    (h : s.RevertsOnFailure outcome) : s.RevertsOnFailure (discarding outcome) :=
  h.congr rfl fun _ => eq_error_of_map_eq_error

theorem RevertsOnFailure.replying {α : Type} {outcome : Outcome α} (h : s.RevertsOnFailure outcome)
    (reply : α → Reply) : s.RevertsOnFailure (replying reply outcome) :=
  h.congr rfl fun _ => eq_error_of_map_eq_error

theorem reverts_registerCapability (hs : s.ledger.Sound) (hi : Function.Injective s.supply)
    (method : String) (options : Option Json) :
    s.RevertsOnFailure (s.registerCapability method options) := by
  intro e he
  rcases registerCapability_cases hs hi method options with
    ⟨s', hreg, -⟩ | ⟨e', s', hreg, hl, -⟩
  · rw [hreg] at he
    cases he
  · rw [hreg]
    exact .inr hl

theorem reverts_unregisterCapability (hs : s.ledger.Sound) (method : String) :
    s.RevertsOnFailure (s.unregisterCapability method) := by
  intro e he
  rcases unregisterCapability_cases hs method with ⟨s', hreg, -⟩ | ⟨e', s', hreg, hl, -⟩
  · rw [hreg] at he
    cases he
  · rw [hreg]
    exact .inl hl

theorem reverts_pullConfiguration (s : Session) : s.RevertsOnFailure s.pullConfiguration := by
  intro e he
  rcases s.pullConfiguration_cases with ⟨s', hp, -⟩ | ⟨e', s', hp, hl, -⟩
  · rw [hp] at he
    cases he
  · rw [hp]
    exact .inl hl

theorem reverts_toggleOnTypeFormatting (hs : s.ledger.Sound) (hi : Function.Injective s.supply)
    (enable : Bool) : s.RevertsOnFailure (s.toggleOnTypeFormatting enable) := by
  rw [toggleOnTypeFormatting_eq]
  split_ifs
  · exact (reverts_registerCapability hs hi _ _).discarding
  · exact reverts_unregisterCapability hs _

/-- An operation that only sends a request takes back what it did if the request is refused. -/
theorem reverts_perform (hs : s.ledger.Sound) (hi : Function.Injective s.supply)
    (hop : operation.Requests) : s.RevertsOnFailure (s.perform operation) := by
  cases operation with
  | register method options => exact (reverts_registerCapability hs hi method options).replying _
  | unregister method => exact (reverts_unregisterCapability hs method).replying _
  | pull => exact s.reverts_pullConfiguration.replying _
  | change settings =>
      have hnull : settings = .null := hop
      refine RevertsOnFailure.replying ?_ _
      rw [changeConfiguration_eq, if_pos hnull]
      exact s.reverts_pullConfiguration.discarding
  | initialised =>
      refine RevertsOnFailure.replying ?_ _
      obtain ⟨log, ⟨-, heq⟩ | heq⟩ := s.initialised_cases
      · rw [heq]
        exact (reverts_registerCapability (s := { s with log := log }) hs hi _ _).discarding
      · rw [heq]
        exact fun _ he => nomatch he
  | _ => exact hop.elim

/-- Settings turn the switch, but a request that they cause is taken back if it is refused. -/
theorem unmoved_applySettings (hs : s.ledger.Sound) (hi : Function.Injective s.supply)
    (h : (s.applySettings settings).1 = .error e) : s.Unmoved (s.applySettings settings).2 ∧
      s.requestedFormatOnType settings = some (s.applySettings settings).2.formatOnType := by
  by_cases hturns : s.Turns settings
  · by_cases hc : s.ledger.SupportsFormatting
    · obtain ⟨log, heq⟩ := applySettings_of_turns hturns hc
      rw [heq] at h
      have hreverted := reverts_toggleOnTypeFormatting hs hi (!s.formatOnType) e h
      rw [heq]
      refine ⟨?_, hturns⟩
      rcases hreverted with hl | hl
      · exact unmoved_of_ledger
          (congrArg (fun l : Ledger => { l with formatOnType := !s.formatOnType }) hl)
      · exact unmoved_of_ledger
          (congrArg (fun l : Ledger => { l with formatOnType := !s.formatOnType }) hl)
    · obtain ⟨log, heq⟩ := applySettings_of_turns_of_not_supports hturns hc
      rw [heq] at h
      cases h
  · obtain ⟨log, heq⟩ := applySettings_of_not_turns hturns
    rw [heq] at h
    cases h

theorem Unmoved.of_ledger_eq {s₁ : Session} (h : s₁.Unmoved s') (hl : s₁.ledger = s.ledger) :
    s.Unmoved s' := by
  have h₁ : s.Unmoved s₁ := unmoved_of_ledger hl
  exact ⟨fun m => (h.attempts m).trans (h₁.attempts m), fun m => (h.pending m).trans (h₁.pending m),
    fun n => (h.outstanding n).trans (h₁.outstanding n), h.count.trans h₁.count,
    h.next.trans h₁.next, h.capabilities.trans h₁.capabilities, h.sent.trans h₁.sent⟩

/-! ### Operations that fail -/

/-- A failure leaves the session where it was.  After every sequence of operations: one that only
sends a request and fails changes nothing that is shown; one that brings settings and fails changes
nothing but the switch, which is where the settings say; and a response that is handed to the
handler of another kind of request changes nothing at all. -/
theorem failed_unmoved (hi : Function.Injective supply) (operations : List Operation) :
    let s := (start connection supply config).run operations
    (∀ operation e s', operation.Requests → s.perform operation = (.error e, s') →
      s.Unmoved s' ∧ s'.formatOnType = s.formatOnType) ∧
    (∀ operation settings e s', s.delivery? operation = some settings →
      operation.number? = none → s.perform operation = (.error e, s') →
      s.Unmoved s' ∧ s.requestedFormatOnType settings = some s'.formatOnType) ∧
    (∀ response asked, (∀ registrations, asked ≠ .register registrations) →
      s.onRegisterResponse response asked =
        (.error (.unexpectedResponse Method.registerCapability asked.method), s)) ∧
    (∀ response asked, (∀ entries, asked ≠ .unregister entries) →
      s.onUnregisterResponse response asked =
        (.error (.unexpectedResponse Method.unregisterCapability asked.method), s)) := by
  intro s
  have hs : s.ledger.Sound := sound_run hi operations
  have hsupply : Function.Injective s.supply := by
    rw [((start connection supply config).terms_run operations).2.1]
    exact hi
  refine ⟨fun operation e s' hop h => ?_, fun operation settings e s' hd hnumber h => ?_,
    fun response asked hkind => ?_, fun response asked hkind => ?_⟩
  · have hreverted := reverts_perform hs hsupply hop e (congrArg Prod.fst h)
    rw [h] at hreverted
    exact unmoved_of_reverted hreverted
  · obtain ⟨outstanding, log, heq, hl⟩ := perform_of_delivery hd
    rw [Ledger.taking_of_number?_eq_none hnumber] at hl
    rw [heq] at h
    obtain ⟨hunmoved, hvalue⟩ := unmoved_applySettings
      (s := { s with outstanding := outstanding, log := log }) (hl ▸ hs) hsupply
      (eq_error_of_map_eq_error (congrArg Prod.fst h))
    have hs' : s' = _ := (congrArg Prod.snd h).symm
    rw [hs']
    exact ⟨hunmoved.of_ledger_eq hl, hvalue⟩
  · cases asked with
    | register registrations => exact absurd rfl (hkind registrations)
    | _ => rfl
  · cases asked with
    | unregister entries => exact absurd rfl (hkind entries)
    | _ => rfl

/-- Three attempts to register the method, of which the client accepted one and refused one, and
after which the connection refuses everything. -/
def halfAnswered : Session :=
  (start (Connection.accepting.refuseAfter 3 .disconnected) .ofLength .default).run
    [.declare (leafAt (Capabilities.registrationPath Method.onTypeFormatting) (.boolean true)),
      .register "a/b" none, .register "a/b" none, .register "a/b" none,
      .handle (.success 1 .null), .handle (.failure 2 0 "")]

/-- What could not be unregistered is as it was, whichever state it was in, and settings turn the
switch although the registration could not be sent. -/
theorem failed_unmoved_of_halfAnswered :
    halfAnswered.attemptsFor "a/b" = [⟨some (.ofLength 0), true, .complete⟩,
      ⟨some (.ofLength 1), false, .complete⟩, ⟨some (.ofLength 2), false, .pending⟩] ∧
    (∃ e s', halfAnswered.perform (.unregister "a/b") = (.error e, s') ∧
      halfAnswered.Unmoved s') ∧
    ∃ e s', halfAnswered.perform
        (.apply (leafAt ("puppet" :: formatOnTypeKeys) (.boolean true))) = (.error e, s') ∧
      halfAnswered.Unmoved s' ∧ s'.formatOnType = true := by
  obtain ⟨hrequests, hsettings, -⟩ := @failed_unmoved
    (Connection.accepting.refuseAfter 3 .disconnected) .ofLength .default
    RegistrationId.ofLength_injective
    [.declare (leafAt (Capabilities.registrationPath Method.onTypeFormatting) (.boolean true)),
      .register "a/b" none, .register "a/b" none, .register "a/b" none,
      .handle (.success 1 .null), .handle (.failure 2 0 "")]
  refine ⟨by decide, ⟨_, _, rfl, (hrequests (.unregister "a/b") _ _ trivial rfl).1⟩,
    ⟨_, _, rfl, ?_, rfl⟩⟩
  exact (hsettings (.apply (leafAt ("puppet" :: formatOnTypeKeys) (.boolean true))) _ _ _ rfl rfl
    rfl).1

end Session

end EditorSession
