import EditorSession.Proofs.Runs
import EditorSession.Proofs.Switch

/-! # Pulls are neither lost nor duplicated

The session pulls the configuration on demand, when the client says that its settings changed
without saying how, and when the client agrees to announce such changes.  `Session.Asks` counts the
pulls that an operation gives to the connection and says of what form its requests are: a register
request carries one registration, so one answer is followed by at most one pull
(`Session.asks_perform`).  Over a run the counts add up (`Session.asks_run`), and the connection
was given as many pulls as there were such occasions (`Session.pulls_accounted_for`). -/

namespace EditorSession

/-! ### Requests of a session -/

/-- A request as a session makes it, with the section that the session pulls. -/
def ClientRequest.IsPlain (asked : ClientRequest) (sectionName : String) : Prop :=
  match asked with
  | register registrations => ∃ r, registrations = [r]
  | unregister _ => True
  | configuration items => items = [⟨none, some sectionName⟩]

/-- How many pulls of the configuration the request makes. -/
def ClientRequest.pulls : ClientRequest → Nat
  | configuration _ => 1
  | _ => 0

/-- The request asks to register the method. -/
def ClientRequest.registers (asked : ClientRequest) (method : String) : Bool :=
  match asked with
  | register registrations => registrations.any (·.method = method)
  | unregister _ | configuration _ => false

/-- The message pulls the configuration. -/
def Request.isPull (request : Request) : Bool := request.method = Method.configuration

/-- How many pulls the connection was given. -/
def Connection.pulls (c : Connection) : Nat := c.dispatched.countP (·.request.isPull)

theorem ClientRequest.isPull_toRequest (asked : ClientRequest) (n : Int) :
    (asked.toRequest n).isPull = decide (asked.pulls = 1) := by
  cases asked <;> rfl

theorem ClientRequest.IsPlain.eq_of_isPull {asked : ClientRequest} {sectionName : String} {n : Int}
    (h : asked.IsPlain sectionName) (hpull : (asked.toRequest n).isPull = true) :
    asked = .configuration [⟨none, some sectionName⟩] := by
  cases asked with
  | configuration items => exact congrArg ClientRequest.configuration h
  | _ => cases hpull

/-- Of a connection that refused nothing, everything that it was given went out. -/
theorem Connection.sent_of_forall_accepted {c : Connection}
    (h : ∀ d ∈ c.dispatched, d.accepted = true) : c.sent = c.dispatched.map (·.request) := by
  rw [sent, List.filter_eq_self.mpr h]

namespace Session

/-! ### What operations ask -/

/-- The session comes to the other one and gives that many pulls to the connection; all requests
that it makes on the way are plain. -/
structure Asks (s s' : Session) (pulls : Nat) : Prop where
  sectionName : s'.sectionName = s.sectionName
  count : s'.connection.pulls = s.connection.pulls + pulls
  given : ∀ d ∈ s'.connection.dispatched, d ∈ s.connection.dispatched ∨
    ∃ asked n, d.request = ClientRequest.toRequest asked n ∧ asked.IsPlain s.sectionName
  waiting : ∀ n asked, s'.outstandingRequest n = some asked →
    s.outstandingRequest n = some asked ∨ asked.IsPlain s.sectionName

section asks
variable {s s₁ s' : Session} {asked : ClientRequest} {k more : Nat}

/-- Nothing is asked as long as the connection is left alone. -/
theorem asks_nothing (hc : s'.connection = s.connection) (hn : s'.sectionName = s.sectionName)
    (hw : ∀ n asked, s'.outstandingRequest n = some asked → s.outstandingRequest n = some asked) :
    s.Asks s' 0 where
  sectionName := hn
  count := congrArg Connection.pulls hc
  given := fun _ hd => .inl (hc ▸ hd)
  waiting := fun n asked h => .inl (hw n asked h)

theorem Asks.trans (h : s.Asks s₁ k) (h' : s₁.Asks s' more) : s.Asks s' (k + more) where
  sectionName := h'.sectionName.trans h.sectionName
  count := by rw [h'.count, h.count, Nat.add_assoc]
  given := fun d hd => by
    rcases h'.given d hd with hold | hnew
    · exact h.given d hold
    · exact .inr (h.sectionName ▸ hnew)
  waiting := fun n asked hw => by
    rcases h'.waiting n asked hw with hold | hnew
    · exact h.waiting n asked hold
    · exact .inr (h.sectionName ▸ hnew)

/-- What is asked after something else changed. -/
theorem Asks.of_same (h : s₁.Asks s' k) (hc : s₁.connection = s.connection)
    (hn : s₁.sectionName = s.sectionName)
    (hw : ∀ n asked, s₁.outstandingRequest n = some asked → s.outstandingRequest n = some asked) :
    s.Asks s' k := by
  have hfirst := (asks_nothing hc hn hw).trans h
  rwa [Nat.zero_add] at hfirst

/-- What is asked before something else changes. -/
theorem Asks.to_same (h : s.Asks s₁ k) (hc : s'.connection = s₁.connection)
    (hn : s'.sectionName = s₁.sectionName)
    (hw : ∀ n asked, s'.outstandingRequest n = some asked → s₁.outstandingRequest n = some asked) :
    s.Asks s' k := h.trans (asks_nothing hc hn hw)

theorem asks_send (h : asked.IsPlain s.sectionName) : s.Asks (s.send asked).2 asked.pulls := by
  obtain ⟨accepted, hgiven⟩ := s.dispatched_send asked
  have hledger : (s.send asked).2.ledger = s.ledger.dispatch asked ∨
      (s.send asked).2.ledger = s.ledger := by
    rcases s.send_cases asked with ⟨s', hsend, hl⟩ | ⟨e, s', hsend, hl, -⟩
    · exact .inl (by rw [hsend, hl])
    · exact .inr (by rw [hsend, hl])
  constructor
  case sectionName =>
    rcases hledger with hl | hl
    · exact congrArg Ledger.sectionName hl
    · exact congrArg Ledger.sectionName hl
  case count =>
    rw [Connection.pulls, hgiven, List.countP_append, List.countP_singleton,
      ClientRequest.isPull_toRequest]
    cases asked <;> rfl
  case given =>
    intro d hd
    rw [hgiven, List.mem_append, List.mem_singleton] at hd
    exact hd.imp_right fun hd => ⟨asked, s.nextRequestId, by rw [hd], h⟩
  case waiting =>
    intro n other hw
    have hw' : (s.send asked).2.ledger.waiting n = some other := hw
    rcases hledger with hl | hl
    · rw [hl] at hw'
      rcases Ledger.waiting_dispatch_eq_some hw' with ⟨-, rfl⟩ | hold
      · exact .inr h
      · exact .inl hold.2
    · rw [hl] at hw'
      exact .inl hw'

theorem asks_pullConfiguration (s : Session) : s.Asks s.pullConfiguration.2 1 := by
  have hplain : (ClientRequest.configuration [⟨none, some s.sectionName⟩]).IsPlain
      s.sectionName := rfl
  exact asks_send hplain

theorem asks_of_pullConfiguration {outcome : Outcome Int} (h : s.pullConfiguration = outcome) :
    s.Asks outcome.2 1 := h ▸ s.asks_pullConfiguration

theorem asks_registerCapability (s : Session) (method : String) (options : Option Json) :
    s.Asks (s.registerCapability method options).2 0 := by
  obtain ⟨log, heq⟩ := s.registerCapability_eq method options
  obtain ⟨s₁, hs₁⟩ : ∃ s₁ : Session, s₁ = { s.recording method with log := log } := ⟨_, rfl⟩
  have hplain : (ClientRequest.register [⟨s.ledger.fresh, method, options⟩]).IsPlain
      s₁.sectionName := ⟨_, rfl⟩
  have hstart : s.Asks s₁ 0 := by
    rw [hs₁]
    exact asks_nothing rfl rfl fun _ _ h => h
  have hsend : s.Asks (s₁.send (.register [⟨s.ledger.fresh, method, options⟩])).2 0 :=
    hstart.trans (asks_send hplain)
  rw [heq, ← hs₁]
  generalize s₁.send (.register [⟨s.ledger.fresh, method, options⟩]) = outcome at hsend ⊢
  rcases outcome with ⟨e | n, s'⟩
  · exact hsend.to_same rfl rfl fun _ _ h => h
  · exact hsend

theorem asks_unregisterCapability (s : Session) (method : String) :
    s.Asks (s.unregisterCapability method).2 0 := by
  obtain ⟨log, ⟨-, heq⟩ | ⟨-, heq⟩⟩ := s.unregisterCapability_eq method
  · rw [heq]
    exact asks_nothing rfl rfl fun _ _ h => h
  · obtain ⟨s₁, hs₁⟩ : ∃ s₁ : Session, s₁ = { s.marking method with log := log } := ⟨_, rfl⟩
    have hplain : (ClientRequest.unregister ((s.ledger.live method).map fun id =>
        ⟨id, method⟩)).IsPlain s₁.sectionName := trivial
    have hstart : s.Asks s₁ 0 := by
      rw [hs₁]
      exact asks_nothing rfl rfl fun _ _ h => h
    have hsend : s.Asks
        (s₁.send (.unregister ((s.ledger.live method).map fun id => ⟨id, method⟩))).2 0 :=
      hstart.trans (asks_send hplain)
    rw [heq, ← hs₁]
    generalize s₁.send (.unregister ((s.ledger.live method).map fun id => ⟨id, method⟩)) =
      outcome at hsend ⊢
    rcases outcome with ⟨e | n, s'⟩
    · exact hsend.to_same rfl rfl fun _ _ h => h
    · exact hsend

/-! ### Settings -/

theorem asks_applySettings (s : Session) (settings : Json) :
    s.Asks (s.applySettings settings).2 0 := by
  by_cases hturns : s.Turns settings
  · by_cases hc : s.ledger.SupportsFormatting
    · obtain ⟨log, heq⟩ := applySettings_of_turns hturns hc
      have htoggle : s.Asks (s.toggleOnTypeFormatting !s.formatOnType).2 0 := by
        rw [toggleOnTypeFormatting_eq]
        split_ifs
        · exact s.asks_registerCapability _ _
        · exact s.asks_unregisterCapability _
      rw [heq]
      exact htoggle.to_same rfl rfl fun _ _ h => h
    · obtain ⟨log, heq⟩ := applySettings_of_turns_of_not_supports hturns hc
      rw [heq]
      exact asks_nothing rfl rfl fun _ _ h => h
  · obtain ⟨log, heq⟩ := applySettings_of_not_turns hturns
    rw [heq]
    exact asks_nothing rfl rfl fun _ _ h => h

theorem asks_changeConfiguration (s : Session) (settings : Json) :
    s.Asks (s.changeConfiguration settings).2 (if settings = .null then 1 else 0) := by
  rw [changeConfiguration_eq]
  split_ifs
  · exact s.asks_pullConfiguration
  · exact s.asks_applySettings settings

theorem asks_onConfigurationResponse (s : Session) (response : Response) :
    s.Asks (s.onConfigurationResponse response).2 0 := by
  obtain ⟨log, heq⟩ := s.onConfigurationResponse_eq response
  rw [heq]
  cases s.answered? response with
  | some settings => exact s.asks_applySettings settings
  | none => exact asks_nothing rfl rfl fun _ _ h => h

theorem asks_initialised (s : Session) : s.Asks s.initialised.2 0 := by
  obtain ⟨log, ⟨-, heq⟩ | heq⟩ := s.initialised_cases
  · rw [heq]
    exact (asks_registerCapability _ _ _).of_same rfl rfl fun _ _ h => h
  · rw [heq]
    exact asks_nothing rfl rfl fun _ _ h => h

/-! ### Answers -/

theorem asks_refuseRegistrations (s : Session) (registrations : List Registration) :
    s.Asks (s.refuseRegistrations registrations) 0 := by
  induction registrations generalizing s with
  | nil => exact asks_nothing rfl rfl fun _ _ h => h
  | cons r rest ih => exact (ih _).of_same rfl rfl fun _ _ h => h

theorem asks_acceptUnregistrations (s : Session) (entries : List Unregistration) :
    s.Asks (s.acceptUnregistrations entries) 0 := by
  induction entries generalizing s with
  | nil => exact asks_nothing rfl rfl fun _ _ h => h
  | cons u rest ih => exact (ih _).of_same rfl rfl fun _ _ h => h

theorem asks_refuseUnregistrations (s : Session) (entries : List Unregistration) :
    s.Asks (s.refuseUnregistrations entries) 0 := by
  induction entries generalizing s with
  | nil => exact asks_nothing rfl rfl fun _ _ h => h
  | cons u rest ih => exact (ih _).of_same rfl rfl fun _ _ h => h

/-- An accepted registration is followed by a pull if changes of the configuration will be announced
from now on. -/
theorem asks_acceptRegistrations_singleton (s : Session) (r : Registration) :
    s.Asks (s.acceptRegistrations [r]).2
      (if r.method = Method.didChangeConfiguration then 1 else 0) := by
  unfold acceptRegistrations
  dsimp only
  split_ifs
  · split
    · next n s' hpull =>
      exact (asks_of_pullConfiguration hpull).of_same rfl rfl fun _ _ h => h
    · next e s' hpull =>
      exact (asks_of_pullConfiguration hpull).of_same rfl rfl fun _ _ h => h
  · exact asks_nothing rfl rfl fun _ _ h => h

theorem asks_onUnregisterResponse (s : Session) (response : Response)
    (entries : List Unregistration) :
    s.Asks (s.onUnregisterResponse response (.unregister entries)).2 0 := by
  simp only [onUnregisterResponse]
  split_ifs
  · exact s.asks_acceptUnregistrations entries
  · exact s.asks_refuseUnregistrations entries

/-! ### Any response -/

/-- The operation brings a response with a result to a request to register for changes of the
configuration. -/
def confirms (s : Session) : Operation → Bool
  | .handle response => response.hasResult &&
    (response.id.bind s.outstandingRequest).any (·.registers Method.didChangeConfiguration)
  | _ => false

/-- The requests that wait are plain. -/
def WaitsPlainly (s : Session) : Prop :=
  ∀ n asked, s.outstandingRequest n = some asked → asked.IsPlain s.sectionName

theorem asks_route (h : asked.IsPlain s.sectionName) (response : Response) :
    s.Asks (s.route response asked).2
      (response.hasResult && asked.registers Method.didChangeConfiguration).toNat := by
  cases asked with
  | register registrations =>
      obtain ⟨r, rfl⟩ := h
      simp only [route, onRegisterResponse]
      cases response.hasResult with
      | true =>
          have haccept := s.asks_acceptRegistrations_singleton r
          by_cases hm : r.method = Method.didChangeConfiguration
          · simpa [ClientRequest.registers, hm] using haccept
          · simpa [ClientRequest.registers, hm] using haccept
      | false => exact s.asks_refuseRegistrations [r]
  | unregister entries =>
      simp only [ClientRequest.registers, Bool.and_false]
      exact s.asks_onUnregisterResponse response entries
  | configuration items =>
      simp only [ClientRequest.registers, Bool.and_false]
      exact s.asks_onConfigurationResponse response

theorem asks_handleResponse (hw : s.WaitsPlainly) (response : Response) :
    s.Asks (s.handleResponse response).2 (s.confirms (.handle response)).toNat := by
  have hconfirms : s.confirms (.handle response) = (response.hasResult &&
    (response.id.bind s.outstandingRequest).any (·.registers Method.didChangeConfiguration)) := rfl
  cases hr : response.id.bind s.outstandingRequest with
  | none =>
      have hnone : ∀ n, response.id = some n → s.outstandingRequest n = none :=
        Option.bind_eq_none_iff.mp hr
      obtain ⟨event, heq⟩ := handleResponse_of_not_waiting hnone
      rw [heq, hconfirms, hr, Option.any_none, Bool.and_false]
      exact asks_nothing rfl rfl fun _ _ h => h
  | some asked =>
      obtain ⟨n, hid, hn⟩ := Option.bind_eq_some_iff.mp hr
      obtain ⟨log, heq⟩ := handleResponse_of_outstanding hid hn
      obtain ⟨s₁, hs₁⟩ : ∃ s₁ : Session,
          s₁ = { s with outstanding := s.outstanding.erase n, log := log } := ⟨_, rfl⟩
      have hplain : asked.IsPlain s₁.sectionName := by
        rw [hs₁]
        exact hw n asked hn
      rw [heq, ← hs₁, hconfirms, hr, Option.any_some]
      refine (asks_route hplain response).of_same (by rw [hs₁]) (by rw [hs₁]) fun k other hk => ?_
      rw [hs₁] at hk
      have hfind : (s.outstanding.erase n).find? k = some other := hk
      rw [Table.find?_erase] at hfind
      split_ifs at hfind
      exact hfind

/-! ### All operations -/

/-- How often the operation makes the session pull the configuration. -/
def pulls (s : Session) : Operation → Nat
  | .pull => 1
  | .change settings => if settings = .null then 1 else 0
  | .handle response => (s.confirms (.handle response)).toNat
  | _ => 0

/-- An operation that takes answers only as responses asks for what `pulls` says. -/
theorem asks_perform (hw : s.WaitsPlainly) {operation : Operation} (hop : operation.IsMediated) :
    s.Asks (s.perform operation).2 (s.pulls operation) := by
  cases operation with
  | declare capabilities => exact asks_nothing rfl rfl fun _ _ h => h
  | initialised => exact s.asks_initialised
  | change settings => exact s.asks_changeConfiguration settings
  | register method options => exact s.asks_registerCapability method options
  | unregister method => exact s.asks_unregisterCapability method
  | pull => exact s.asks_pullConfiguration
  | apply settings => exact s.asks_applySettings settings
  | handle response => exact asks_handleResponse hw response
  | onRegister response asked => exact hop.elim
  | onUnregister response asked => exact hop.elim
  | onConfiguration response => exact s.asks_onConfigurationResponse response

theorem Asks.waitsPlainly (h : s.Asks s' k) (hw : s.WaitsPlainly) : s'.WaitsPlainly := by
  intro n asked hn
  rw [h.sectionName]
  exact (h.waiting n asked hn).elim (hw n asked) id

end asks

/-! ### Runs -/

/-- How many of the operations bring the client's agreement to announce changes. -/
def confirmations (s : Session) : List Operation → Nat
  | [] => 0
  | operation :: rest =>
    (s.confirms operation).toNat + (s.perform operation).2.confirmations rest

theorem pulls_eq (s : Session) (operation : Operation) :
    s.pulls operation = [operation].count .pull + [operation].count (.change .null) +
      (s.confirms operation).toNat := by
  cases operation with
  | change settings => by_cases h : settings = .null <;> simp [pulls, confirms, h]
  | _ => simp [pulls, confirms]

section runs
variable {s : Session} {operations : List Operation}

/-- The pulls of a run are those of its operations. -/
theorem asks_run (hw : s.WaitsPlainly)
    (hmediated : ∀ operation ∈ operations, operation.IsMediated) :
    s.Asks (s.run operations) (operations.count .pull + operations.count (.change .null) +
      s.confirmations operations) := by
  induction operations generalizing s with
  | nil => exact asks_nothing rfl rfl fun _ _ h => h
  | cons operation rest ih =>
      rw [List.forall_mem_cons] at hmediated
      have hstep := asks_perform hw hmediated.1
      have hrun := hstep.trans (ih (hstep.waitsPlainly hw) hmediated.2)
      have hcount : s.pulls operation + (rest.count .pull + rest.count (.change .null) +
            (s.perform operation).2.confirmations rest) =
          (operation :: rest).count .pull + (operation :: rest).count (.change .null) +
            s.confirmations (operation :: rest) := by
        have happend : ∀ wanted : Operation, (operation :: rest).count wanted =
            [operation].count wanted + rest.count wanted := fun wanted => by
          rw [← List.count_append, List.singleton_append]
        rw [pulls_eq, happend, happend, confirmations]
        omega
      rw [← hcount]
      exact hrun

variable {refusal : Nat → Option TransportError} {supply : Nat → RegistrationId} {config : Config}

/-- No pull is lost and none is made twice.  After every sequence of operations in which the answers
arrive as responses, the connection was given one pull for each pull that was demanded, for each
notification of a change without settings, and for each result that answered a request to register
for such notifications; each of them asks for the session's section and for nothing else.  If the
connection refused nothing, so many pulls went out. -/
theorem pulls_accounted_for (hmediated : ∀ operation ∈ operations, operation.IsMediated) :
    let origin := start ⟨refusal, []⟩ supply config
    let s := origin.run operations
    let occasions := operations.count .pull + operations.count (.change .null) +
      origin.confirmations operations
    s.connection.pulls = occasions ∧
    (∀ d ∈ s.connection.dispatched, d.request.method = Method.configuration → ∃ n, d.request =
      (ClientRequest.configuration [⟨none, some config.configurationSection⟩]).toRequest n) ∧
    ((∀ d ∈ s.connection.dispatched, d.accepted = true) →
      (s.connection.sent.filter (·.method = Method.configuration)).length = occasions) := by
  intro origin s occasions
  have hasks : origin.Asks s occasions := asks_run (fun n asked hn => nomatch hn) hmediated
  have hcount : s.connection.pulls = occasions := hasks.count.trans (Nat.zero_add _)
  refine ⟨hcount, fun d hd hm => ?_, fun haccepted => ?_⟩
  · rcases hasks.given d hd with hold | ⟨asked, n, hrequest, hplain⟩
    · nomatch hold
    · have hpull : (asked.toRequest n).isPull = true := by
        rw [← hrequest]
        exact decide_eq_true hm
      exact ⟨n, by rw [hrequest, hplain.eq_of_isPull hpull]; rfl⟩
  · rw [← hcount, Connection.sent_of_forall_accepted haccepted, ← List.countP_eq_length_filter,
      List.countP_map]
    rfl

end runs

/-- Pulls for each reason, with an answer that arrives twice and one about another method. -/
def threePulls : List Operation :=
  [.pull, .change .null, .register Method.didChangeConfiguration none,
    .handle (.success 3 .null), .handle (.success 3 .null), .register "a/b" none,
    .handle (.success 5 .null), .handle (.failure 4 0 "")]

/-- The answer to the registration counts once. -/
theorem pulls_accounted_for_of_threePulls :
    let s := (start .accepting .ofLength .default).run threePulls
    s.connection.pulls = 3 ∧
      (s.connection.sent.filter (·.method = Method.configuration)).length = 3 := by
  have hmediated : ∀ operation ∈ threePulls, operation.IsMediated := by
    simp [threePulls, Operation.IsMediated]
  obtain ⟨hgiven, -, hsent⟩ := @pulls_accounted_for threePulls (fun _ => none) .ofLength .default
    hmediated
  exact ⟨hgiven.trans (by decide), (hsent (by decide)).trans (by decide)⟩

end Session

end EditorSession
