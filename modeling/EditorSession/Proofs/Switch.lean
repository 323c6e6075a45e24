import EditorSession.Proofs.Changes
import EditorSession.Proofs.Convergence

/-! # The switch follows the settings

However settings reach the session, the switch is at the last value that they gave it
(`Session.formatOnType_run`).  The client is asked to register formatting while typing where that
value becomes true, and what the connection makes of the request has no bearing on the switch
(`Session.dispatched_applySettings`).  So the same settings, delivered again, find nothing to do
(`Session.perform_of_not_turns`). -/

namespace EditorSession

/-- The request asks to register the method. -/
def Dispatch.Registers (d : Dispatch) (method : String) : Prop :=
  ∃ registrations n, d.request = (ClientRequest.register registrations).toRequest n ∧
    ∃ r ∈ registrations, r.method = method

namespace Session
variable {s s' : Session} {operation : Operation} {settings : Json}

/-! ### The value of the switch -/

theorem requestedFormatOnType_perform (s : Session) (operation : Operation) :
    (s.perform operation).2.requestedFormatOnType = s.requestedFormatOnType := by
  unfold requestedFormatOnType
  rw [(s.terms_perform operation).1]

/-- The switch is at the last value that the delivered settings gave it. -/
theorem formatOnType_run (s : Session) (operations : List Operation) :
    (s.run operations).formatOnType =
      ((s.deliveries operations).filterMap s.requestedFormatOnType).getLast?.getD
        s.formatOnType := by
  induction operations generalizing s with
  | nil => rfl
  | cons operation rest ih =>
      rw [run_cons, ih, formatOnType_perform, requestedFormatOnType_perform, switchAfter,
        deliveries, List.filterMap_append, List.getLast?_append]
      have hfirst : ((s.delivery? operation).toList.filterMap s.requestedFormatOnType).getLast? =
          (s.delivery? operation).bind s.requestedFormatOnType := by
        cases s.delivery? operation with
        | none => rfl
        | some settings =>
            cases hr : s.requestedFormatOnType settings <;> simp [hr]
      rw [hfirst]
      generalize (List.filterMap _ _).getLast? = last
      cases last with
      | none => rfl
      | some value => rfl

/-! ### Requests that settings cause -/

theorem dispatched_send (s : Session) (asked : ClientRequest) : ∃ accepted,
    (s.send asked).2.connection.dispatched =
      s.connection.dispatched ++ [⟨asked.toRequest s.nextRequestId, accepted⟩] := by
  unfold send Connection.give
  cases s.connection.refusal s.connection.dispatched.length with
  | none => exact ⟨true, rfl⟩
  | some cause => exact ⟨false, rfl⟩

theorem dispatched_registerCapability (s : Session) (method : String) (options : Option Json) :
    ∃ accepted, (s.registerCapability method options).2.connection.dispatched =
      s.connection.dispatched ++
        [⟨(ClientRequest.register [⟨s.ledger.fresh, method, options⟩]).toRequest s.nextRequestId,
          accepted⟩] := by
  obtain ⟨log, heq⟩ := s.registerCapability_eq method options
  have hsend := ({ s.recording method with log := log } : Session).dispatched_send
    (.register [⟨s.ledger.fresh, method, options⟩])
  rw [heq]
  generalize ({ s.recording method with log := log } : Session).send _ = outcome at hsend ⊢
  rcases outcome with ⟨e | n, s'⟩ <;> exact hsend

theorem dispatched_unregisterCapability (s : Session) (method : String) :
    ∃ given, (s.unregisterCapability method).2.connection.dispatched =
      s.connection.dispatched ++ given ∧ given.length ≤ 1 ∧
        ∀ d ∈ given, ∃ entries n, d.request = (ClientRequest.unregister entries).toRequest n := by
  obtain ⟨log, ⟨-, heq⟩ | ⟨-, heq⟩⟩ := s.unregisterCapability_eq method
  · refine ⟨[], ?_, by simp, nofun⟩
    rw [heq, List.append_nil]
  · obtain ⟨entries, hentries⟩ : ∃ entries : List Unregistration,
        entries = (s.ledger.live method).map fun id => ⟨id, method⟩ := ⟨_, rfl⟩
    rw [← hentries] at heq
    obtain ⟨accepted, hsend⟩ :=
      ({ s.marking method with log := log } : Session).dispatched_send (.unregister entries)
    refine ⟨[⟨(ClientRequest.unregister entries).toRequest s.nextRequestId, accepted⟩], ?_,
      le_rfl, fun d hd => ?_⟩
    · rw [heq]
      generalize ({ s.marking method with log := log } : Session).send _ = outcome at hsend ⊢
      rcases outcome with ⟨e | n, s'⟩ <;> exact hsend
    · rw [List.mem_singleton.mp hd]
      exact ⟨entries, _, rfl⟩

/-- An unregistration registers nothing. -/
theorem not_registers_of_unregister {d : Dispatch} {entries : List Unregistration} {n : Int}
    {method : String} (h : d.request = (ClientRequest.unregister entries).toRequest n) :
    ¬ d.Registers method := by
  rintro ⟨registrations, k, hd, -⟩
  have hsame := ClientRequest.toRequest_inj.mp (h.symm.trans hd)
  cases hsame.1

/-- Settings cause at most one request, and it is to register formatting while typing where they
turn the switch on and the client supports that. -/
theorem dispatched_applySettings (s : Session) (settings : Json) :
    ∃ given, (s.applySettings settings).2.connection.dispatched =
      s.connection.dispatched ++ given ∧ given.length ≤ 1 ∧
        ((∃ d ∈ given, d.Registers Method.onTypeFormatting) ↔
          s.formatOnType = false ∧ (s.applySettings settings).2.formatOnType = true ∧
            s.SupportsFormatting) := by
  have hvalue : (s.applySettings settings).2.formatOnType =
      (s.requestedFormatOnType settings).getD s.formatOnType :=
    congrArg Settings.formatOnType (s.settings_applySettings settings)
  by_cases h : s.Turns settings
  · have hturned : (s.applySettings settings).2.formatOnType = !s.formatOnType := by
      rw [hvalue, show s.requestedFormatOnType settings = some !s.formatOnType from h]
      rfl
    by_cases hc : s.ledger.SupportsFormatting
    · obtain ⟨log, heq⟩ := applySettings_of_turns h hc
      rw [hturned, heq]
      dsimp only
      rw [toggleOnTypeFormatting_eq]
      cases hf : s.formatOnType with
      | false =>
          obtain ⟨accepted, hgiven⟩ := s.dispatched_registerCapability Method.onTypeFormatting
            (some onTypeFormattingOptions)
          refine ⟨_, hgiven, le_rfl, iff_of_true ?_ ⟨rfl, rfl, hc⟩⟩
          exact ⟨_, List.mem_singleton_self _, _, _, rfl, _, List.mem_singleton_self _, rfl⟩
      | true =>
          obtain ⟨given, hgiven, hlength, hunregister⟩ :=
            s.dispatched_unregisterCapability Method.onTypeFormatting
          refine ⟨given, hgiven, hlength, iff_of_false ?_ (fun hoff => nomatch hoff.1)⟩
          rintro ⟨d, hd, hregisters⟩
          obtain ⟨entries, n, hrequest⟩ := hunregister d hd
          exact not_registers_of_unregister hrequest hregisters
    · obtain ⟨log, heq⟩ := applySettings_of_turns_of_not_supports h hc
      refine ⟨[], ?_, by simp, iff_of_false ?_ (fun hon => hc hon.2.2)⟩
      · rw [heq, List.append_nil]
      · simp
  · obtain ⟨log, heq⟩ := applySettings_of_not_turns h
    refine ⟨[], ?_, by simp, iff_of_false ?_ ?_⟩
    · rw [heq, List.append_nil]
    · simp
    · rintro ⟨hoff, hon, -⟩
      rw [heq] at hon
      exact absurd (hoff.symm.trans hon) Bool.false_ne_true

theorem Change.dispatched (h : Change s s') :
    ∃ given, s'.connection.dispatched = s.connection.dispatched ++ given := by
  cases h with
  | send _ =>
      obtain ⟨accepted, hgiven⟩ := s.dispatched_send _
      exact ⟨_, hgiven⟩
  | _ => exact ⟨[], (List.append_nil _).symm⟩

theorem Changes.dispatched (h : s.Changes s') :
    ∃ given, s'.connection.dispatched = s.connection.dispatched ++ given := by
  induction h with
  | refl => exact ⟨[], (List.append_nil _).symm⟩
  | tail _ hlast ih =>
      obtain ⟨given, hgiven⟩ := ih
      obtain ⟨more, hmore⟩ := hlast.dispatched
      exact ⟨given ++ more, by rw [hmore, hgiven, List.append_assoc]⟩

/-! ### Settings that are delivered again -/

/-- Settings that were delivered do not turn the switch. -/
theorem not_turns_of_delivered (h : s.delivery? operation = some settings) :
    ¬ (s.perform operation).2.Turns settings := by
  unfold Turns
  rw [formatOnType_perform, requestedFormatOnType_perform, switchAfter, h]
  show s.requestedFormatOnType settings ≠
    some !(s.requestedFormatOnType settings).getD s.formatOnType
  cases s.requestedFormatOnType settings with
  | none => exact (Option.some_ne_none _).symm
  | some value => simp

/-- Settings that do not turn the switch change nothing, whichever way they are delivered. -/
theorem perform_of_not_turns (h : s.delivery? operation = some settings)
    (hnot : ¬ s.Turns settings) : (s.perform operation).1 = .ok .done ∧
      ∃ outstanding log, (s.perform operation).2 =
          { s with outstanding := outstanding, log := log } ∧
        ∀ n, outstanding.find? n =
          if operation.number? = some n then none else s.outstandingRequest n := by
  obtain ⟨outstanding, log, heq, hledger⟩ := perform_of_delivery h
  obtain ⟨log', hsame⟩ := applySettings_of_not_turns
    (s := { s with outstanding := outstanding, log := log }) hnot
  rw [heq, hsame]
  refine ⟨rfl, outstanding, log', rfl, fun n => ?_⟩
  exact (congrArg (Ledger.waiting · n) hledger).trans (s.ledger.waiting_taking operation n)

/-- An operation gives its requests to the connection after those before it. -/
theorem dispatched_perform (s : Session) (operation : Operation) :
    ∃ given, (s.perform operation).2.connection.dispatched = s.connection.dispatched ++ given := by
  obtain ⟨s₁, hchanges, heq⟩ := s.perform_changes operation
  rw [heq]
  exact hchanges.dispatched

/-! ### The switch along a run -/

/-- The switch follows the settings, whatever the connection answers.  It is at the last value that
the delivered settings gave it, or at that of the configuration.  Settings cause at most one
request, and they ask to register formatting while typing exactly where the switch is turned on and
the client supports that.  Settings that are delivered once more right afterwards change nothing,
except that a response that brings them is taken in. -/
theorem switch_follows_settings (connection : Connection) (supply : Nat → RegistrationId)
    (config : Config) (operations : List Operation) :
    let origin := start connection supply config
    let s := origin.run operations
    s.formatOnType = ((origin.deliveries operations).filterMap
      (·.lookupBool (config.configurationSection :: formatOnTypeKeys))).getLast?.getD
        config.formatOnType ∧
    ∀ operation,
      let s' := (s.perform operation).2
      (∃ given, s'.connection.dispatched = s.connection.dispatched ++ given ∧
        (s.delivery? operation ≠ none → given.length ≤ 1) ∧
        ((s.delivery? operation ≠ none ∧ ∃ d ∈ given, d.Registers Method.onTypeFormatting) ↔
          s.formatOnType = false ∧ s'.formatOnType = true ∧ s.SupportsFormatting)) ∧
      ∀ settings again, s.delivery? operation = some settings →
        s'.delivery? again = some settings → (s'.perform again).1 = .ok .done ∧
          ∃ outstanding log, (s'.perform again).2 =
              { s' with outstanding := outstanding, log := log } ∧
            ∀ n, outstanding.find? n =
              if again.number? = some n then none else s'.outstandingRequest n := by
  intro origin s
  refine ⟨origin.formatOnType_run operations, fun operation => ?_⟩
  intro s'
  refine ⟨?_, fun settings again h hagain =>
    perform_of_not_turns hagain (not_turns_of_delivered h)⟩
  cases hd : s.delivery? operation with
  | none =>
      obtain ⟨given, hgiven⟩ := s.dispatched_perform operation
      refine ⟨given, hgiven, fun hne => absurd rfl hne, iff_of_false (fun h => h.1 rfl) ?_⟩
      rintro ⟨hoff, hon, -⟩
      have hsame : s'.formatOnType = s.formatOnType := by
        rw [formatOnType_perform, switchAfter, hd]
        rfl
      rw [hsame, hoff] at hon
      cases hon
  | some settings =>
      obtain ⟨outstanding, log, heq, -⟩ := perform_of_delivery hd
      obtain ⟨given, hgiven, hlength, hregisters⟩ := ({ s with outstanding := outstanding, log :=
        log } : Session).dispatched_applySettings settings
      have hs' : s' = (({ s with outstanding := outstanding, log := log } :
        Session).applySettings settings).2 := congrArg Prod.snd heq
      rw [hs']
      exact ⟨given, hgiven, fun _ => hlength,
        (and_iff_right (Option.some_ne_none settings)).trans hregisters⟩

/-- The connection refuses the registration, and the switch is on all the same: the answer to a pull
with the same settings finds nothing to do. -/
theorem switch_follows_settings_of_refused :
    let s := (start (Connection.accepting.refuseAfter 0 .disconnected) .ofLength .default).run
      [.declare (leafAt (Capabilities.registrationPath Method.onTypeFormatting) (.boolean true))]
    let s' := (s.perform (.apply (leafAt ("puppet" :: formatOnTypeKeys) (.boolean true)))).2
    let again := Operation.onConfiguration
      (.success 1 (.array [leafAt formatOnTypeKeys (.boolean true)]))
    (s.formatOnType = false ∧ s'.formatOnType = true ∧ s'.connection.sent = []) ∧
    (∃ given, s'.connection.dispatched = s.connection.dispatched ++ given ∧
      ∃ d ∈ given, d.Registers Method.onTypeFormatting) ∧
    (s'.perform again).1 = .ok .done := by
  intro s s' again
  obtain ⟨⟨given, hgiven, -, hregisters⟩, hagain⟩ :=
    (switch_follows_settings (Connection.accepting.refuseAfter 0 .disconnected) .ofLength .default
      [.declare (leafAt (Capabilities.registrationPath Method.onTypeFormatting)
        (.boolean true))]).2 (.apply (leafAt ("puppet" :: formatOnTypeKeys) (.boolean true)))
  exact ⟨by decide, ⟨given, hgiven, (hregisters.mpr ⟨rfl, rfl, rfl⟩).2⟩, (hagain _ again rfl rfl).1⟩

end Session

end EditorSession
