import EditorSession.Proofs.Changes
import EditorSession.Proofs.Runs

/-! # Calls that register or unregister

An operation asks the client at most once to register or unregister a method, and it does so before
anything else, except that a pull which it answers is no longer waited for (`Session.Calls`).  So
what such a request keeps, and what stays whatever identifiers are drawn, settings are pulled and
flags are set, an operation keeps (`Session.perform_keeps_calls`). -/

namespace EditorSession

/-- What stays whatever is drawn, pulled or declared, and wherever the switch is. -/
structure Ledger.Robust (P : Ledger → Prop) : Prop where
  draw : ∀ l, P l → P l.draw
  pull : ∀ l items, P l → P (l.dispatch (.configuration items))
  flags : ∀ (l : Ledger) capabilities formatOnType, P l →
    P { l with capabilities := capabilities, formatOnType := formatOnType }

namespace Session

/-- The operation asks the client to register or unregister the method. -/
inductive Calls (s : Session) : Operation → String → Prop
  | register (method : String) (options : Option Json) : Calls s (.register method options) method
  | unregister (method : String) : Calls s (.unregister method) method
  | initialised :
      s.capabilities.supportsDynamicRegistration Method.didChangeConfiguration = true →
      Calls s .initialised Method.didChangeConfiguration
  | settings {operation : Operation} {settings : Json} :
      s.delivery? operation = some settings → s.Turns settings → s.ledger.SupportsFormatting →
      Calls s operation Method.onTypeFormatting

section calls
variable {s : Session} {operation : Operation} {settings : Json} {method : String}
  {P : Ledger → Prop}

/-- An operation that registers or unregisters settles no attempt before. -/
theorem recorded_taking_of_calls (h : s.Calls operation method) :
    (s.ledger.taking operation).recorded = s.ledger.recorded := by
  cases h with
  | settings hd _ _ =>
      obtain ⟨outstanding, log, -, hl⟩ := perform_of_delivery hd
      exact (congrArg Ledger.recorded hl).symm
  | _ => rfl

theorem registerCapability_keeps (hP : Ledger.Robust P) (hs : s.ledger.Sound)
    (hi : Function.Injective s.supply) {options : Option Json} (h : P s.ledger)
    (hregister : P (s.ledger.register method options)) :
    P (s.registerCapability method options).2.ledger := by
  rcases registerCapability_cases hs hi method options with
    ⟨s', hreg, hl⟩ | ⟨e, s', hreg, hl, -⟩
  · rw [hreg, hl]
    exact hregister
  · rw [hreg, hl]
    exact hP.draw _ h

theorem unregisterCapability_keeps (hs : s.ledger.Sound) (h : P s.ledger)
    (hunregister : P (s.ledger.unregister method)) :
    P (s.unregisterCapability method).2.ledger := by
  rcases unregisterCapability_cases hs method with ⟨s', hreg, hl⟩ | ⟨e, s', hreg, hl, -⟩
  · rw [hreg, hl]
    exact hunregister
  · rw [hreg, hl]
    exact h

theorem pullConfiguration_keeps (hP : Ledger.Robust P) (h : P s.ledger) :
    P s.pullConfiguration.2.ledger := by
  rcases s.pullConfiguration_cases with ⟨s', hp, hl⟩ | ⟨e, s', hp, hl, -⟩
  · rw [hp, hl]
    exact hP.pull _ _ h
  · rw [hp, hl]
    exact h

/-- Settings that turn the switch are followed by a request, where the client supports that. -/
theorem applySettings_keeps (hP : Ledger.Robust P) (hs : s.ledger.Sound)
    (hi : Function.Injective s.supply) (h : P s.ledger)
    (hcalls : s.Turns settings → s.ledger.SupportsFormatting →
      (∀ options, P (s.ledger.register Method.onTypeFormatting options)) ∧
        P (s.ledger.unregister Method.onTypeFormatting)) :
    P (s.applySettings settings).2.ledger := by
  by_cases hturns : s.Turns settings
  · by_cases hc : s.ledger.SupportsFormatting
    · obtain ⟨hregister, hunregister⟩ := hcalls hturns hc
      have htoggled : P (s.toggleOnTypeFormatting !s.formatOnType).2.ledger := by
        rw [toggleOnTypeFormatting_eq]
        split_ifs
        · exact registerCapability_keeps hP hs hi h (hregister (some onTypeFormattingOptions))
        · exact unregisterCapability_keeps hs h hunregister
      obtain ⟨log, heq⟩ := applySettings_of_turns hturns hc
      rw [heq]
      exact hP.flags _ _ _ htoggled
    · obtain ⟨log, heq⟩ := applySettings_of_turns_of_not_supports hturns hc
      rw [heq]
      exact hP.flags s.ledger _ _ h
  · obtain ⟨log, heq⟩ := applySettings_of_not_turns hturns
    rw [heq]
    exact h

theorem delivery_keeps (hP : Ledger.Robust P) (hs : s.ledger.Sound)
    (hi : Function.Injective s.supply) (hd : s.delivery? operation = some settings)
    (htaking : P (s.ledger.taking operation))
    (hcalls : ∀ m, s.Calls operation m →
      (∀ options, P ((s.ledger.taking operation).register m options)) ∧
        P ((s.ledger.taking operation).unregister m)) :
    P (s.perform operation).2.ledger := by
  obtain ⟨outstanding, log, heq, hl⟩ := perform_of_delivery hd
  rw [heq]
  refine applySettings_keeps hP (by rw [hl]; exact hs.taking operation) hi (hl.symm ▸ htaking)
    fun hturns hc => ?_
  rw [hl]
  exact hcalls _ (.settings hd hturns hc)

theorem initialised_keeps (hP : Ledger.Robust P) (hs : s.ledger.Sound)
    (hi : Function.Injective s.supply) (h : P s.ledger)
    (hcalls : s.capabilities.supportsDynamicRegistration Method.didChangeConfiguration = true →
      ∀ options, P (s.ledger.register Method.didChangeConfiguration options)) :
    P s.initialised.2.ledger := by
  obtain ⟨log, ⟨hc, heq⟩ | heq⟩ := s.initialised_cases
  · rw [heq]
    exact registerCapability_keeps (s := { s with log := log }) hP hs hi h (hcalls hc _)
  · rw [heq]
    exact h

/-- A response that brings no settings settles the attempts that it is about, and at most a pull
follows. -/
theorem handleResponse_keeps (hP : Ledger.Robust P) (hs : s.ledger.Sound) {response : Response}
    (hd : s.delivery? (.handle response) = none)
    (htaking : P (s.ledger.taking (.handle response))) :
    P (s.handleResponse response).2.ledger := by
  rcases s.ledger.taking_handle_cases response with ⟨n, asked, hid, hw, htake⟩ | ⟨hnone, htake⟩
  · rw [htake] at htaking
    by_cases hreg : asked.IsRegistration
    · rcases handleResponse_cases hs hid hw hreg with hl | hl
      · rw [hl]
        exact htaking
      · rw [hl]
        exact hP.pull _ _ htaking
    · obtain ⟨items, rfl⟩ : ∃ items, asked = .configuration items := by
        simpa [ClientRequest.IsRegistration] using hreg
      have hw' : s.outstandingRequest n = some (.configuration items) := hw
      have hnone : s.answered? response = none := by
        simpa only [delivery?, hid, Option.bind_some, hw'] using hd
      obtain ⟨log, heq⟩ := handleResponse_of_pull hid hw'
      obtain ⟨log', heq'⟩ := ({ s with outstanding := s.outstanding.erase n, log := log } :
        Session).onConfigurationResponse_eq response
      have hsame : ({ s with outstanding := s.outstanding.erase n, log := log } :
          Session).answered? response = none := hnone
      rw [heq, heq', hsame]
      show P ({ s with outstanding := s.outstanding.erase n, log := log' } : Session).ledger
      rw [ledger_erase, ← Ledger.answer_of_waiting_configuration hw response.hasResult]
      exact htaking
  · rw [ledger_handleResponse_of_not_waiting hnone, ← htake]
    exact htaking

/-- What is robust, holds once an answer is taken in and holds after each request to register or
unregister that the operation makes then, holds after the operation. -/
theorem perform_keeps_calls (hP : Ledger.Robust P) (hs : s.ledger.Sound)
    (hi : Function.Injective s.supply) (hop : operation.IsMediated)
    (htaking : P (s.ledger.taking operation))
    (hcalls : ∀ m, s.Calls operation m →
      (∀ options, P ((s.ledger.taking operation).register m options)) ∧
        P ((s.ledger.taking operation).unregister m)) :
    P (s.perform operation).2.ledger := by
  cases hd : s.delivery? operation with
  | some settings => exact delivery_keeps hP hs hi hd htaking hcalls
  | none =>
      cases operation with
      | declare capabilities => exact hP.flags s.ledger ⟨capabilities⟩ s.ledger.formatOnType htaking
      | initialised =>
          exact initialised_keeps hP hs hi htaking fun hc => (hcalls _ (.initialised hc)).1
      | change settings =>
          have hnull := eq_null_of_delivery_change hd
          show P (s.changeConfiguration settings).2.ledger
          rw [changeConfiguration_eq, if_pos hnull]
          exact pullConfiguration_keeps hP htaking
      | register method options =>
          exact registerCapability_keeps hP hs hi htaking ((hcalls _ (.register _ options)).1 _)
      | unregister method =>
          exact unregisterCapability_keeps hs htaking (hcalls _ (.unregister _)).2
      | pull => exact pullConfiguration_keeps hP htaking
      | apply settings => cases hd
      | handle response => exact handleResponse_keeps hP hs hd htaking
      | onRegister response asked => exact hop.elim
      | onUnregister response asked => exact hop.elim
      | onConfiguration response =>
          obtain ⟨log, heq⟩ := s.onConfigurationResponse_eq response
          have hnone : s.answered? response = none := hd
          show P (s.onConfigurationResponse response).2.ledger
          rw [heq, hnone]
          exact htaking

end calls

end Session

end EditorSession
