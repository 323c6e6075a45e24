import EditorSession.Proofs.Bookkeeping

/-! # Moves of a session's ledger

What a session sends changes its ledger by moves: `send_cases` says it of any request,
`registerCapability_cases` and `unregisterCapability_cases` of those about capabilities.  A refused
request takes back what was recorded for it.  For that the ledger has to be sound, since only where
identifiers are distinct does the first attempt with an identifier stand for all of them. -/

namespace EditorSession

namespace Ledger

/-- One ledger becomes the other by moves of a kind. -/
inductive Moves (kind : Move → Prop) (l : Ledger) : Ledger → Prop
  | refl : Moves kind l l
  | step {l' : Ledger} {move : Move} : Moves kind l l' → kind move → Moves kind l (l'.after move)

namespace Moves
variable {kind kind' : Move → Prop} {l l' l'' : Ledger}

theorem single {move : Move} (h : kind move) : Moves kind l (l.after move) := .step .refl h

theorem trans (h : Moves kind l l') (h' : Moves kind l' l'') : Moves kind l l'' := by
  induction h' with
  | refl => exact h
  | step _ hk ih => exact ih.step hk

theorem mono (h : Moves kind l l') (hk : ∀ move, kind move → kind' move) : Moves kind' l l' := by
  induction h with
  | refl => exact .refl
  | step _ hm ih => exact ih.step (hk _ hm)

/-- What each move of the kind keeps, all of them keep. -/
theorem keeps {P : Ledger → Prop} (h : Moves kind l l')
    (hP : ∀ (m : Ledger) (move : Move), kind move → P m → P (m.after move)) (hl : P l) : P l' := by
  induction h with
  | refl => exact hl
  | step _ hm ih => exact hP _ _ hm ih

end Moves

/-- The connection refuses some request. -/
def Refuses (l : Ledger) : Prop := ∃ index cause, l.refusal index = some cause

end Ledger

namespace Session

open Ledger (Moves)

variable {s : Session}

/-! ### Sending -/

theorem ledger_registry (s : Session) {registry : Registry} {method : String}
    {attempts : List Attempt} (h : ∀ m, registry.recorded m =
      if m = method then attempts else s.registry.recorded m) :
    ({ s with registry } : Session).ledger = s.ledger.record method attempts := by
  refine Ledger.ext (funext fun m => ?_) rfl rfl rfl rfl rfl rfl rfl rfl rfl
  exact (h m).trans (Function.update_apply ..).symm

/-- A request goes out, or is refused and changes nothing that the ledger shows. -/
theorem send_cases (s : Session) (asked : ClientRequest) :
    (∃ s', s.send asked = (.ok s.nextRequestId, s') ∧ s'.ledger = s.ledger.dispatch asked) ∨
    (∃ e s', s.send asked = (.error e, s') ∧ s'.ledger = s.ledger ∧ s.ledger.Refuses) := by
  unfold send Connection.give
  cases hr : s.connection.refusal s.connection.dispatched.length with
  | none =>
      refine .inl ⟨_, rfl, ?_⟩
      refine Ledger.ext rfl (funext fun n => ?_) rfl rfl rfl rfl rfl rfl rfl ?_
      · exact (Table.find?_set ..).trans (Function.update_apply ..).symm
      · simp [ledger, note, Connection.sent, Ledger.dispatch]
  | some cause =>
      refine .inr ⟨_, _, rfl, ?_, _, cause, hr⟩
      refine Ledger.ext rfl rfl rfl rfl rfl rfl rfl rfl rfl ?_
      simp [ledger, Connection.sent]

theorem pullConfiguration_cases (s : Session) :
    (∃ s', s.pullConfiguration = (.ok s.nextRequestId, s') ∧
      s'.ledger = s.ledger.after (.pull [⟨none, some s.ledger.sectionName⟩])) ∨
    (∃ e s', s.pullConfiguration = (.error e, s') ∧ s'.ledger = s.ledger ∧ s.ledger.Refuses) :=
  s.send_cases _

/-! ### Steps whose result is dropped -/

/-- The outcome without its result. -/
def discarding {α : Type} (outcome : Outcome α) : Outcome Unit :=
  (outcome.1.map fun _ => (), outcome.2)

/-- What becomes of a result does not turn a success into a failure. -/
theorem eq_error_of_map_eq_error {α β : Type} {f : α → β} {result : Except ClientError α}
    {e : ClientError} (h : result.map f = .error e) : result = .error e := by
  cases result with
  | error e' =>
      cases h
      rfl
  | ok a => cases h

theorem toggleOnTypeFormatting_eq (s : Session) (enable : Bool) :
    s.toggleOnTypeFormatting enable =
      if enable then
        discarding (s.registerCapability Method.onTypeFormatting (some onTypeFormattingOptions))
      else s.unregisterCapability Method.onTypeFormatting := by
  unfold toggleOnTypeFormatting
  generalize s.registerCapability _ _ = outcome
  rcases outcome with ⟨e | id, s'⟩ <;> rfl

theorem changeConfiguration_eq (s : Session) (settings : Json) :
    s.changeConfiguration settings =
      if settings = .null then discarding s.pullConfiguration else s.applySettings settings := by
  unfold changeConfiguration
  generalize s.pullConfiguration = outcome
  rcases outcome with ⟨e | n, s'⟩ <;> rfl

/-- The client is asked to tell changes of its configuration where it supports that, and nowhere
else. -/
theorem initialised_eq (s : Session) : ∃ log quiet, s.initialised =
    if s.capabilities.supportsDynamicRegistration Method.didChangeConfiguration = true then
      discarding (({ s with log := log } : Session).registerCapability
        Method.didChangeConfiguration (some (.object [])))
    else (.ok (), { s with log := quiet }) := by
  obtain ⟨log, hlog⟩ : ∃ log, s.note .info clientTarget "client has received initialisation" [] =
      { s with log := log } := ⟨_, rfl⟩
  unfold initialised
  rw [hlog]
  dsimp only
  split_ifs
  · refine ⟨log, log, ?_⟩
    generalize ({ s with log := log } : Session).registerCapability _ _ = outcome
    rcases outcome with ⟨e | id, s'⟩ <;> rfl
  · exact ⟨log, _, rfl⟩

/-- The client is asked to tell changes of its configuration, if it supports that. -/
theorem initialised_cases (s : Session) : ∃ log,
    (s.capabilities.supportsDynamicRegistration Method.didChangeConfiguration = true ∧
      s.initialised = discarding (({ s with log := log } : Session).registerCapability
        Method.didChangeConfiguration (some (.object [])))) ∨
    s.initialised = (.ok (), { s with log := log }) := by
  obtain ⟨log, quiet, heq⟩ := s.initialised_eq
  rw [heq]
  split_ifs with hc
  · exact ⟨log, .inl ⟨hc, rfl⟩⟩
  · exact ⟨quiet, .inr rfl⟩

/-! ### Registering and unregistering -/

/-- The session with the next attempt to register the method on record. -/
def recording (s : Session) (method : String) : Session :=
  { s with
    drawn := s.drawn + 1
    registry := s.registry.recordAttempt method s.ledger.fresh }

theorem ledger_recording (s : Session) (method : String) :
    (s.recording method).ledger =
      s.ledger.draw.record method (s.ledger.recorded method ++ [.start s.ledger.fresh]) := by
  refine Ledger.ext (funext fun m => ?_) rfl rfl rfl rfl rfl rfl rfl rfl rfl
  exact (Registry.recorded_recordAttempt ..).trans (Function.update_apply ..).symm

/-- The attempt is recorded before its request is given to the connection. -/
theorem registerCapability_eq (s : Session) (method : String) (options : Option Json) :
    ∃ log, s.registerCapability method options =
      match ({ s.recording method with log := log } : Session).send
        (.register [⟨s.ledger.fresh, method, options⟩]) with
      | (.ok _, s') => (.ok s.ledger.fresh, s')
      | (.error e, s') =>
        (.error e, { s' with registry := s'.registry.remove method s.ledger.fresh }) := by
  unfold registerCapability
  dsimp only [drawId]
  split_ifs
  · exact ⟨_, rfl⟩
  · exact ⟨_, rfl⟩

/-- A register request goes out, or is refused and the attempt recorded for it is removed. -/
theorem registerCapability_outcomes (s : Session) (method : String) (options : Option Json) :
    (∃ s', s.registerCapability method options = (.ok s.ledger.fresh, s') ∧
      s'.ledger = s.ledger.register method options) ∨
    (∃ (e : ClientError) (s' : Session), s.registerCapability method options =
        (.error e, { s' with registry := s'.registry.remove method s.ledger.fresh }) ∧
      s'.ledger = s.ledger.draw.record method
        (s.ledger.recorded method ++ [.start s.ledger.fresh]) ∧ s.ledger.Refuses) := by
  obtain ⟨log, heq⟩ := s.registerCapability_eq method options
  obtain ⟨s₁, hs₁⟩ : ∃ s₁ : Session, s₁ = { s.recording method with log := log } := ⟨_, rfl⟩
  have hl : s₁.ledger = s.ledger.draw.record method
      (s.ledger.recorded method ++ [.start s.ledger.fresh]) := by
    rw [hs₁]
    exact s.ledger_recording method
  rw [heq, ← hs₁]
  rcases s₁.send_cases (.register [⟨s.ledger.fresh, method, options⟩]) with
    ⟨s', hsend, hs'⟩ | ⟨e, s', hsend, hs', hr⟩
  · refine .inl ⟨s', by rw [hsend], ?_⟩
    rw [hs', hl]
    rfl
  · rw [hl] at hr
    exact .inr ⟨e, s', by rw [hsend], hs'.trans hl, hr⟩

/-- A register request goes out, or is refused and uses up an identifier. -/
theorem registerCapability_cases (hs : s.ledger.Sound) (hi : Function.Injective s.supply)
    (method : String) (options : Option Json) :
    (∃ s', s.registerCapability method options = (.ok s.ledger.fresh, s') ∧
      s'.ledger = s.ledger.register method options) ∨
    (∃ e s', s.registerCapability method options = (.error e, s') ∧ s'.ledger = s.ledger.draw ∧
      s.ledger.Refuses) := by
  rcases s.registerCapability_outcomes method options with hsent | ⟨e, s', hreg, hl, hr⟩
  · exact .inl hsent
  · refine .inr ⟨e, _, hreg, ?_, hr⟩
    -- the identifier is fresh, so its removal takes back what was recorded and nothing else
    have hrec : s'.registry.recorded method =
        s.ledger.recorded method ++ [.start s.ledger.fresh] := by
      show s'.ledger.recorded method = _
      rw [hl, Ledger.recorded_record_self]
    have hnone : ∀ a ∈ s.ledger.recorded method, a.hasId s.ledger.fresh = false := by
      intro a ha
      rw [Attempts.hasId_eq_false_iff]
      exact fun hid => hs.not_mentions_fresh hi method (.inl ⟨a, ha, hid⟩)
    rw [ledger_registry _ (Registry.recorded_remove _ method · _), hl, hrec,
      Attempts.drop_append_start hnone, Ledger.record_record]
    exact Ledger.record_recorded _ method

theorem notePending_eq (s : Session) (method : String) (attempts : List Attempt) :
    ∃ log, s.notePending method attempts = { s with log := log } := by
  induction attempts generalizing s with
  | nil => exact ⟨_, rfl⟩
  | cons a rest ih =>
      unfold notePending
      split
      · split_ifs
        · exact ih _
        · exact ih s
      · exact ih s

theorem recorded_of_attempts? {r : Registry} {method : String} {attempts : List Attempt}
    (h : r.attempts? method = some attempts) : r.recorded method = attempts := by
  simp [Registry.recorded, h]

/-- The session with every attempt marked that is to be unregistered. -/
def marking (s : Session) (method : String) : Session :=
  { s with registry := s.registry.modify method (List.map markLive) }

theorem ledger_marking (s : Session) (method : String) :
    (s.marking method).ledger =
      s.ledger.record method ((s.ledger.recorded method).map markLive) :=
  s.ledger_registry fun m => Registry.recorded_modify _ method m List.map_nil

/-- Nothing is sent where there is nothing to unregister; otherwise the attempts are marked before
the request is given to the connection. -/
theorem unregisterCapability_eq (s : Session) (method : String) : ∃ log,
    (s.ledger.live method = [] ∧
      s.unregisterCapability method = (.ok (), { s with log := log })) ∨
    (s.ledger.live method ≠ [] ∧ s.unregisterCapability method =
      match ({ s.marking method with log := log } : Session).send
        (.unregister ((s.ledger.live method).map fun id => ⟨id, method⟩)) with
      | (.ok _, s') => (.ok (), s')
      | (.error e, s') => (.error e, { s' with
          registry :=
            restoreStates s'.registry method (liveStates (s.ledger.recorded method)) })) := by
  unfold unregisterCapability
  cases ha : s.registry.attempts? method with
  | none =>
      have hlive : s.ledger.live method = [] := by
        simp [Ledger.live, ledger, Registry.recorded, ha]
      exact ⟨_, .inl ⟨hlive, rfl⟩⟩
  | some attempts =>
      have hrec : s.ledger.recorded method = attempts := recorded_of_attempts? ha
      have hids : s.ledger.live method = (liveStates attempts).map Prod.fst := by
        rw [map_fst_liveStates, Ledger.live, hrec]
      obtain ⟨log, hnoted⟩ := s.notePending_eq method attempts
      dsimp only
      rw [hnoted, hids, hrec]
      split
      · next hnil => exact ⟨_, .inl ⟨by rw [hnil, List.map_nil], rfl⟩⟩
      · next live hne =>
        have hlive : (liveStates attempts).map Prod.fst ≠ [] := fun h =>
          hne (List.map_eq_nil_iff.mp h)
        refine ⟨log, .inr ⟨hlive, ?_⟩⟩
        rw [List.map_map]
        rfl

/-- Giving the marked attempts their states back undoes the marking. -/
theorem ledger_restoreStates {s s' : Session} (hs : s.ledger.Sound) {method : String}
    (h : s'.ledger = s.ledger.record method ((s.ledger.recorded method).map markLive)) :
    ({ s' with registry :=
        restoreStates s'.registry method (liveStates (s.ledger.recorded method)) } : Session).ledger
      = s.ledger := by
  have hmarked : s'.registry.recorded method = (s.ledger.recorded method).map markLive := by
    show s'.ledger.recorded method = _
    rw [h, Ledger.recorded_record_self]
  have hresume := resume_liveStates [] (s.ledger.recorded method) (hs.distinct method)
  rw [ledger_registry s' fun m => recorded_restoreStates _ method m _, hmarked, h]
  simp only [List.nil_append] at hresume
  rw [hresume, Ledger.record_record, Ledger.record_recorded]

/-- An unregister request goes out if there is something to unregister, or is refused and the
attempts marked for it are given their states back. -/
theorem unregisterCapability_outcomes (s : Session) (method : String) :
    (∃ s', s.unregisterCapability method = (.ok (), s') ∧
      s'.ledger = s.ledger.unregister method) ∨
    (∃ (e : ClientError) (s' : Session), s.unregisterCapability method = (.error e, { s' with
        registry := restoreStates s'.registry method (liveStates (s.ledger.recorded method)) }) ∧
      s'.ledger = s.ledger.record method ((s.ledger.recorded method).map markLive) ∧
      s.ledger.Refuses) := by
  obtain ⟨log, ⟨hlive, heq⟩ | ⟨hlive, heq⟩⟩ := s.unregisterCapability_eq method
  · refine .inl ⟨_, heq, ?_⟩
    rw [Ledger.unregister, if_pos hlive]
    rfl
  · obtain ⟨s₁, hs₁⟩ : ∃ s₁ : Session, s₁ = { s.marking method with log := log } := ⟨_, rfl⟩
    have hl : s₁.ledger = s.ledger.record method ((s.ledger.recorded method).map markLive) := by
      rw [hs₁]
      exact s.ledger_marking method
    rw [heq, ← hs₁]
    rcases s₁.send_cases (.unregister ((s.ledger.live method).map fun id => ⟨id, method⟩)) with
      ⟨s', hsend, hs'⟩ | ⟨e, s', hsend, hs', hr⟩
    · refine .inl ⟨s', by rw [hsend], ?_⟩
      rw [hs', hl, Ledger.unregister, if_neg hlive]
      rfl
    · rw [hl] at hr
      exact .inr ⟨e, s', by rw [hsend], hs'.trans hl, hr⟩

/-- An unregister request goes out if there is something to unregister, or is refused and changes
nothing that the ledger shows. -/
theorem unregisterCapability_cases (hs : s.ledger.Sound) (method : String) :
    (∃ s', s.unregisterCapability method = (.ok (), s') ∧
      s'.ledger = s.ledger.unregister method) ∨
    (∃ e s', s.unregisterCapability method = (.error e, s') ∧ s'.ledger = s.ledger ∧
      s.ledger.Refuses) := by
  rcases s.unregisterCapability_outcomes method with hsent | ⟨e, s', hreg, hl, hr⟩
  · exact .inl hsent
  · exact .inr ⟨e, _, hreg, ledger_restoreStates hs hl, hr⟩

end Session

end EditorSession
