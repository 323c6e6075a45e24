import EditorSession.Proofs.Alike
import EditorSession.Proofs.Deliveries
import Mathlib.Logic.Relator

/-! # Sessions that draw other identifiers

Two sessions are alike if the identifiers of one stand for those of the other and nothing else tells
them apart but their logs (`Session.Alike`).  Identifiers are only ever compared with each other, and
a relation that pairs them one to one keeps such comparisons, so a step of one session is matched by
the same step of the other (`Session.alike_perform`).  Hence what identifiers are drawn has no
influence on a run: under one bijection between the two supplies everything that the sessions show
corresponds after every operation (`Session.identifiers_immaterial`). -/

namespace EditorSession

variable {R : RegistrationId → RegistrationId → Prop} {id id' : RegistrationId}

/-! ### Attempts -/

theorem Attempt.Alike.hasId_eq (hR : Relator.BiUnique R) {a b : Attempt} (h : a.Alike R b)
    (hid : R id id') : a.hasId id = b.hasId id' := by
  obtain ⟨aid, aregistered, astate⟩ := a
  obtain ⟨bid, bregistered, bstate⟩ := b
  have hids : Option.Rel R aid bid := h.id
  cases hids with
  | none => rfl
  | some hpair =>
      have hsame := Relator.rel_eq hR hpair hid
      simp [Attempt.hasId, hsame]

theorem Attempt.alike_start (hid : R id id') : (Attempt.start id).Alike R (.start id') :=
  ⟨.some hid, rfl, rfl⟩

namespace Attempts
variable {attempts attempts' : List Attempt}

theorem alike_update (hR : Relator.BiUnique R) (hid : R id id') {change : Attempt → Attempt}
    (hchange : ∀ a b, a.Alike R b → (change a).Alike R (change b))
    (h : List.Forall₂ (Attempt.Alike R) attempts attempts') :
    List.Forall₂ (Attempt.Alike R) (update id change attempts) (update id' change attempts') := by
  induction h with
  | nil => exact .nil
  | cons hab hrest ih =>
      rw [update, update, hab.hasId_eq hR hid]
      split_ifs
      · exact .cons (hchange _ _ hab) hrest
      · exact .cons hab ih

theorem alike_settle (hR : Relator.BiUnique R) (hid : R id id') (registered : Bool)
    (h : List.Forall₂ (Attempt.Alike R) attempts attempts') :
    List.Forall₂ (Attempt.Alike R) (update id (Attempt.settle registered) attempts)
      (update id' (Attempt.settle registered) attempts') :=
  alike_update hR hid (fun _ _ hab => ⟨hab.id, rfl, rfl⟩) h

theorem alike_withState (hR : Relator.BiUnique R) (hid : R id id') (state : AttemptState)
    (h : List.Forall₂ (Attempt.Alike R) attempts attempts') :
    List.Forall₂ (Attempt.Alike R) (update id (Attempt.withState state) attempts)
      (update id' (Attempt.withState state) attempts') :=
  alike_update hR hid (fun _ _ hab => ⟨hab.id, hab.registered, rfl⟩) h

theorem alike_drop (hR : Relator.BiUnique R) (hid : R id id')
    (h : List.Forall₂ (Attempt.Alike R) attempts attempts') :
    List.Forall₂ (Attempt.Alike R) (drop id attempts) (drop id' attempts') :=
  List.rel_filter (fun _ _ hab => by dsimp only; rw [hab.hasId_eq hR hid]) h

theorem alike_restore (hR : Relator.BiUnique R) (hid : R id id')
    (h : List.Forall₂ (Attempt.Alike R) attempts attempts') :
    List.Forall₂ (Attempt.Alike R) (restore id attempts) (restore id' attempts') :=
  alike_withState hR hid .complete
    (List.rel_filter
      (fun _ _ hab => by dsimp only; rw [hab.hasId_eq hR hid, hab.registered]) h)

end Attempts

namespace Session

theorem alike_liveStates {attempts attempts' : List Attempt}
    (h : List.Forall₂ (Attempt.Alike R) attempts attempts') :
    List.Forall₂ (fun e e' => R e.1 e'.1 ∧ e.2 = e'.2) (liveStates attempts)
      (liveStates attempts') := by
  refine List.rel_filterMap (fun a b hab => ?_) h
  have hlive := hab.liveId?
  have hstate := hab.state
  generalize liveId? a = live at hlive ⊢
  generalize liveId? b = live' at hlive ⊢
  cases hlive with
  | none => exact .none
  | some hid => exact .some ⟨hid, hstate⟩

theorem alike_resume (hR : Relator.BiUnique R) {live live' : List (RegistrationId × AttemptState)}
    (hlive : List.Forall₂ (fun e e' => R e.1 e'.1 ∧ e.2 = e'.2) live live')
    {attempts attempts' : List Attempt} (h : List.Forall₂ (Attempt.Alike R) attempts attempts') :
    List.Forall₂ (Attempt.Alike R) (resume live attempts) (resume live' attempts') := by
  induction hlive generalizing attempts attempts' with
  | nil => exact h
  | @cons e e' _ _ hpair _ ih =>
      obtain ⟨hid, hstate⟩ := hpair
      refine ih ?_
      dsimp only
      rw [hstate]
      exact Attempts.alike_withState hR hid e'.2 h

end Session

/-! ### Entries and messages -/

namespace Entries
variable {κ α β : Type} [DecidableEq κ] {Q : α → β → Prop}
  {entries : List (κ × α)} {entries' : List (κ × β)}

/-- The entries have the same keys in the same order, and values that are related. -/
def Alike (Q : α → β → Prop) : List (κ × α) → List (κ × β) → Prop :=
  List.Forall₂ fun e e' => e.1 = e'.1 ∧ Q e.2 e'.2

theorem Alike.find? (h : Alike Q entries entries') (key : κ) :
    Option.Rel Q (find? key entries) (find? key entries') := by
  induction h with
  | nil => exact .none
  | @cons e e' _ _ hpair _ ih =>
      obtain ⟨hkey, hvalue⟩ := hpair
      rw [Entries.find?, Entries.find?, hkey]
      split_ifs
      · exact .some hvalue
      · exact ih

theorem Alike.set (h : Alike Q entries entries') (key : κ) {value : α} {value' : β}
    (hvalue : Q value value') : Alike Q (set key value entries) (set key value' entries') := by
  induction h with
  | nil => exact .cons ⟨rfl, hvalue⟩ .nil
  | @cons e e' _ _ hpair hrest ih =>
      rw [Entries.set, Entries.set, hpair.1]
      split_ifs
      · exact .cons ⟨rfl, hvalue⟩ hrest
      · exact .cons ⟨rfl, hpair.2⟩ ih

theorem Alike.erase (h : Alike Q entries entries') (key : κ) :
    Alike Q (erase key entries) (erase key entries') :=
  List.rel_filter (fun _ _ hpair => by dsimp only; rw [hpair.1]) h

end Entries

theorem ClientRequest.Alike.method_eq {asked other : ClientRequest} (h : asked.Alike R other) :
    asked.method = other.method := by
  cases h <;> rfl

/-- The connection was given messages of one number, which differ in identifiers only, and treated
them in the same way. -/
structure Dispatch.Alike (R : RegistrationId → RegistrationId → Prop) (d d' : Dispatch) : Prop where
  request : ∃ asked other n, d.request = ClientRequest.toRequest asked n ∧
    d'.request = ClientRequest.toRequest other n ∧ ClientRequest.Alike R asked other
  accepted : d.accepted = d'.accepted

/-! ### Sessions and outcomes -/

/-- The sessions differ in identifiers and in their logs only. -/
structure Session.Alike (R : RegistrationId → RegistrationId → Prop) (s s' : Session) : Prop where
  recorded : ∀ m, List.Forall₂ (Attempt.Alike R) (s.registry.recorded m) (s'.registry.recorded m)
  outstanding : Entries.Alike (ClientRequest.Alike R) s.outstanding.entries s'.outstanding.entries
  dispatched : List.Forall₂ (Dispatch.Alike R) s.connection.dispatched s'.connection.dispatched
  refusal : s.connection.refusal = s'.connection.refusal
  supply : ∀ k, R (s.supply k) (s'.supply k)
  drawn : s.drawn = s'.drawn
  capabilities : s.capabilities = s'.capabilities
  settings : s.settings = s'.settings
  sectionName : s.sectionName = s'.sectionName
  nextRequestId : s.nextRequestId = s'.nextRequestId

/-- Both failed for the same reason, or both gave results, which are related. -/
inductive Result.Alike {α β : Type} (Q : α → β → Prop) :
    Except ClientError α → Except ClientError β → Prop
  | ok {a : α} {b : β} : Q a b → Alike Q (.ok a) (.ok b)
  | error (e : ClientError) : Alike Q (.error e) (.error e)

/-- The outcomes are related results in sessions that are alike. -/
structure Outcome.Alike {α β : Type} (R : RegistrationId → RegistrationId → Prop)
    (Q : α → β → Prop) (o : Outcome α) (o' : Outcome β) : Prop where
  result : Result.Alike Q o.1 o'.1
  session : o.2.Alike R o'.2

/-- The replies are the same up to identifiers. -/
inductive Reply.Alike (R : RegistrationId → RegistrationId → Prop) : Reply → Reply → Prop
  | done : Alike R .done .done
  | requestId (n : Int) : Alike R (.requestId n) (.requestId n)
  | registrationId {id id' : RegistrationId} :
      R id id' → Alike R (.registrationId id) (.registrationId id')

namespace Outcome.Alike
variable {α β : Type} {Q : α → β → Prop} {o : Outcome α} {o' : Outcome β}

theorem outcomes (h : Outcome.Alike R Q o o') :
    (∃ a b s s', o = (.ok a, s) ∧ o' = (.ok b, s') ∧ Q a b ∧ s.Alike R s') ∨
    (∃ e s s', o = (.error e, s) ∧ o' = (.error e, s') ∧ s.Alike R s') := by
  obtain ⟨result, s⟩ := o
  obtain ⟨result', s'⟩ := o'
  obtain ⟨hresult, hs⟩ := h
  cases hresult with
  | ok hab => exact .inl ⟨_, _, s, s', rfl, rfl, hab, hs⟩
  | error e => exact .inr ⟨e, s, s', rfl, rfl, hs⟩

theorem map {γ δ : Type} {Q' : γ → δ → Prop} (h : Outcome.Alike R Q o o') {f : α → γ} {g : β → δ}
    (hfg : ∀ a b, Q a b → Q' (f a) (g b)) :
    Outcome.Alike R Q' (o.1.map f, o.2) (o'.1.map g, o'.2) := by
  rcases h.outcomes with ⟨a, b, s, s', rfl, rfl, hab, hs⟩ | ⟨e, s, s', rfl, rfl, hs⟩
  · exact ⟨.ok (hfg a b hab), hs⟩
  · exact ⟨.error e, hs⟩

theorem discarding (h : Outcome.Alike R Q o o') :
    Outcome.Alike R Eq (Session.discarding o) (Session.discarding o') := h.map fun _ _ _ => rfl

theorem done (h : Outcome.Alike R Q o o') : Outcome.Alike R (Reply.Alike R)
    (Session.replying (fun _ => .done) o) (Session.replying (fun _ => .done) o') :=
  h.map fun _ _ _ => .done

end Outcome.Alike

namespace Session
variable {s s' : Session} {asked other : ClientRequest} {settings : Json}

/-! ### Changes of one respect -/

theorem Alike.logged (h : s.Alike R s') (log log' : List Log.Event) :
    Alike R { s with log := log } { s' with log := log' } :=
  ⟨h.recorded, h.outstanding, h.dispatched, h.refusal, h.supply, h.drawn, h.capabilities,
    h.settings, h.sectionName, h.nextRequestId⟩

theorem Alike.switched (h : s.Alike R s') (settings : Settings) :
    Alike R { s with settings := settings } { s' with settings := settings } :=
  ⟨h.recorded, h.outstanding, h.dispatched, h.refusal, h.supply, h.drawn, h.capabilities, rfl,
    h.sectionName, h.nextRequestId⟩

theorem Alike.declared (h : s.Alike R s') (capabilities : Capabilities) :
    Alike R { s with capabilities := capabilities } { s' with capabilities := capabilities } :=
  ⟨h.recorded, h.outstanding, h.dispatched, h.refusal, h.supply, h.drawn, rfl, h.settings,
    h.sectionName, h.nextRequestId⟩

theorem Alike.dismissed (h : s.Alike R s') (n : Int) :
    Alike R { s with outstanding := s.outstanding.erase n }
      { s' with outstanding := s'.outstanding.erase n } :=
  ⟨h.recorded, h.outstanding.erase n, h.dispatched, h.refusal, h.supply, h.drawn, h.capabilities,
    h.settings, h.sectionName, h.nextRequestId⟩

/-- The attempts of a method may change in both sessions if they stay alike. -/
theorem Alike.amended (h : s.Alike R s') {registry registry' : Registry} {method : String}
    {attempts attempts' : List Attempt}
    (hr : ∀ m, registry.recorded m = if m = method then attempts else s.registry.recorded m)
    (hr' : ∀ m, registry'.recorded m = if m = method then attempts' else s'.registry.recorded m)
    (ha : List.Forall₂ (Attempt.Alike R) attempts attempts') :
    Alike R { s with registry := registry } { s' with registry := registry' } := by
  refine ⟨fun m => ?_, h.outstanding, h.dispatched, h.refusal, h.supply, h.drawn, h.capabilities,
    h.settings, h.sectionName, h.nextRequestId⟩
  rw [hr, hr']
  split_ifs
  · exact ha
  · exact h.recorded m

section settling
variable (hR : Relator.BiUnique R) (h : s.Alike R s') (hid : R id id')
include hR h hid

theorem Alike.completed (method : String) (succeeded : Bool) :
    Alike R { s with registry := s.registry.markComplete method id succeeded }
      { s' with registry := s'.registry.markComplete method id' succeeded } :=
  h.amended (fun m => Registry.recorded_markComplete _ method m id succeeded)
    (fun m => Registry.recorded_markComplete _ method m id' succeeded)
    (Attempts.alike_settle hR hid succeeded (h.recorded method))

theorem Alike.removed (method : String) :
    Alike R { s with registry := s.registry.remove method id }
      { s' with registry := s'.registry.remove method id' } :=
  h.amended (fun m => Registry.recorded_remove _ method m id)
    (fun m => Registry.recorded_remove _ method m id')
    (Attempts.alike_drop hR hid (h.recorded method))

theorem Alike.retained (method : String) :
    Alike R { s with registry := s.registry.settleFailedUnregistration method id }
      { s' with registry := s'.registry.settleFailedUnregistration method id' } :=
  h.amended (fun m => Registry.recorded_settleFailedUnregistration _ method m id)
    (fun m => Registry.recorded_settleFailedUnregistration _ method m id')
    (Attempts.alike_restore hR hid (h.recorded method))

end settling

/-! ### Requests -/

/-- The same request is accepted by both connections, under the same number, or refused by both. -/
theorem alike_send (h : s.Alike R s') (hasked : asked.Alike R other) :
    Outcome.Alike R Eq (s.send asked) (s'.send other) := by
  have hrefusal : s.connection.refusal s.connection.dispatched.length =
      s'.connection.refusal s'.connection.dispatched.length := by
    rw [h.dispatched.length_eq, h.refusal]
  have hnext := h.nextRequestId
  have hgiven : ∀ accepted, List.Forall₂ (Dispatch.Alike R)
      (s.connection.dispatched ++ [⟨asked.toRequest s.nextRequestId, accepted⟩])
      (s'.connection.dispatched ++ [⟨other.toRequest s'.nextRequestId, accepted⟩]) := by
    intro accepted
    rw [hnext]
    exact List.rel_append h.dispatched (.cons ⟨⟨asked, other, _, rfl, rfl, hasked⟩, rfl⟩ .nil)
  unfold send Connection.give
  rw [hrefusal]
  cases s'.connection.refusal s'.connection.dispatched.length with
  | none =>
      refine ⟨.ok hnext, h.recorded, ?_, hgiven true, h.refusal, h.supply, h.drawn,
        h.capabilities, h.settings, h.sectionName, congrArg (· + 1) hnext⟩
      show Entries.Alike _ (Entries.set s.nextRequestId asked s.outstanding.entries)
        (Entries.set s'.nextRequestId other s'.outstanding.entries)
      rw [hnext]
      exact h.outstanding.set _ hasked
  | some cause =>
      rw [hasked.method_eq]
      exact ⟨.error _, h.recorded, h.outstanding, hgiven false, h.refusal, h.supply, h.drawn,
        h.capabilities, h.settings, h.sectionName, hnext⟩

theorem alike_pullConfiguration (h : s.Alike R s') :
    Outcome.Alike R Eq s.pullConfiguration s'.pullConfiguration := by
  unfold pullConfiguration
  rw [h.sectionName]
  exact alike_send h (.configuration _)

theorem Alike.fresh (h : s.Alike R s') : R s.ledger.fresh s'.ledger.fresh := by
  have hsupply := h.supply s.drawn
  rw [show s'.ledger.fresh = s'.supply s.drawn from congrArg s'.supply h.drawn.symm]
  exact hsupply

theorem Alike.recording (h : s.Alike R s') (method : String) :
    (s.recording method).Alike R (s'.recording method) := by
  have hrecorded := h.amended
    (fun m => Registry.recorded_recordAttempt _ method m s.ledger.fresh)
    (fun m => Registry.recorded_recordAttempt _ method m s'.ledger.fresh)
    (List.rel_append (h.recorded method) (.cons (Attempt.alike_start h.fresh) .nil))
  exact ⟨hrecorded.recorded, h.outstanding, h.dispatched, h.refusal, h.supply,
    congrArg (· + 1) h.drawn, h.capabilities, h.settings, h.sectionName, h.nextRequestId⟩

theorem alike_registerCapability (hR : Relator.BiUnique R) (h : s.Alike R s') (method : String)
    (options : Option Json) :
    Outcome.Alike R R (s.registerCapability method options)
      (s'.registerCapability method options) := by
  obtain ⟨log, heq⟩ := s.registerCapability_eq method options
  obtain ⟨log', heq'⟩ := s'.registerCapability_eq method options
  have hasked : (ClientRequest.register [⟨s.ledger.fresh, method, options⟩]).Alike R
      (.register [⟨s'.ledger.fresh, method, options⟩]) := .register (.cons ⟨h.fresh, rfl, rfl⟩ .nil)
  rw [heq, heq']
  rcases (alike_send ((h.recording method).logged log log') hasked).outcomes with
    ⟨n, n', t, t', ho, ho', -, ht⟩ | ⟨e, t, t', ho, ho', ht⟩
  · rw [ho, ho']
    exact ⟨.ok h.fresh, ht⟩
  · rw [ho, ho']
    exact ⟨.error e, ht.removed hR h.fresh method⟩

theorem Alike.marking (h : s.Alike R s') (method : String) :
    (s.marking method).Alike R (s'.marking method) :=
  h.amended (fun m => Registry.recorded_modify _ method m List.map_nil)
    (fun m => Registry.recorded_modify _ method m List.map_nil)
    (List.rel_map (fun _ _ hab => hab.markLive) (h.recorded method))

theorem alike_unregisterCapability (hR : Relator.BiUnique R) (h : s.Alike R s') (method : String) :
    Outcome.Alike R Eq (s.unregisterCapability method) (s'.unregisterCapability method) := by
  have hlive : List.Forall₂ R (s.ledger.live method) (s'.ledger.live method) :=
    List.rel_filterMap (fun _ _ hab => hab.liveId?) (h.recorded method)
  have hnil : s.ledger.live method = [] ↔ s'.ledger.live method = [] := by
    rw [← List.length_eq_zero_iff, ← List.length_eq_zero_iff, hlive.length_eq]
  obtain ⟨log, ⟨hl, heq⟩ | ⟨hl, heq⟩⟩ := s.unregisterCapability_eq method
  · obtain ⟨log', ⟨-, heq'⟩ | ⟨hl', -⟩⟩ := s'.unregisterCapability_eq method
    · rw [heq, heq']
      exact ⟨.ok rfl, h.logged log log'⟩
    · exact absurd (hnil.mp hl) hl'
  · obtain ⟨log', ⟨hl', -⟩ | ⟨-, heq'⟩⟩ := s'.unregisterCapability_eq method
    · exact absurd (hnil.mpr hl') hl
    · have hasked : (ClientRequest.unregister
          ((s.ledger.live method).map fun id => ⟨id, method⟩)).Alike R
          (.unregister ((s'.ledger.live method).map fun id => ⟨id, method⟩)) :=
        .unregister (List.rel_map (fun _ _ hid => ⟨hid, rfl⟩) hlive)
      rw [heq, heq']
      rcases (alike_send ((h.marking method).logged log log') hasked).outcomes with
        ⟨n, n', t, t', ho, ho', -, ht⟩ | ⟨e, t, t', ho, ho', ht⟩
      · rw [ho, ho']
        exact ⟨.ok rfl, ht⟩
      · rw [ho, ho']
        exact ⟨.error e, ht.amended (fun m => recorded_restoreStates _ method m _)
          (fun m => recorded_restoreStates _ method m _)
          (alike_resume hR (alike_liveStates (h.recorded method)) (ht.recorded method))⟩

/-! ### Settings -/

theorem alike_toggleOnTypeFormatting (hR : Relator.BiUnique R) (h : s.Alike R s') (enable : Bool) :
    Outcome.Alike R Eq (s.toggleOnTypeFormatting enable) (s'.toggleOnTypeFormatting enable) := by
  rw [toggleOnTypeFormatting_eq, toggleOnTypeFormatting_eq]
  split_ifs
  · exact (alike_registerCapability hR h _ _).discarding
  · exact alike_unregisterCapability hR h _

theorem Alike.turns_iff (h : s.Alike R s') : s'.Turns settings ↔ s.Turns settings := by
  unfold Turns requestedFormatOnType formatOnType
  rw [h.sectionName, h.settings]

theorem Alike.supportsFormatting_iff (h : s.Alike R s') :
    s'.ledger.SupportsFormatting ↔ s.ledger.SupportsFormatting := by
  unfold Ledger.SupportsFormatting
  rw [show s'.ledger.capabilities = s.ledger.capabilities from h.capabilities.symm]

theorem alike_applySettings (hR : Relator.BiUnique R) (h : s.Alike R s') (settings : Json) :
    Outcome.Alike R Eq (s.applySettings settings) (s'.applySettings settings) := by
  have hswitch : s'.formatOnType = s.formatOnType := congrArg Settings.formatOnType h.settings.symm
  by_cases hturns : s.Turns settings
  · have hturns' := h.turns_iff.mpr hturns
    by_cases hc : s.ledger.SupportsFormatting
    · obtain ⟨log, heq⟩ := applySettings_of_turns hturns hc
      obtain ⟨log', heq'⟩ := applySettings_of_turns hturns' (h.supportsFormatting_iff.mpr hc)
      have htoggle := alike_toggleOnTypeFormatting hR h !s.formatOnType
      rw [heq, heq', hswitch]
      exact ⟨htoggle.result, (htoggle.session.logged log log').switched _⟩
    · obtain ⟨log, heq⟩ := applySettings_of_turns_of_not_supports hturns hc
      obtain ⟨log', heq'⟩ := applySettings_of_turns_of_not_supports hturns'
        (mt h.supportsFormatting_iff.mp hc)
      rw [heq, heq', hswitch]
      exact ⟨.ok rfl, (h.logged log log').switched _⟩
  · obtain ⟨log, heq⟩ := applySettings_of_not_turns hturns
    obtain ⟨log', heq'⟩ := applySettings_of_not_turns (mt h.turns_iff.mp hturns)
    rw [heq, heq']
    exact ⟨.ok rfl, h.logged log log'⟩

theorem alike_changeConfiguration (hR : Relator.BiUnique R) (h : s.Alike R s') (settings : Json) :
    Outcome.Alike R Eq (s.changeConfiguration settings) (s'.changeConfiguration settings) := by
  rw [changeConfiguration_eq, changeConfiguration_eq]
  split_ifs
  · exact (alike_pullConfiguration h).discarding
  · exact alike_applySettings hR h settings

theorem alike_onConfigurationResponse (hR : Relator.BiUnique R) (h : s.Alike R s')
    (response : Response) :
    Outcome.Alike R Eq (s.onConfigurationResponse response)
      (s'.onConfigurationResponse response) := by
  have hanswered : s'.answered? response = s.answered? response := by
    unfold answered?
    rw [h.sectionName]
  obtain ⟨log, heq⟩ := s.onConfigurationResponse_eq response
  obtain ⟨log', heq'⟩ := s'.onConfigurationResponse_eq response
  rw [heq, heq', hanswered]
  cases s.answered? response with
  | some settings => exact alike_applySettings hR h settings
  | none => exact ⟨.ok rfl, h.logged log log'⟩

theorem alike_initialised (hR : Relator.BiUnique R) (h : s.Alike R s') :
    Outcome.Alike R Eq s.initialised s'.initialised := by
  obtain ⟨log, quiet, heq⟩ := s.initialised_eq
  obtain ⟨log', quiet', heq'⟩ := s'.initialised_eq
  have hsupports : s.capabilities.supportsDynamicRegistration Method.didChangeConfiguration =
      s'.capabilities.supportsDynamicRegistration Method.didChangeConfiguration := by
    rw [h.capabilities]
  rw [heq, heq', hsupports]
  split_ifs
  · exact (alike_registerCapability hR (h.logged log log') _ _).discarding
  · exact ⟨.ok rfl, h.logged quiet quiet'⟩

/-! ### Answers -/

theorem alike_refuseRegistrations (hR : Relator.BiUnique R) {first second : List Registration}
    (hrs : List.Forall₂ (Registration.Alike R) first second) (h : s.Alike R s') :
    (s.refuseRegistrations first).Alike R (s'.refuseRegistrations second) := by
  induction hrs generalizing s s' with
  | nil => exact h
  | cons hr _ ih =>
      refine ih ?_
      rw [hr.method]
      exact (h.logged _ _).completed hR hr.id _ false

theorem alike_acceptRegistrations (hR : Relator.BiUnique R) {first second : List Registration}
    (hrs : List.Forall₂ (Registration.Alike R) first second) (h : s.Alike R s') :
    Outcome.Alike R Eq (s.acceptRegistrations first) (s'.acceptRegistrations second) := by
  induction hrs generalizing s s' with
  | nil => exact ⟨.ok rfl, h⟩
  | @cons r r' rest rest' hr _ ih =>
      obtain ⟨log, heq⟩ := s.exists_acceptRegistrations_eq r rest
      obtain ⟨log', heq'⟩ := s'.exists_acceptRegistrations_eq r' rest'
      have hsettled := (h.logged log log').completed hR hr.id r.method true
      rw [heq, heq', ← hr.method]
      split_ifs
      · rcases (alike_pullConfiguration hsettled).outcomes with
          ⟨n, n', t, t', ho, ho', -, ht⟩ | ⟨e, t, t', ho, ho', ht⟩
        · rw [ho, ho']
          exact ih ht
        · rw [ho, ho']
          exact ⟨.error e, ht⟩
      · exact ih hsettled

theorem alike_acceptUnregistrations (hR : Relator.BiUnique R) {first second : List Unregistration}
    (hus : List.Forall₂ (Unregistration.Alike R) first second) (h : s.Alike R s') :
    (s.acceptUnregistrations first).Alike R (s'.acceptUnregistrations second) := by
  induction hus generalizing s s' with
  | nil => exact h
  | cons hu _ ih =>
      refine ih ?_
      rw [hu.method]
      exact (h.logged _ _).removed hR hu.id _

theorem alike_refuseUnregistrations (hR : Relator.BiUnique R) {first second : List Unregistration}
    (hus : List.Forall₂ (Unregistration.Alike R) first second) (h : s.Alike R s') :
    (s.refuseUnregistrations first).Alike R (s'.refuseUnregistrations second) := by
  induction hus generalizing s s' with
  | nil => exact h
  | cons hu _ ih =>
      refine ih ?_
      rw [hu.method]
      exact (h.logged _ _).retained hR hu.id _

theorem alike_onRegisterResponse (hR : Relator.BiUnique R) (h : s.Alike R s')
    (hasked : asked.Alike R other) (response : Response) :
    Outcome.Alike R Eq (s.onRegisterResponse response asked)
      (s'.onRegisterResponse response other) := by
  cases hasked with
  | register hrs =>
      simp only [onRegisterResponse]
      split_ifs
      · exact alike_acceptRegistrations hR hrs h
      · exact ⟨.ok rfl, alike_refuseRegistrations hR hrs h⟩
  | unregister hus => exact ⟨.error _, h⟩
  | configuration items => exact ⟨.error _, h⟩

theorem alike_onUnregisterResponse (hR : Relator.BiUnique R) (h : s.Alike R s')
    (hasked : asked.Alike R other) (response : Response) :
    Outcome.Alike R Eq (s.onUnregisterResponse response asked)
      (s'.onUnregisterResponse response other) := by
  cases hasked with
  | unregister hus =>
      simp only [onUnregisterResponse]
      split_ifs
      · exact ⟨.ok rfl, alike_acceptUnregistrations hR hus h⟩
      · exact ⟨.ok rfl, alike_refuseUnregistrations hR hus h⟩
  | register hrs => exact ⟨.error _, h⟩
  | configuration items => exact ⟨.error _, h⟩

/-- A response answers requests that are alike, or none in either session. -/
theorem alike_handleResponse (hR : Relator.BiUnique R) (h : s.Alike R s') (response : Response) :
    Outcome.Alike R Eq (s.handleResponse response) (s'.handleResponse response) := by
  unfold handleResponse
  cases response.id with
  | none => exact ⟨.ok rfl, h.logged _ _⟩
  | some n =>
      have hfound : Option.Rel (ClientRequest.Alike R) (s.outstanding.find? n)
          (s'.outstanding.find? n) := h.outstanding.find? n
      have hdismissed := h.dismissed n
      dsimp only
      generalize s.outstanding.find? n = asked at hfound ⊢
      generalize s'.outstanding.find? n = other at hfound ⊢
      cases hfound with
      | none => exact ⟨.ok rfl, h.logged _ _⟩
      | some hasked =>
          cases hasked with
          | register hrs =>
              exact alike_onRegisterResponse hR (hdismissed.logged _ _) (.register hrs) response
          | unregister hus =>
              exact alike_onUnregisterResponse hR (hdismissed.logged _ _) (.unregister hus) response
          | configuration items =>
              exact alike_onConfigurationResponse hR (hdismissed.logged _ _) response

end Session

/-! ### Operations -/

/-- The operations are the same, up to identifiers in a request that is handed to a handler. -/
inductive Operation.Alike (R : RegistrationId → RegistrationId → Prop) :
    Operation → Operation → Prop
  | same {operation : Operation} : operation.IsMediated → Alike R operation operation
  | onRegister (response : Response) {asked other : ClientRequest} :
      asked.Alike R other → Alike R (.onRegister response asked) (.onRegister response other)
  | onUnregister (response : Response) {asked other : ClientRequest} :
      asked.Alike R other → Alike R (.onUnregister response asked) (.onUnregister response other)

namespace Session
variable {s s' : Session} {operation operation' : Operation}
  {operations operations' : List Operation}

/-- What one session does, the other one does with its own identifiers. -/
theorem alike_perform (hR : Relator.BiUnique R) (h : s.Alike R s')
    (hop : operation.Alike R operation') :
    Outcome.Alike R (Reply.Alike R) (s.perform operation) (s'.perform operation') := by
  cases hop with
  | onRegister response hasked => exact (alike_onRegisterResponse hR h hasked response).done
  | onUnregister response hasked => exact (alike_onUnregisterResponse hR h hasked response).done
  | same hmediated =>
      cases operation with
      | declare capabilities => exact ⟨.ok .done, (h.declared ⟨capabilities⟩).logged _ _⟩
      | initialised => exact (alike_initialised hR h).done
      | change settings => exact (alike_changeConfiguration hR h settings).done
      | register method options =>
          exact (alike_registerCapability hR h method options).map fun _ _ => .registrationId
      | unregister method => exact (alike_unregisterCapability hR h method).done
      | pull =>
          refine (alike_pullConfiguration h).map fun n n' hn => ?_
          rw [hn]
          exact .requestId n'
      | apply settings => exact (alike_applySettings hR h settings).done
      | handle response => exact (alike_handleResponse hR h response).done
      | onRegister response asked => exact hmediated.elim
      | onUnregister response asked => exact hmediated.elim
      | onConfiguration response => exact (alike_onConfigurationResponse hR h response).done

theorem alike_run (hR : Relator.BiUnique R) (h : s.Alike R s')
    (hops : List.Forall₂ (Operation.Alike R) operations operations') :
    (s.run operations).Alike R (s'.run operations') := by
  induction hops generalizing s s' with
  | nil => exact h
  | cons hop _ ih => exact ih (alike_perform hR h hop).session

/-! ### Runs from the start -/

section supplies
variable {supply supply' : Nat → RegistrationId}

/-- The identifiers stand for each other: they are paired, or they are one identifier that neither
supply holds. -/
def StandsFor (e : Set.range supply ≃ Set.range supply') (id id' : RegistrationId) : Prop :=
  (∃ h : id ∈ Set.range supply, (e ⟨id, h⟩ : RegistrationId) = id') ∨
    id ∉ Set.range supply ∧ id' ∉ Set.range supply' ∧ id = id'

theorem biUnique_standsFor (e : Set.range supply ≃ Set.range supply') :
    Relator.BiUnique (StandsFor e) := by
  constructor
  · rintro a b c (⟨ha, hac⟩ | ⟨-, hc, hac⟩) (⟨hb, hbc⟩ | ⟨-, hc', hbc⟩)
    · have hpaired : e ⟨a, ha⟩ = e ⟨b, hb⟩ := Subtype.ext (hac.trans hbc.symm)
      exact congrArg Subtype.val (e.injective hpaired)
    · exact absurd (hac ▸ (e ⟨a, ha⟩).2) hc'
    · exact absurd (hbc ▸ (e ⟨b, hb⟩).2) hc
    · exact hac.trans hbc.symm
  · rintro a b c (⟨ha, hab⟩ | ⟨ha, -, hab⟩) (⟨ha', hac⟩ | ⟨hn, -, hac⟩)
    · exact hab.symm.trans hac
    · exact absurd ha hn
    · exact absurd ha' ha
    · exact hab.symm.trans hac

theorem alike_start {R : RegistrationId → RegistrationId → Prop}
    (hsupply : ∀ k, R (supply k) (supply' k)) (refusal : Nat → Option TransportError)
    (config : Config) :
    (start ⟨refusal, []⟩ supply config).Alike R (start ⟨refusal, []⟩ supply' config) :=
  ⟨fun _ => .nil, .nil, .nil, rfl, hsupply, rfl, rfl, rfl, rfl, rfl⟩

/-- What identifiers are drawn has no influence on a run.  One bijection pairs the identifiers of two
supplies such that, whatever is done in two sessions that draw from them, every operation gives
results that correspond; and so do after every operation the attempts of every method, the requests
that wait, all messages that were given to the connection, and the switch for formatting. -/
theorem identifiers_immaterial (hi : Function.Injective supply) (hi' : Function.Injective supply')
    (refusal : Nat → Option TransportError) (config : Config) :
    ∃ e : Set.range supply ≃ Set.range supply',
      (∀ k, (e ⟨supply k, k, rfl⟩ : RegistrationId) = supply' k) ∧
      ∀ operations operations', List.Forall₂ (Operation.Alike (StandsFor e)) operations operations' →
        let s := (start ⟨refusal, []⟩ supply config).run operations
        let s' := (start ⟨refusal, []⟩ supply' config).run operations'
        (∀ operation operation', Operation.Alike (StandsFor e) operation operation' →
          Result.Alike (Reply.Alike (StandsFor e)) (s.perform operation).1
            (s'.perform operation').1) ∧
        (∀ m, List.Forall₂ (Attempt.Alike (StandsFor e)) (s.attemptsFor m) (s'.attemptsFor m)) ∧
        (∀ n, Option.Rel (ClientRequest.Alike (StandsFor e)) (s.outstandingRequest n)
          (s'.outstandingRequest n)) ∧
        s.outstandingCount = s'.outstandingCount ∧
        List.Forall₂ (Dispatch.Alike (StandsFor e)) s.connection.dispatched
          s'.connection.dispatched ∧
        s.formatOnType = s'.formatOnType ∧
        ∀ id : Set.range supply, s.ledger.Drawn id ↔ s'.ledger.Drawn (e id) := by
  have hpaired : ∀ k, ((((Equiv.ofInjective supply hi).symm.trans (Equiv.ofInjective supply' hi'))
      ⟨supply k, k, rfl⟩ : Set.range supply') : RegistrationId) = supply' k := by
    intro k
    simp
  generalize (Equiv.ofInjective supply hi).symm.trans (Equiv.ofInjective supply' hi') = e
    at hpaired
  refine ⟨e, hpaired, fun operations operations' hops => ?_⟩
  intro s s'
  have hR := biUnique_standsFor e
  have h : s.Alike (StandsFor e) s' :=
    alike_run hR (alike_start (fun k => .inl ⟨⟨k, rfl⟩, hpaired k⟩) refusal config) hops
  refine ⟨fun _ _ hop => (alike_perform hR h hop).result, fun m => alike_attemptsFor (h.recorded m),
    h.outstanding.find?, h.outstanding.length_eq, h.dispatched,
    congrArg Settings.formatOnType h.settings, fun id => ?_⟩
  have hid : StandsFor e id (e id) := .inl ⟨id.2, rfl⟩
  have hdrawn : s.ledger.drawn = s'.ledger.drawn := h.drawn
  constructor
  · rintro ⟨k, hk, hsupply⟩
    exact ⟨k, hdrawn ▸ hk, hR.right (hsupply ▸ h.supply k) hid⟩
  · rintro ⟨k, hk, hsupply⟩
    exact ⟨k, hdrawn ▸ hk, hR.left (hsupply ▸ h.supply k) hid⟩

/-- Two sessions whose supplies overlap are asked for two registrations, of which the client accepts
the first and, in a response that is handed to the handler, refuses the second. -/
theorem identifiers_immaterial_of_overlapping :
    let operations := fun id => [Operation.register "a/b" none, .register "a/b" none,
      .handle (.success 1 .null),
      .onRegister (.failure 2 0 "") (.register [⟨id, "a/b", none⟩])]
    let s := (start .accepting .ofLength .default).run (operations (.ofLength 1))
    let s' := (start .accepting (fun k => .ofLength (k + 1)) .default).run
      (operations (.ofLength 2))
    s.attemptsFor "a/b" =
      [⟨some (.ofLength 0), true, .complete⟩, ⟨some (.ofLength 1), false, .complete⟩] ∧
    s'.attemptsFor "a/b" =
      [⟨some (.ofLength 1), true, .complete⟩, ⟨some (.ofLength 2), false, .complete⟩] ∧
    ∃ e : Set.range RegistrationId.ofLength ≃ Set.range fun k => RegistrationId.ofLength (k + 1),
      StandsFor e (.ofLength 1) (.ofLength 2) ∧
      List.Forall₂ (Attempt.Alike (StandsFor e)) (s.attemptsFor "a/b") (s'.attemptsFor "a/b") ∧
      Result.Alike (Reply.Alike (StandsFor e)) (s.perform (.register "a/b" none)).1
        (s'.perform (.register "a/b" none)).1 := by
  intro operations s s'
  have hi' : Function.Injective fun k => RegistrationId.ofLength (k + 1) := by
    intro j k h
    exact Nat.succ_injective (RegistrationId.ofLength_injective h)
  obtain ⟨e, hpaired, hall⟩ := identifiers_immaterial RegistrationId.ofLength_injective hi'
    (fun _ => none) .default
  have hstands : StandsFor e (.ofLength 1) (.ofLength 2) := .inl ⟨⟨1, rfl⟩, hpaired 1⟩
  have hops : List.Forall₂ (Operation.Alike (StandsFor e)) (operations (.ofLength 1))
      (operations (.ofLength 2)) :=
    .cons (.same trivial) (.cons (.same trivial) (.cons (.same trivial)
      (.cons (.onRegister _ (.register (.cons ⟨hstands, rfl, rfl⟩ .nil))) .nil)))
  obtain ⟨hresult, hattempts, -⟩ := hall _ _ hops
  exact ⟨by decide, by decide, e, hstands, hattempts "a/b", hresult _ _ (.same trivial)⟩

end supplies

end Session

end EditorSession
