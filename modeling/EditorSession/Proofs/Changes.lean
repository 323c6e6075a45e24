import EditorSession.Proofs.Deliveries
import EditorSession.Proofs.Messages
import Mathlib.Logic.Relation

/-! # Elementary changes of a session

An operation is a sequence of elementary changes: an attempt is recorded, attempts on record are
settled or dropped, a request about attempts on record is given to the connection
(`Session.Change`).  None of them turns the switch, which is left at what the delivered settings say
(`Session.perform_changes`).  That holds whatever identifiers are drawn, also where one of them is
drawn twice.  So does what each change keeps: all that the session mentions was drawn
(`Session.traceable_run`). -/

namespace EditorSession

/-! ### Attempts that keep their identifiers -/

theorem Attempts.exists_of_mem_update {id : RegistrationId} {change : Attempt → Attempt}
    (h : ∀ a, (change a).id = a.id) {attempts : List Attempt} {b : Attempt}
    (hb : b ∈ update id change attempts) : ∃ a ∈ attempts, a.id = b.id := by
  have hid : b.id ∈ (update id change attempts).map Attempt.id := List.mem_map_of_mem hb
  rw [ids_update h] at hid
  exact List.mem_map.mp hid

namespace Registry

/-- Every attempt of the second registry bears the identifier of one of the first. -/
def Bounds (r r' : Registry) : Prop :=
  ∀ m, ∀ b ∈ r'.recorded m, ∃ a ∈ r.recorded m, a.id = b.id

theorem bounds_modify (r : Registry) (method : String) {change : List Attempt → List Attempt}
    (hnil : change [] = [])
    (h : ∀ attempts, ∀ b ∈ change attempts, ∃ a ∈ attempts, a.id = b.id) :
    r.Bounds (r.modify method change) := by
  intro m b hb
  rw [recorded_modify _ method m hnil] at hb
  split_ifs at hb with hm
  · rw [hm]
    exact h _ b hb
  · exact ⟨b, hb, rfl⟩

theorem bounds_markComplete (r : Registry) (method : String) (id : RegistrationId)
    (succeeded : Bool) : r.Bounds (r.markComplete method id succeeded) :=
  r.bounds_modify method rfl fun _ _ => Attempts.exists_of_mem_update (Attempt.id_settle succeeded)

theorem bounds_remove (r : Registry) (method : String) (id : RegistrationId) :
    r.Bounds (r.remove method id) :=
  r.bounds_modify method rfl fun _ b hb => ⟨b, List.mem_of_mem_filter hb, rfl⟩

theorem bounds_settleFailedUnregistration (r : Registry) (method : String) (id : RegistrationId) :
    r.Bounds (r.settleFailedUnregistration method id) := by
  refine r.bounds_modify method rfl fun attempts b hb => ?_
  obtain ⟨a, ha, hab⟩ := Attempts.exists_of_mem_update (Attempt.id_withState .complete) hb
  exact ⟨a, List.mem_of_mem_filter ha, hab⟩

theorem bounds_restoreStates (r : Registry) (method : String)
    (live : List (RegistrationId × AttemptState)) :
    r.Bounds (Session.restoreStates r method live) := by
  induction live generalizing r with
  | nil => exact fun m b hb => ⟨b, hb, rfl⟩
  | cons e rest ih =>
      intro m b hb
      obtain ⟨a, ha, hab⟩ := ih (r.setState method e.1 e.2) m b hb
      have hset : r.Bounds (r.setState method e.1 e.2) := r.bounds_modify method rfl fun _ _ =>
        Attempts.exists_of_mem_update (Attempt.id_withState e.2)
      obtain ⟨c, hc, hca⟩ := hset m a ha
      exact ⟨c, hc, hca.trans hab⟩

end Registry

namespace Session

/-! ### Changes -/

/-- A session changes in one respect.  A request that it sends is about attempts on record. -/
inductive Change : Session → Session → Prop
  | log (s : Session) (log : List Log.Event) : Change s { s with log := log }
  | declare (s : Session) (capabilities : Capabilities) :
      Change s { s with capabilities := capabilities }
  | record (s : Session) (method : String) : Change s (s.recording method)
  | amend (s : Session) {registry : Registry} : s.registry.Bounds registry →
      Change s { s with registry := registry }
  | dismiss (s : Session) (outstanding : Table Int ClientRequest) :
      (∀ n asked, outstanding.find? n = some asked → s.outstandingRequest n = some asked) →
      Change s { s with outstanding := outstanding }
  | send (s : Session) {asked : ClientRequest} :
      (∀ m id, asked.Names m id → ∃ a ∈ s.registry.recorded m, a.id = some id) →
      Change s (s.send asked).2

/-- A session changes, in one respect after the other. -/
abbrev Changes : Session → Session → Prop := Relation.ReflTransGen Change

variable {s s' : Session}

/-- No change touches the settings, the section or the supply of identifiers. -/
theorem Change.terms (h : Change s s') : s'.settings = s.settings ∧
    s'.sectionName = s.sectionName ∧ s'.supply = s.supply ∧ s.drawn ≤ s'.drawn := by
  cases h with
  | record method => exact ⟨rfl, rfl, rfl, Nat.le_succ _⟩
  | send hnames =>
      unfold Session.send
      dsimp only
      split
      · exact ⟨rfl, rfl, rfl, le_rfl⟩
      · exact ⟨rfl, rfl, rfl, le_rfl⟩
  | _ => exact ⟨rfl, rfl, rfl, le_rfl⟩

theorem Changes.terms (h : s.Changes s') : s'.settings = s.settings ∧
    s'.sectionName = s.sectionName ∧ s'.supply = s.supply ∧ s.drawn ≤ s'.drawn := by
  induction h with
  | refl => exact ⟨rfl, rfl, rfl, le_rfl⟩
  | tail _ hlast ih =>
      obtain ⟨hset, hsec, hsup, hdrawn⟩ := hlast.terms
      exact ⟨hset.trans ih.1, hsec.trans ih.2.1, hsup.trans ih.2.2.1, ih.2.2.2.trans hdrawn⟩

/-! ### What operations consist of -/

theorem changes_pullConfiguration (s : Session) : s.Changes s.pullConfiguration.2 :=
  .single (.send s fun _ _ h => h.elim)

theorem changes_registerCapability (s : Session) (method : String) (options : Option Json) :
    s.Changes (s.registerCapability method options).2 := by
  obtain ⟨log, heq⟩ := s.registerCapability_eq method options
  obtain ⟨s₁, hs₁⟩ : ∃ s₁ : Session, s₁ = { s.recording method with log := log } := ⟨_, rfl⟩
  have hrecorded : s.Changes s₁ := by
    rw [hs₁]
    exact (Relation.ReflTransGen.single (.record s method)).tail (.log _ log)
  have hsent : Change s₁ (s₁.send (.register [⟨s.ledger.fresh, method, options⟩])).2 := by
    refine .send s₁ fun m id hname => ⟨.start id, ?_, rfl⟩
    obtain ⟨rfl, rfl⟩ := ClientRequest.names_register_singleton.mp hname
    rw [hs₁]
    show _ ∈ (s.registry.recordAttempt method s.ledger.fresh).recorded method
    rw [Registry.recorded_recordAttempt, if_pos rfl]
    exact List.mem_append_right _ (List.mem_singleton_self _)
  rw [heq, ← hs₁]
  generalize s₁.send (.register [⟨s.ledger.fresh, method, options⟩]) = outcome at hsent ⊢
  rcases outcome with ⟨e | n, s'⟩
  · exact (hrecorded.tail hsent).tail (.amend _ (Registry.bounds_remove _ _ _))
  · exact hrecorded.tail hsent

theorem changes_unregisterCapability (s : Session) (method : String) :
    s.Changes (s.unregisterCapability method).2 := by
  obtain ⟨log, ⟨-, heq⟩ | ⟨-, heq⟩⟩ := s.unregisterCapability_eq method
  · rw [heq]
    exact .single (.log s log)
  · obtain ⟨s₁, hs₁⟩ : ∃ s₁ : Session, s₁ = { s.marking method with log := log } := ⟨_, rfl⟩
    have hmarked : s.Changes s₁ := by
      rw [hs₁]
      refine (Relation.ReflTransGen.single (.amend s ?_)).tail (.log _ log)
      refine Registry.bounds_modify _ method rfl fun attempts b hb => ?_
      obtain ⟨a, ha, rfl⟩ := List.mem_map.mp hb
      exact ⟨a, ha, (id_markLive a).symm⟩
    have hsent : Change s₁
        (s₁.send (.unregister ((s.ledger.live method).map fun id => ⟨id, method⟩))).2 := by
      refine .send s₁ fun m id hname => ?_
      obtain ⟨rfl, hlive⟩ := Ledger.names_unregister_live.mp hname
      obtain ⟨a, ha, hid, -⟩ := Ledger.mem_live_iff.mp hlive
      refine ⟨markLive a, ?_, (id_markLive a).trans hid⟩
      rw [hs₁]
      show _ ∈ (s.registry.modify m (List.map markLive)).recorded m
      rw [Registry.recorded_modify _ m m List.map_nil, if_pos rfl]
      exact List.mem_map_of_mem ha
    rw [heq, ← hs₁]
    generalize s₁.send (.unregister ((s.ledger.live method).map fun id => ⟨id, method⟩)) =
      outcome at hsent ⊢
    rcases outcome with ⟨e | n, s'⟩
    · exact (hmarked.tail hsent).tail (.amend _ (Registry.bounds_restoreStates _ _ _))
    · exact hmarked.tail hsent

theorem changes_toggleOnTypeFormatting (s : Session) (enable : Bool) :
    s.Changes (s.toggleOnTypeFormatting enable).2 := by
  rw [toggleOnTypeFormatting_eq]
  split_ifs
  · exact s.changes_registerCapability _ _
  · exact s.changes_unregisterCapability _

theorem changes_initialised (s : Session) : s.Changes s.initialised.2 := by
  obtain ⟨log, ⟨-, heq⟩ | heq⟩ := s.initialised_cases
  · rw [heq]
    exact (Relation.ReflTransGen.single (.log s log)).trans (changes_registerCapability _ _ _)
  · rw [heq]
    exact .single (.log s log)

/-- Settling an accepted registration is a change; the others come after it. -/
theorem exists_changes_acceptRegistrations (s : Session) (r : Registration)
    (rest : List Registration) : ∃ s₁ : Session, s.Changes s₁ ∧
      s.acceptRegistrations (r :: rest) =
        if r.method = Method.didChangeConfiguration then
          match s₁.pullConfiguration with
          | (.ok _, s) => s.acceptRegistrations rest
          | (.error e, s) => (.error e, s)
        else s₁.acceptRegistrations rest :=
  ⟨_, (Relation.ReflTransGen.single (.log s _)).tail
    (.amend _ (Registry.bounds_markComplete _ r.method r.id true)), rfl⟩

theorem changes_acceptRegistrations (s : Session) (registrations : List Registration) :
    s.Changes (s.acceptRegistrations registrations).2 := by
  induction registrations generalizing s with
  | nil => exact .refl
  | cons r rest ih =>
      obtain ⟨s₁, hs₁, heq⟩ := s.exists_changes_acceptRegistrations r rest
      rw [heq]
      split_ifs
      · have hpull := s₁.changes_pullConfiguration
        generalize s₁.pullConfiguration = outcome at hpull ⊢
        rcases outcome with ⟨e | n, s'⟩
        · exact hs₁.trans hpull
        · exact (hs₁.trans hpull).trans (ih s')
      · exact hs₁.trans (ih s₁)

theorem changes_refuseRegistrations (s : Session) (registrations : List Registration) :
    s.Changes (s.refuseRegistrations registrations) := by
  induction registrations generalizing s with
  | nil => exact .refl
  | cons r rest ih =>
      exact ((Relation.ReflTransGen.single (.log s _)).tail
        (.amend _ (Registry.bounds_markComplete _ _ _ _))).trans (ih _)

theorem changes_acceptUnregistrations (s : Session) (entries : List Unregistration) :
    s.Changes (s.acceptUnregistrations entries) := by
  induction entries generalizing s with
  | nil => exact .refl
  | cons u rest ih =>
      exact ((Relation.ReflTransGen.single (.log s _)).tail
        (.amend _ (Registry.bounds_remove _ _ _))).trans (ih _)

theorem changes_refuseUnregistrations (s : Session) (entries : List Unregistration) :
    s.Changes (s.refuseUnregistrations entries) := by
  induction entries generalizing s with
  | nil => exact .refl
  | cons u rest ih =>
      exact ((Relation.ReflTransGen.single (.log s _)).tail
        (.amend _ (Registry.bounds_settleFailedUnregistration _ _ _))).trans (ih _)

theorem changes_onRegisterResponse (s : Session) (response : Response) (asked : ClientRequest) :
    s.Changes (s.onRegisterResponse response asked).2 := by
  cases asked with
  | register registrations =>
      simp only [onRegisterResponse]
      split_ifs
      · exact s.changes_acceptRegistrations registrations
      · exact s.changes_refuseRegistrations registrations
  | _ => exact .refl

theorem changes_onUnregisterResponse (s : Session) (response : Response) (asked : ClientRequest) :
    s.Changes (s.onUnregisterResponse response asked).2 := by
  cases asked with
  | unregister entries =>
      simp only [onUnregisterResponse]
      split_ifs
      · exact s.changes_acceptUnregistrations entries
      · exact s.changes_refuseUnregistrations entries
  | _ => exact .refl

theorem changes_onConfigurationResponse {response : Response} (h : s.answered? response = none) :
    s.Changes (s.onConfigurationResponse response).2 := by
  obtain ⟨log, heq⟩ := s.onConfigurationResponse_eq response
  rw [heq, h]
  exact .single (.log s log)

theorem changes_handleResponse {response : Response}
    (h : s.delivery? (.handle response) = none) : s.Changes (s.handleResponse response).2 := by
  unfold handleResponse
  cases hid : response.id with
  | none => exact .single (.log s _)
  | some n =>
      dsimp only
      cases hw : s.outstanding.find? n with
      | none => exact .single (.log s _)
      | some asked =>
          obtain ⟨s₁, hs₁⟩ : ∃ s₁ : Session, s₁ =
              ({ s with outstanding := s.outstanding.erase n } : Session).note .debug clientTarget
                "routing response" [("request_id", .integer n), ("method", .quoted asked.method)] :=
            ⟨_, rfl⟩
          have hdismissed : s.Changes s₁ := by
            rw [hs₁]
            refine (Relation.ReflTransGen.single (.dismiss s _ fun k other hk => ?_)).tail
              (.log _ _)
            rw [Table.find?_erase] at hk
            split_ifs at hk
            exact hk
          dsimp only
          rw [← hs₁]
          cases asked with
          | register registrations =>
              exact hdismissed.trans (s₁.changes_onRegisterResponse response _)
          | unregister entries =>
              exact hdismissed.trans (s₁.changes_onUnregisterResponse response _)
          | configuration items =>
              have hw' : s.outstandingRequest n = some (.configuration items) := hw
              have hnone : s.answered? response = none := by
                simpa only [delivery?, hid, Option.bind_some, hw'] using h
              have hsame : s₁.answered? response = none := by
                rw [hs₁]
                exact hnone
              exact hdismissed.trans (changes_onConfigurationResponse hsame)

/-- Settings are applied by changes, and the switch is left at what they say. -/
theorem changes_applySettings (s : Session) (settings : Json) : ∃ s₁, s.Changes s₁ ∧
    (s.applySettings settings).2 =
      { s₁ with settings := ⟨(s.requestedFormatOnType settings).getD s.formatOnType⟩ } := by
  have hswitch := s.settings_applySettings settings
  by_cases h : s.Turns settings
  · by_cases hc : s.ledger.SupportsFormatting
    · obtain ⟨log, heq⟩ := applySettings_of_turns h hc
      rw [← hswitch, heq]
      exact ⟨_, (s.changes_toggleOnTypeFormatting _).tail (.log _ log), rfl⟩
    · obtain ⟨log, heq⟩ := applySettings_of_turns_of_not_supports h hc
      rw [← hswitch, heq]
      exact ⟨_, .single (.log s log), rfl⟩
  · obtain ⟨log, heq⟩ := applySettings_of_not_turns h
    rw [← hswitch, heq]
    exact ⟨_, .single (.log s log), rfl⟩

/-- The value of the switch after an operation: what the settings say that it delivers, if they say
anything. -/
def switchAfter (s : Session) (operation : Operation) : Bool :=
  ((s.delivery? operation).bind s.requestedFormatOnType).getD s.formatOnType

/-- An operation that delivers no settings consists of changes. -/
theorem changes_perform {operation : Operation} (h : s.delivery? operation = none) :
    s.Changes (s.perform operation).2 := by
  cases operation with
  | declare capabilities =>
      exact (Relation.ReflTransGen.single (.declare s ⟨capabilities⟩)).tail (.log _ _)
  | initialised => exact s.changes_initialised
  | change settings =>
      have hnull := eq_null_of_delivery_change h
      show s.Changes (s.changeConfiguration settings).2
      rw [changeConfiguration_eq, if_pos hnull]
      exact s.changes_pullConfiguration
  | register method options => exact s.changes_registerCapability method options
  | unregister method => exact s.changes_unregisterCapability method
  | pull => exact s.changes_pullConfiguration
  | apply settings => cases h
  | handle response => exact changes_handleResponse h
  | onRegister response asked => exact s.changes_onRegisterResponse response asked
  | onUnregister response asked => exact s.changes_onUnregisterResponse response asked
  | onConfiguration response => exact changes_onConfigurationResponse h

/-- An operation consists of changes, apart from leaving the switch at what its settings say. -/
theorem perform_changes (s : Session) (operation : Operation) : ∃ s₁, s.Changes s₁ ∧
    (s.perform operation).2 = { s₁ with settings := ⟨s.switchAfter operation⟩ } := by
  unfold switchAfter
  cases hd : s.delivery? operation with
  | none =>
      have hchanges := changes_perform hd
      have hsame : (s.perform operation).2.settings = ⟨s.formatOnType⟩ := hchanges.terms.1
      refine ⟨_, hchanges, ?_⟩
      rw [Option.bind_none, Option.getD_none, ← hsame]
  | some settings =>
      obtain ⟨outstanding, log, heq, hledger⟩ := perform_of_delivery hd
      obtain ⟨s₁, happlied, happly⟩ := ({ s with outstanding := outstanding, log := log } :
        Session).changes_applySettings settings
      have hdismissed : s.Changes { s with outstanding := outstanding, log := log } := by
        refine (Relation.ReflTransGen.single (.dismiss s outstanding fun n asked hn => ?_)).tail
          (.log _ log)
        rw [show outstanding.find? = (s.ledger.taking operation).waiting from
          congrArg Ledger.waiting hledger, Ledger.waiting_taking] at hn
        split_ifs at hn
        exact hn
      refine ⟨s₁, hdismissed.trans happlied, ?_⟩
      rw [heq]
      exact happly

/-- The switch is left at what the settings of an operation say. -/
theorem formatOnType_perform (s : Session) (operation : Operation) :
    (s.perform operation).2.formatOnType = s.switchAfter operation := by
  obtain ⟨s₁, -, heq⟩ := s.perform_changes operation
  rw [heq]
  rfl

/-- An operation leaves the section and the supply of identifiers as they are. -/
theorem terms_perform (s : Session) (operation : Operation) :
    (s.perform operation).2.sectionName = s.sectionName ∧
      (s.perform operation).2.supply = s.supply ∧ s.drawn ≤ (s.perform operation).2.drawn := by
  obtain ⟨s₁, hchanges, heq⟩ := s.perform_changes operation
  rw [heq]
  exact hchanges.terms.2

theorem terms_run (s : Session) (operations : List Operation) :
    (s.run operations).sectionName = s.sectionName ∧ (s.run operations).supply = s.supply ∧
      s.drawn ≤ (s.run operations).drawn := by
  induction operations generalizing s with
  | nil => exact ⟨rfl, rfl, le_rfl⟩
  | cons operation rest ih =>
      obtain ⟨hsec, hsup, hdrawn⟩ := s.terms_perform operation
      obtain ⟨hsec', hsup', hdrawn'⟩ := ih (s.perform operation).2
      exact ⟨hsec'.trans hsec, hsup'.trans hsup, hdrawn.trans hdrawn'⟩

/-! ### Where identifiers come from -/

/-- All identifiers that the session mentions were drawn. -/
structure Traceable (s : Session) : Prop where
  recorded : ∀ m, ∀ a ∈ s.registry.recorded m, ∀ id, a.id = some id → s.ledger.Drawn id
  sent : ∀ asked n, ClientRequest.toRequest asked n ∈ s.connection.sent →
    ∀ m id, asked.Names m id → s.ledger.Drawn id

namespace Traceable

theorem drawn_recording {method : String} {id : RegistrationId} (h : s.ledger.Drawn id) :
    (s.recording method).ledger.Drawn id := by
  obtain ⟨k, hk, hid⟩ := h
  exact ⟨k, Nat.lt_succ_of_lt hk, hid⟩

/-- The connection is given one more request, which is about attempts on record. -/
theorem send (h : s.Traceable) {asked : ClientRequest}
    (hnames : ∀ m id, asked.Names m id → ∃ a ∈ s.registry.recorded m, a.id = some id) :
    (s.send asked).2.Traceable := by
  rcases s.send_cases asked with ⟨s', hsend, hl⟩ | ⟨e, s', hsend, hl, -⟩
  · rw [hsend]
    have hrec : s'.registry.recorded = s.registry.recorded := congrArg Ledger.recorded hl
    have hsent : s'.connection.sent = s.connection.sent ++ [asked.toRequest s.nextRequestId] :=
      congrArg Ledger.sent hl
    constructor
    · intro m a ha id hid
      rw [hl]
      exact h.recorded m a (hrec ▸ ha) id hid
    · intro other n hmem m id hname
      rw [hl]
      rw [hsent] at hmem
      rcases List.mem_append.mp hmem with hmem | hmem
      · exact h.sent other n hmem m id hname
      · obtain ⟨rfl, rfl⟩ := ClientRequest.toRequest_inj.mp (List.mem_singleton.mp hmem)
        obtain ⟨a, ha, hid⟩ := hnames m id hname
        exact h.recorded m a ha id hid
  · rw [hsend]
    have hrec : s'.registry.recorded = s.registry.recorded := congrArg Ledger.recorded hl
    have hsent : s'.connection.sent = s.connection.sent := congrArg Ledger.sent hl
    constructor
    · rw [hrec, hl]
      exact h.recorded
    · rw [hsent, hl]
      exact h.sent

theorem change (h : s.Traceable) (hc : Change s s') : s'.Traceable := by
  cases hc with
  | log events => exact ⟨h.recorded, h.sent⟩
  | declare capabilities => exact ⟨h.recorded, h.sent⟩
  | record method =>
      constructor
      · intro m a ha id hid
        have ha' : a ∈ (s.registry.recordAttempt method s.ledger.fresh).recorded m := ha
        rw [Registry.recorded_recordAttempt] at ha'
        split_ifs at ha' with hm
        · rcases List.mem_append.mp ha' with hold | hnew
          · exact drawn_recording (h.recorded method a hold id hid)
          · rw [List.mem_singleton.mp hnew] at hid
            exact ⟨s.drawn, Nat.lt_succ_self _, Option.some.inj hid⟩
        · exact drawn_recording (h.recorded m a ha' id hid)
      · intro asked n hmem m id hname
        exact drawn_recording (h.sent asked n hmem m id hname)
  | amend hbounds =>
      refine ⟨fun m b hb id hid => ?_, h.sent⟩
      obtain ⟨a, ha, hab⟩ := hbounds m b hb
      exact h.recorded m a ha id (hab.trans hid)
  | dismiss outstanding _ => exact ⟨h.recorded, h.sent⟩
  | send hnames => exact h.send hnames

theorem perform (h : s.Traceable) (operation : Operation) :
    (s.perform operation).2.Traceable := by
  obtain ⟨s₁, hchanges, heq⟩ := s.perform_changes operation
  have hs₁ : s₁.Traceable := by
    clear heq
    induction hchanges with
    | refl => exact h
    | tail _ hlast ih => exact ih.change hlast
  rw [heq]
  exact ⟨hs₁.recorded, hs₁.sent⟩

end Traceable

/-- All identifiers that a session mentions were drawn, also where one is drawn twice. -/
theorem traceable_run (refusal : Nat → Option TransportError) (supply : Nat → RegistrationId)
    (config : Config) (operations : List Operation) :
    ((start ⟨refusal, []⟩ supply config).run operations).Traceable := by
  induction operations using List.reverseRecOn with
  | nil => exact ⟨nofun, nofun⟩
  | append_singleton operations operation ih =>
      rw [run_append]
      exact ih.perform operation

end Session

end EditorSession
