import EditorSession.Proofs.Moves

/-! # Answers settle attempts

What the handlers of answers do to the registry is `Ledger.settle`: they settle the attempts that
the request is about.  The answer to several registrations or unregistrations settles them one after
the other, and an accepted registration may be followed by a pull of the configuration
(`acceptRegistrations_moves`, `onRegisterResponse_moves`). -/

namespace EditorSession

namespace Ledger

/-! ### Settling by several requests -/

variable {l : Ledger} {asked first rest whole : ClientRequest} {accepted : Bool}

theorem settle_of_forall_not_names (h : ∀ m id, ¬ asked.Names m id) :
    l.settle asked accepted = l := by
  have hsettle : ∀ m, asked.settle accepted m = some := fun m =>
    funext fun a => ClientRequest.settle_of_not_concerns fun ⟨id, _, hn⟩ => h m id hn
  unfold settle
  simp only [hsettle, List.filterMap_some]

@[simp] theorem settle_configuration (l : Ledger) (items : List ConfigurationItem)
    (accepted : Bool) : l.settle (.configuration items) accepted = l :=
  settle_of_forall_not_names fun _ _ h => h

theorem settle_settle (h : ∀ m a, (first.settle accepted m a).bind (rest.settle accepted m) =
      whole.settle accepted m a) :
    (l.settle first accepted).settle rest accepted = l.settle whole accepted := by
  unfold settle
  simp only [List.filterMap_filterMap, h]

end Ledger

namespace Session

open Ledger (Moves)

variable {s : Session}

/-! ### Answers to register and unregister requests -/

/-- An answer about one identifier changes the attempts that bear it. -/
theorem ledger_eq_settle {registry : Registry} {asked : ClientRequest} {accepted : Bool}
    {method : String} {attempts : List Attempt} (id : RegistrationId)
    (hn : ∀ m id', asked.Names m id' ↔ m = method ∧ id' = id)
    (hr : ∀ m, registry.recorded m = if m = method then attempts else s.registry.recorded m)
    (ha : attempts = (s.registry.recorded method).filterMap fun a =>
      if a.hasId id then asked.verdict accepted a else some a) :
    ({ s with registry } : Session).ledger = s.ledger.settle asked accepted := by
  refine Ledger.ext (funext fun m => ?_) rfl rfl rfl rfl rfl rfl rfl rfl rfl
  show registry.recorded m = (s.registry.recorded m).filterMap (asked.settle accepted m)
  have hc : ∀ a, asked.Concerns m a ↔ m = method ∧ a.hasId id = true := by
    intro a
    simp [ClientRequest.Concerns, hn, Attempt.hasId_eq_true_iff, and_comm]
  rw [hr]
  split_ifs with hm
  · rw [ha, hm]
    refine List.filterMap_congr fun a _ => ?_
    simp [ClientRequest.settle, ← hm, hc]
  · have hsettle : asked.settle accepted m = some :=
      funext fun a => ClientRequest.settle_of_not_concerns fun h => hm ((hc a).mp h).1
    rw [hsettle, List.filterMap_some]

theorem ledger_markComplete (hd : s.ledger.Distinct) (r : Registration) (accepted : Bool) :
    ({ s with registry := s.registry.markComplete r.method r.id accepted } : Session).ledger =
      s.ledger.settle (.register [r]) accepted := by
  refine ledger_eq_settle r.id (fun m id => ?_)
    (Registry.recorded_markComplete _ r.method · _ _) ?_
  · simp [ClientRequest.Names, eq_comm]
  · have hd' : ((s.registry.recorded r.method).map Attempt.id).Nodup := hd r.method
    rw [Attempts.update_eq_map hd', ← List.filterMap_eq_map]
    refine List.filterMap_congr fun a _ => ?_
    split_ifs with h <;> simp [ClientRequest.verdict, h]

theorem ledger_remove (s : Session) (u : Unregistration) :
    ({ s with registry := s.registry.remove u.method u.id } : Session).ledger =
      s.ledger.settle (.unregister [u]) true := by
  refine ledger_eq_settle u.id (fun m id => ?_) (Registry.recorded_remove _ u.method · _) ?_
  · cases u
    simp [ClientRequest.Names, and_comm]
  · exact Attempts.drop_eq_filterMap _ _

theorem ledger_settleFailedUnregistration (hd : s.ledger.Distinct) (u : Unregistration) :
    ({ s with registry := s.registry.settleFailedUnregistration u.method u.id } : Session).ledger =
      s.ledger.settle (.unregister [u]) false := by
  refine ledger_eq_settle u.id (fun m id => ?_)
    (Registry.recorded_settleFailedUnregistration _ u.method · _) ?_
  · cases u
    simp [ClientRequest.Names, and_comm]
  · exact Attempts.restore_eq_filterMap (hd u.method)

theorem ledger_refuseRegistrations (hd : s.ledger.Distinct) (registrations : List Registration) :
    (s.refuseRegistrations registrations).ledger =
      s.ledger.settle (.register registrations) false := by
  induction registrations generalizing s with
  | nil =>
      refine (Ledger.settle_of_forall_not_names fun m id h => ?_).symm
      simp [ClientRequest.Names] at h
  | cons r rest ih =>
      obtain ⟨s₁, heq, hl⟩ : ∃ s₁ : Session,
          s.refuseRegistrations (r :: rest) = s₁.refuseRegistrations rest ∧
          s₁.ledger = s.ledger.settle (.register [r]) false :=
        ⟨_, rfl, ledger_markComplete hd r false⟩
      rw [heq, ih (hl ▸ hd.settle _ _), hl,
        Ledger.settle_settle fun m => ClientRequest.settle_register_cons r rest]

theorem ledger_acceptUnregistrations (s : Session) (entries : List Unregistration) :
    (s.acceptUnregistrations entries).ledger = s.ledger.settle (.unregister entries) true := by
  induction entries generalizing s with
  | nil =>
      refine (Ledger.settle_of_forall_not_names fun m id h => ?_).symm
      simp [ClientRequest.Names] at h
  | cons u rest ih =>
      obtain ⟨s₁, heq, hl⟩ : ∃ s₁ : Session,
          s.acceptUnregistrations (u :: rest) = s₁.acceptUnregistrations rest ∧
          s₁.ledger = s.ledger.settle (.unregister [u]) true := ⟨_, rfl, ledger_remove _ u⟩
      rw [heq, ih, hl, Ledger.settle_settle fun m => ClientRequest.settle_unregister_cons u rest]

theorem ledger_refuseUnregistrations (hd : s.ledger.Distinct) (entries : List Unregistration) :
    (s.refuseUnregistrations entries).ledger = s.ledger.settle (.unregister entries) false := by
  induction entries generalizing s with
  | nil =>
      refine (Ledger.settle_of_forall_not_names fun m id h => ?_).symm
      simp [ClientRequest.Names] at h
  | cons u rest ih =>
      obtain ⟨s₁, heq, hl⟩ : ∃ s₁ : Session,
          s.refuseUnregistrations (u :: rest) = s₁.refuseUnregistrations rest ∧
          s₁.ledger = s.ledger.settle (.unregister [u]) false :=
        ⟨_, rfl, ledger_settleFailedUnregistration hd u⟩
      rw [heq, ih (hl ▸ hd.settle _ _), hl,
        Ledger.settle_settle fun m => ClientRequest.settle_unregister_cons u rest]

/-- An accepted registration is settled, and the configuration may be pulled before the next. -/
theorem exists_acceptRegistrations_eq (s : Session) (r : Registration) (rest : List Registration) :
    ∃ log, s.acceptRegistrations (r :: rest) =
      if r.method = Method.didChangeConfiguration then
        match ({ s with log := log, registry := s.registry.markComplete r.method r.id true } :
          Session).pullConfiguration with
        | (.ok _, s) => s.acceptRegistrations rest
        | (.error e, s) => (.error e, s)
      else ({ s with log := log, registry := s.registry.markComplete r.method r.id true } :
        Session).acceptRegistrations rest := ⟨_, rfl⟩

/-- An accepted registration is settled before the configuration is pulled. -/
theorem acceptRegistrations_eq (hd : s.ledger.Distinct) (r : Registration)
    (rest : List Registration) : ∃ s₁ : Session,
      s.acceptRegistrations (r :: rest) =
        (if r.method = Method.didChangeConfiguration then
          match s₁.pullConfiguration with
          | (.ok _, s) => s.acceptRegistrations rest
          | (.error e, s) => (.error e, s)
        else s₁.acceptRegistrations rest) ∧
      s₁.ledger = s.ledger.settle (.register [r]) true := by
  obtain ⟨log, heq⟩ := s.exists_acceptRegistrations_eq r rest
  exact ⟨_, heq, ledger_markComplete hd r true⟩

/-- An accepted registration is settled, and the configuration is pulled if changes of it will be
announced from now on. -/
theorem acceptRegistrations_cons (hd : s.ledger.Distinct) (r : Registration)
    (rest : List Registration) : ∃ s₁ : Session,
      (s.acceptRegistrations (r :: rest) = s₁.acceptRegistrations rest ∨
        ∃ e, s.acceptRegistrations (r :: rest) = (.error e, s₁)) ∧
      (s₁.ledger = s.ledger.settle (.register [r]) true ∨
        s₁.ledger = (s.ledger.settle (.register [r]) true).after
          (.pull [⟨none, some s.ledger.sectionName⟩])) := by
  obtain ⟨s₁, heq, hl⟩ := acceptRegistrations_eq hd r rest
  rw [heq]
  split_ifs
  · rcases s₁.pullConfiguration_cases with ⟨s', hp, hs'⟩ | ⟨e, s', hp, hs', -⟩
    · rw [hp]
      rw [hl] at hs'
      exact ⟨s', .inl rfl, .inr hs'⟩
    · rw [hp]
      exact ⟨s', .inr ⟨e, rfl⟩, .inl (hs'.trans hl)⟩
  · exact ⟨s₁, .inl rfl, .inl hl⟩

/-- Accepted registrations are settled, with a pull of the configuration after some of them. -/
theorem acceptRegistrations_moves {kind : Ledger.Move → Prop} (hd : s.ledger.Distinct)
    (hsettle : ∀ r, kind (.settle (.register [r]) true))
    (hpull : kind (.pull [⟨none, some s.ledger.sectionName⟩])) (registrations : List Registration) :
    Moves kind s.ledger (s.acceptRegistrations registrations).2.ledger := by
  induction registrations generalizing s with
  | nil => exact .refl
  | cons r rest ih =>
      obtain ⟨s₁, heq, hl⟩ := acceptRegistrations_cons hd r rest
      have hmoves : Moves kind s.ledger s₁.ledger := by
        have hfirst : Moves kind s.ledger (s.ledger.settle (.register [r]) true) :=
          .single (hsettle r)
        rcases hl with hl | hl
        · rw [hl]
          exact hfirst
        · rw [hl]
          exact hfirst.step hpull
      have hnext : s₁.ledger.Distinct ∧ s₁.ledger.sectionName = s.ledger.sectionName := by
        rcases hl with hl | hl
        · rw [hl]
          exact ⟨hd.settle _ _, rfl⟩
        · rw [hl]
          exact ⟨hd.settle _ _, rfl⟩
      rcases heq with heq | ⟨e, heq⟩
      · rw [heq]
        exact hmoves.trans (ih hnext.1 (hnext.2 ▸ hpull))
      · rw [heq]
        exact hmoves

theorem ledger_onUnregisterResponse (hd : s.ledger.Distinct) (response : Response)
    (entries : List Unregistration) :
    (s.onUnregisterResponse response (.unregister entries)).2.ledger =
      s.ledger.settle (.unregister entries) response.hasResult := by
  simp only [onUnregisterResponse]
  cases response.hasResult with
  | true => exact ledger_acceptUnregistrations s entries
  | false => exact ledger_refuseUnregistrations hd entries

/-- The answer to a register request of one registration. -/
theorem ledger_onRegisterResponse_singleton (hd : s.ledger.Distinct) (response : Response)
    (r : Registration) :
    (s.onRegisterResponse response (.register [r])).2.ledger =
      s.ledger.settle (.register [r]) response.hasResult ∨
    (s.onRegisterResponse response (.register [r])).2.ledger =
      (s.ledger.settle (.register [r]) response.hasResult).after
        (.pull [⟨none, some s.ledger.sectionName⟩]) := by
  simp only [onRegisterResponse]
  cases response.hasResult with
  | true =>
      obtain ⟨s₁, hlast, hl⟩ := acceptRegistrations_cons hd r []
      have hlast' : (s.acceptRegistrations [r]).2 = s₁ := by
        rcases hlast with h | ⟨e, h⟩ <;> exact congrArg Prod.snd h
      rw [if_pos rfl, hlast']
      exact hl
  | false => exact .inl (ledger_refuseRegistrations hd [r])

theorem onRegisterResponse_moves {kind : Ledger.Move → Prop} (hd : s.ledger.Distinct)
    (hsettle : ∀ rs accepted, kind (.settle (.register rs) accepted))
    (hpull : kind (.pull [⟨none, some s.ledger.sectionName⟩])) (response : Response)
    (asked : ClientRequest) :
    Moves kind s.ledger (s.onRegisterResponse response asked).2.ledger := by
  cases asked with
  | register rs =>
      simp only [onRegisterResponse]
      cases response.hasResult with
      | true => exact acceptRegistrations_moves hd (fun r => hsettle [r] true) hpull rs
      | false =>
          have hrefuse := ledger_refuseRegistrations hd rs
          rw [if_neg Bool.false_ne_true, hrefuse]
          exact .single (hsettle rs false)
  | unregister entries => exact .refl
  | configuration items => exact .refl

end Session

end EditorSession
