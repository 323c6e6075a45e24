import EditorSession.Proofs.Runs

/-! # Accepted registrations and a pull that is refused

The registrations of an accepted request are settled one after the other, and the one that announces
changes of the configuration is followed by a pull.  Where the connection refuses that pull, the
handler stops: the registrations up to that one are settled and those after it are as they were
(`Session.settled_up_to_refused_pull`).  So only a request all of whose pulls go out is settled as a
whole. -/

namespace EditorSession

namespace Ledger

/-- What an answer leaves on record depends on nothing but the record. -/
theorem recorded_settle_congr {l l' : Ledger} (h : l'.recorded = l.recorded)
    (asked : ClientRequest) (accepted : Bool) :
    (l'.settle asked accepted).recorded = (l.settle asked accepted).recorded := by
  unfold settle
  rw [h]

theorem Distinct.of_recorded_eq {l l' : Ledger} (hd : l.Distinct) (h : l'.recorded = l.recorded) :
    l'.Distinct := by
  intro m
  rw [h]
  exact hd m

end Ledger

namespace Session

variable {s : Session} {response : Response} {registrations : List Registration}

/-- The registration is on record as one that the client holds. -/
def Confirmed (s : Session) (r : Registration) : Prop :=
  ⟨some r.id, true, .complete⟩ ∈ s.attemptsFor r.method

instance (s : Session) (r : Registration) : Decidable (s.Confirmed r) :=
  inferInstanceAs (Decidable (_ ∈ s.attemptsFor r.method))

/-! ### The handler of accepted registrations -/

/-- A pull leaves the attempts on record, whether it goes out or is refused. -/
theorem pullConfiguration_outcomes (s : Session) :
    (∃ n s', s.pullConfiguration = (.ok n, s') ∧ s'.ledger.recorded = s.ledger.recorded) ∨
    (∃ cause s', s.pullConfiguration = (.error (.transport Method.configuration cause), s') ∧
      s'.ledger.recorded = s.ledger.recorded) := by
  unfold pullConfiguration send Connection.give
  cases s.connection.refusal s.connection.dispatched.length with
  | none => exact .inl ⟨_, _, rfl, rfl⟩
  | some cause => exact .inr ⟨cause, _, rfl, rfl⟩

/-- The first of the accepted registrations is settled, and the others come next unless the pull
after it is refused. -/
theorem acceptRegistrations_step (hd : s.ledger.Distinct) (r : Registration)
    (rest : List Registration) : ∃ s' : Session,
      s'.ledger.recorded = (s.ledger.settle (.register [r]) true).recorded ∧
      (s.acceptRegistrations (r :: rest) = s'.acceptRegistrations rest ∨
        ∃ cause, r.method = Method.didChangeConfiguration ∧
          s.acceptRegistrations (r :: rest) =
            (.error (.transport Method.configuration cause), s')) := by
  obtain ⟨s₁, heq, hl⟩ := acceptRegistrations_eq hd r rest
  have hrecorded := congrArg Ledger.recorded hl
  rw [heq]
  by_cases hm : r.method = Method.didChangeConfiguration
  · rw [if_pos hm]
    rcases s₁.pullConfiguration_outcomes with ⟨n, s', hp, hs'⟩ | ⟨cause, s', hp, hs'⟩
    · exact ⟨s', hs'.trans hrecorded, .inl (by rw [hp])⟩
    · exact ⟨s', hs'.trans hrecorded, .inr ⟨cause, hm, by rw [hp]⟩⟩
  · exact ⟨s₁, hrecorded, .inl (if_neg hm)⟩

/-- Accepted registrations are all settled, or all up to one after which a pull is refused. -/
theorem acceptRegistrations_outcomes (hd : s.ledger.Distinct) (registrations : List Registration) :
    (∃ s', s.acceptRegistrations registrations = (.ok (), s') ∧
      s'.ledger.recorded = (s.ledger.settle (.register registrations) true).recorded) ∨
    (∃ before r after cause s', registrations = before ++ r :: after ∧
      r.method = Method.didChangeConfiguration ∧
      s.acceptRegistrations registrations =
        (.error (.transport Method.configuration cause), s') ∧
      s'.ledger.recorded = (s.ledger.settle (.register (before ++ [r])) true).recorded) := by
  induction registrations generalizing s with
  | nil =>
      have hnone : s.ledger.settle (.register []) true = s.ledger :=
        Ledger.settle_of_forall_not_names fun m id h => by simp [ClientRequest.Names] at h
      exact .inl ⟨s, rfl, by rw [hnone]⟩
  | cons r rest ih =>
      obtain ⟨s₁, hs₁, heq | ⟨cause, hm, heq⟩⟩ := acceptRegistrations_step hd r rest
      · -- What is settled behind the first registration is settled with it.
        have hjoin : ∀ rs : List Registration, (s₁.ledger.settle (.register rs) true).recorded =
            (s.ledger.settle (.register (r :: rs)) true).recorded := by
          intro rs
          rw [Ledger.recorded_settle_congr hs₁,
            Ledger.settle_settle fun m => ClientRequest.settle_register_cons r rs]
        rcases ih ((hd.settle _ _).of_recorded_eq hs₁) with
          ⟨s', hall, hr⟩ | ⟨before, r', after, cause, s', hsplit, hm, hstop, hr⟩
        · exact .inl ⟨s', heq.trans hall, hr.trans (hjoin rest)⟩
        · exact .inr ⟨r :: before, r', after, cause, s', by rw [hsplit]; rfl, hm,
            heq.trans hstop, hr.trans (hjoin (before ++ [r']))⟩
      · exact .inr ⟨[], r, rest, cause, s₁, rfl, hm, heq, hs₁⟩

/-! ### Settled attempts -/

/-- An accepted registration is on record as one that the client holds if it was on record. -/
theorem confirmed_of_settle {s' : Session} {r : Registration} (hr : r ∈ registrations)
    (hrecorded : s'.ledger.recorded =
      (s.ledger.settle (.register registrations) true).recorded)
    (hnamed : ∃ a ∈ s.attemptsFor r.method, a.id = some r.id) : s'.Confirmed r := by
  obtain ⟨a, ha, hid⟩ := hnamed
  have hmem : a ∈ s.ledger.recorded r.method := by
    rcases mem_attemptsFor ha with ha | rfl
    · exact ha
    · cases hid
  have hconcerns : (ClientRequest.register registrations).Concerns r.method a :=
    ⟨r.id, hid, r, hr, rfl, rfl⟩
  refine mem_attemptsFor_of_mem ?_
  rw [hrecorded, Ledger.mem_settle_iff]
  exact ⟨a, hmem, by
    rw [ClientRequest.settle_of_concerns hconcerns]
    simp [ClientRequest.verdict, Attempt.settle, hid]⟩

/-- An attempt that no registration names is on record as it was. -/
theorem mem_attemptsFor_iff_of_settle {s' : Session} {m : String} {a : Attempt}
    {id : RegistrationId}
    (hrecorded : s'.ledger.recorded =
      (s.ledger.settle (.register registrations) true).recorded)
    (hid : a.id = some id) (hn : ¬ (ClientRequest.register registrations).Names m id) :
    a ∈ s'.attemptsFor m ↔ a ∈ s.attemptsFor m := by
  have hc : ∀ b : Attempt, b.id = some id →
      ¬ (ClientRequest.register registrations).Concerns m b := by
    rintro b hb ⟨id', hid', hname⟩
    cases hb.symm.trans hid'
    exact hn hname
  have hmem : a ∈ s'.ledger.recorded m ↔ a ∈ s.ledger.recorded m := by
    rw [hrecorded]
    constructor
    · intro h
      obtain ⟨b, hb, hbid, hab⟩ := Ledger.exists_of_mem_settle h hid
      rw [ClientRequest.settle_of_not_concerns (hc b hbid)] at hab
      cases hab
      exact hb
    · exact fun h => Ledger.mem_settle_iff.mpr
        ⟨a, h, ClientRequest.settle_of_not_concerns (hc a hid)⟩
  have hview : ∀ {t : Session}, a ∈ t.attemptsFor m ↔ a ∈ t.ledger.recorded m := by
    intro t
    refine ⟨fun h => ?_, mem_attemptsFor_of_mem⟩
    rcases mem_attemptsFor h with h | rfl
    · exact h
    · cases hid
  rw [hview, hview, hmem]

theorem distinct_iff :
    s.ledger.Distinct ↔ ∀ m, ((s.attemptsFor m).map Attempt.id).Nodup := by
  refine forall_congr' fun m => ?_
  show ((s.registry.recorded m).map Attempt.id).Nodup ↔ _
  by_cases h : s.registry.recorded m = []
  · rw [attemptsFor, Registry.attemptsFor_eq_never_of_recorded_eq_nil h, h]
    exact iff_of_true List.nodup_nil (List.nodup_singleton _)
  · rw [attemptsFor, Registry.attemptsFor_of_recorded_ne_nil h]

/-- The registrations of an accepted request are settled up to the first pull that is refused.  In
every session whose attempts have distinct identifiers, and for every register request about
attempts on record: the handler succeeds and the client is known to hold all of them, or the pull
after one of them is refused; then this holds of the registrations up to that one, and every attempt
that none of these names is on record as it was. -/
theorem settled_up_to_refused_pull (hd : ∀ m, ((s.attemptsFor m).map Attempt.id).Nodup)
    (hnamed : ∀ r ∈ registrations, ∃ a ∈ s.attemptsFor r.method, a.id = some r.id)
    (hresult : response.hasResult = true) :
    let outcome := s.onRegisterResponse response (.register registrations)
    (outcome.1 = .ok () ∧ ∀ r ∈ registrations, outcome.2.Confirmed r) ∨
    ∃ before r after cause, registrations = before ++ r :: after ∧
      r.method = Method.didChangeConfiguration ∧
      outcome.1 = .error (.transport Method.configuration cause) ∧
      (∀ r' ∈ before ++ [r], outcome.2.Confirmed r') ∧
      ∀ m id a, a.id = some id → ¬ (ClientRequest.register (before ++ [r])).Names m id →
        (a ∈ outcome.2.attemptsFor m ↔ a ∈ s.attemptsFor m) := by
  have houtcome : s.onRegisterResponse response (.register registrations) =
      s.acceptRegistrations registrations := if_pos hresult
  rw [houtcome]
  rcases acceptRegistrations_outcomes (distinct_iff.mpr hd) registrations with
    ⟨s', hall, hr⟩ | ⟨before, r, after, cause, s', hsplit, hm, hstop, hr⟩
  · rw [hall]
    exact .inl ⟨rfl, fun r hmem => confirmed_of_settle hmem hr (hnamed r hmem)⟩
  · rw [hstop]
    refine .inr ⟨before, r, after, cause, hsplit, hm, rfl, fun r' hmem => ?_,
      fun m id a hid hn => mem_attemptsFor_iff_of_settle hr hid hn⟩
    refine confirmed_of_settle hmem hr (hnamed r' ?_)
    rw [hsplit, List.append_cons]
    exact List.mem_append_left after hmem

/-- Two attempts whose registrations went out before the connection was lost. -/
def cutOff : Session :=
  (start (Connection.accepting.refuseAfter 2 .disconnected) .ofLength .default).run
    [.register Method.didChangeConfiguration none, .register "a/b" none]

/-- The registrations of both, with the one in front that is followed by a pull. -/
def cutOffRegistrations : List Registration :=
  [⟨.ofLength 0, Method.didChangeConfiguration, none⟩, ⟨.ofLength 1, "a/b", none⟩]

theorem distinct_cutOff (m : String) : ((cutOff.attemptsFor m).map Attempt.id).Nodup :=
  distinct_iff.mp (sound_run RegistrationId.ofLength_injective _).distinct m

theorem named_cutOff : ∀ r ∈ cutOffRegistrations,
    ∃ a ∈ cutOff.attemptsFor r.method, a.id = some r.id := by
  decide

/-- The pull after the first registration is refused: it is settled, and the attempt of the second
stays pending. -/
theorem settled_up_to_refused_pull_of_cutOff :
    let outcome := cutOff.onRegisterResponse (.success 1 .null) (.register cutOffRegistrations)
    outcome.1 = .error (.transport Method.configuration .disconnected) ∧
      ∃ before r after, cutOffRegistrations = before ++ r :: after ∧
        (∀ r' ∈ before ++ [r], outcome.2.Confirmed r') ∧
        outcome.2.attemptsFor "a/b" = [.start (.ofLength 1)] := by
  intro outcome
  have hresult : (Response.success 1 .null).hasResult = true := rfl
  refine ⟨by decide, ?_⟩
  rcases settled_up_to_refused_pull distinct_cutOff named_cutOff hresult with
    ⟨hok, -⟩ | ⟨before, r, after, _, hsplit, _, _, hc, _⟩
  · exact absurd hok (by decide)
  · exact ⟨before, r, after, hsplit, hc, by decide⟩

/-- An accepted request is not always settled as a whole: a refused pull leaves the registrations
after it pending. -/
theorem not_forall_accepted_settled :
    ¬ ∀ (s : Session) (registrations : List Registration) (response : Response),
      (∀ m, ((s.attemptsFor m).map Attempt.id).Nodup) →
      (∀ r ∈ registrations, ∃ a ∈ s.attemptsFor r.method, a.id = some r.id) →
      response.hasResult = true →
      ∀ r ∈ registrations,
        (s.onRegisterResponse response (.register registrations)).2.Confirmed r := by
  intro h
  have hsettled := h cutOff cutOffRegistrations (.success 1 .null) distinct_cutOff named_cutOff rfl
  revert hsettled
  decide

end Session

end EditorSession
