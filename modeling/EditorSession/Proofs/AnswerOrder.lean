import EditorSession.Proofs.Runs

/-! # The order of two answers

Two answers to different register or unregister requests act on single attempts, so they can be
taken in in either order exactly when they can for each attempt.  They cannot where a registration
and a refused unregistration of the same attempt meet: an attempt that is not registered is dropped
by the refusal, so the answer to its registration comes too late or in time (`Session.Contested`).
Every other pair of answers leaves the same attempts in either order
(`Session.answers_commute_iff`). -/

namespace EditorSession

/-! ### One attempt -/

namespace ClientRequest

/-- The answers to a register and to an unregister request clash about an attempt: the
unregistration is refused, and the attempt counts as registered before the answer to its
registration exactly where it does not afterwards. -/
def Clash (first : ClientRequest) (accepted : Bool) (second : ClientRequest) (accepted' : Bool)
    (method : String) (a : Attempt) : Prop :=
  (∃ registrations, first = register registrations) ∧ (∃ entries, second = unregister entries) ∧
    first.Concerns method a ∧ second.Concerns method a ∧ accepted' = false ∧
      a.registered ≠ accepted

section order
variable {first second : ClientRequest} {accepted accepted' : Bool} {method : String} {a : Attempt}

/-- An answer about another attempt can be taken in before or after. -/
theorem settle_comm_of_not_concerns (h : ¬ second.Concerns method a) :
    (first.settle accepted method a).bind (second.settle accepted' method) =
      (second.settle accepted' method a).bind (first.settle accepted method) := by
  rw [settle_of_not_concerns h, Option.bind_some]
  cases hb : first.settle accepted method a with
  | none => rfl
  | some b =>
      have hid : b.id = a.id := keepsId_settle first accepted method a b hb
      have hn : ¬ second.Concerns method b := mt (concerns_congr hid).mp h
      rw [Option.bind_some, settle_of_not_concerns hn]

theorem settle_bind_of_concerns (hf : first.Concerns method a) (hs : second.Concerns method a) :
    (first.settle accepted method a).bind (second.settle accepted' method) =
      (first.verdict accepted a).bind (second.verdict accepted') := by
  have hsettle := keepsId_settle first accepted method a
  rw [settle_of_concerns hf] at hsettle ⊢
  refine Option.bind_congr fun b hb => settle_of_concerns ?_
  exact (concerns_congr (hsettle b hb)).mpr hs

/-- The answers to a registration and to an unregistration of one attempt can be taken in in either
order unless the unregistration is refused and the other answer changes what is registered. -/
theorem verdict_comm_iff (registrations : List Registration) (entries : List Unregistration)
    (accepted accepted' : Bool) (a : Attempt) :
    ((register registrations).verdict accepted a).bind ((unregister entries).verdict accepted') =
      ((unregister entries).verdict accepted' a).bind ((register registrations).verdict accepted) ↔
      ¬ (accepted' = false ∧ a.registered ≠ accepted) := by
  obtain ⟨id, registered, state⟩ := a
  cases accepted <;> cases accepted' <;> cases registered <;>
    simp [verdict, Attempt.settle, Attempt.withState]

theorem verdict_unregister_comm (entries entries' : List Unregistration) (accepted accepted' : Bool)
    (a : Attempt) :
    ((unregister entries).verdict accepted a).bind ((unregister entries').verdict accepted') =
      ((unregister entries').verdict accepted' a).bind ((unregister entries).verdict accepted) := by
  obtain ⟨id, registered, state⟩ := a
  cases accepted <;> cases accepted' <;> cases registered <;>
    simp [verdict, Attempt.withState]

/-- Two answers can be taken in in either order for an attempt exactly when they do not clash, if
they are not both about registering it. -/
theorem settle_comm_iff
    (hone : ∀ rs rs', first = register rs → second = register rs' →
      first.Concerns method a → ¬ second.Concerns method a) :
    (first.settle accepted method a).bind (second.settle accepted' method) =
      (second.settle accepted' method a).bind (first.settle accepted method) ↔
      ¬ first.Clash accepted second accepted' method a ∧
        ¬ second.Clash accepted' first accepted method a := by
  by_cases hf : first.Concerns method a
  · by_cases hs : second.Concerns method a
    · rw [settle_bind_of_concerns hf hs, settle_bind_of_concerns hs hf]
      cases first with
      | register rs =>
          cases second with
          | register rs' => exact absurd hs (hone rs rs' rfl rfl hf)
          | unregister us => rw [verdict_comm_iff]; simp [Clash, hf, hs]
          | configuration items => exact absurd hs (by rintro ⟨_, -, hn⟩; exact hn)
      | unregister us =>
          cases second with
          | register rs => rw [eq_comm, verdict_comm_iff]; simp [Clash, hf, hs]
          | unregister us' => simp [Clash, verdict_unregister_comm]
          | configuration items => exact absurd hs (by rintro ⟨_, -, hn⟩; exact hn)
      | configuration items => exact absurd hf (by rintro ⟨_, -, hn⟩; exact hn)
    · refine iff_of_true (settle_comm_of_not_concerns hs) ⟨?_, ?_⟩
      · exact fun h => hs h.2.2.2.1
      · exact fun h => hs h.2.2.1
  · refine iff_of_true (settle_comm_of_not_concerns hf).symm ⟨?_, ?_⟩
    · exact fun h => hf h.2.2.1
    · exact fun h => hf h.2.2.2.1

/-- Two answers can be taken in in either order for all attempts of a method exactly when they clash
about none of them. -/
theorem filterMap_settle_comm_iff {attempts : List Attempt}
    (hd : (attempts.map Attempt.id).Nodup)
    (hone : ∀ a ∈ attempts, ∀ rs rs', first = register rs → second = register rs' →
      first.Concerns method a → ¬ second.Concerns method a) :
    (attempts.filterMap (first.settle accepted method)).filterMap
        (second.settle accepted' method) =
      (attempts.filterMap (second.settle accepted' method)).filterMap
        (first.settle accepted method) ↔
      ∀ a ∈ attempts, ¬ first.Clash accepted second accepted' method a ∧
        ¬ second.Clash accepted' first accepted method a := by
  rw [Attempts.filterMap_comm_iff (keepsId_settle first accepted method)
    (keepsId_settle second accepted' method) hd]
  constructor
  · exact fun h a ha => (settle_comm_iff (hone a ha)).mp (h a ha)
  · exact fun h a ha => (settle_comm_iff (hone a ha)).mpr (h a ha)

end order

end ClientRequest

/-! ### Two answers of a session -/

namespace Session

/-- The first response answers the registration of an attempt that the second one refuses to
unregister, and the attempt counts as registered now exactly where it does not after the first. -/
def Contested (s : Session) (p q : Response) : Prop :=
  ∃ n k r entries, p.id = some n ∧ q.id = some k ∧
    s.outstandingRequest n = some (.register [r]) ∧
    s.outstandingRequest k = some (.unregister entries) ∧ ⟨r.id, r.method⟩ ∈ entries ∧
    q.hasResult = false ∧
    ∃ a ∈ s.attemptsFor r.method, a.id = some r.id ∧ a.registered ≠ p.hasResult

section responses
variable {s : Session} {p q : Response} {n k : Int} {first second : ClientRequest}

/-- The answer to a register or unregister request settles the attempts and leaves the other
requests waiting. -/
theorem handleResponse_settles (hs : s.ledger.Sound) (hp : p.id = some n)
    (hw : s.ledger.waiting n = some first) (hreg : first.IsRegistration) :
    (s.handleResponse p).2.ledger.Sound ∧
    (∀ m, (s.handleResponse p).2.ledger.recorded m =
      (s.ledger.recorded m).filterMap (first.settle p.hasResult m)) ∧
    ∀ k other, k ≠ n → s.ledger.waiting k = some other →
      (s.handleResponse p).2.ledger.waiting k = some other := by
  have hanswer := Ledger.answer_of_waiting hw p.hasResult
  have hsound := hs.answer n p.hasResult
  have hkept : ∀ k other, k ≠ n → s.ledger.waiting k = some other →
      (s.ledger.answer n p.hasResult).waiting k = some other := by
    intro k other hne hk
    rw [hanswer, Ledger.waiting_dismiss, if_neg hne]
    exact hk
  rcases handleResponse_cases hs hp hw hreg with hl | hl
  · rw [hl]
    exact ⟨hsound, fun m => by rw [hanswer]; rfl, hkept⟩
  · rw [hl]
    refine ⟨hsound.pull _, fun m => by rw [hanswer]; rfl, fun k other hne hk => ?_⟩
    have hold := hsound.numbered k other (hkept k other hne hk)
    exact (Ledger.waiting_dispatch ..).trans ((if_neg (by omega)).trans (hkept k other hne hk))

/-- Two answers settle the attempts one after the other. -/
theorem recorded_handleResponse_twice (hs : s.ledger.Sound) (hne : n ≠ k) (hp : p.id = some n)
    (hq : q.id = some k) (hn : s.ledger.waiting n = some first)
    (hk : s.ledger.waiting k = some second) (hf : first.IsRegistration)
    (hsec : second.IsRegistration) :
    ((s.handleResponse p).2.handleResponse q).2.ledger.Sound ∧
    ∀ m, ((s.handleResponse p).2.handleResponse q).2.ledger.recorded m =
      ((s.ledger.recorded m).filterMap (first.settle p.hasResult m)).filterMap
        (second.settle q.hasResult m) := by
  obtain ⟨hs₁, hrec, hkept⟩ := handleResponse_settles hs hp hn hf
  obtain ⟨hs₂, hrec', -⟩ := handleResponse_settles hs₁ hq (hkept k second hne.symm hk) hsec
  exact ⟨hs₂, fun m => by rw [hrec', hrec]⟩

/-- The public view tells the attempts on record, as all of them are named. -/
theorem attemptsFor_eq_iff {s' : Session} (hs : s.ledger.Sound) (hs' : s'.ledger.Sound)
    (method : String) : s.attemptsFor method = s'.attemptsFor method ↔
      s.ledger.recorded method = s'.ledger.recorded method := by
  have hnever : ∀ {t : Session}, t.ledger.Sound → t.registry.recorded method ≠ [.never] := by
    intro t ht h
    obtain ⟨id, hid⟩ := ht.named method .never (by
      show _ ∈ t.registry.recorded method
      rw [h]
      exact List.mem_singleton_self _)
    cases hid
  show s.registry.attemptsFor method = s'.registry.attemptsFor method ↔
    s.registry.recorded method = s'.registry.recorded method
  by_cases h : s.registry.recorded method = []
  · by_cases h' : s'.registry.recorded method = []
    · simp [Registry.attemptsFor, h, h']
    · rw [Registry.attemptsFor_eq_never_of_recorded_eq_nil h,
        Registry.attemptsFor_of_recorded_ne_nil h', h]
      exact iff_of_false (hnever hs' ·.symm) (Ne.symm h')
  · by_cases h' : s'.registry.recorded method = []
    · rw [Registry.attemptsFor_eq_never_of_recorded_eq_nil h',
        Registry.attemptsFor_of_recorded_ne_nil h, h']
      exact iff_of_false (hnever hs) h
    · rw [Registry.attemptsFor_of_recorded_ne_nil h, Registry.attemptsFor_of_recorded_ne_nil h']

/-- Two outstanding answers are contested when they clash about some attempt. -/
theorem contested_iff (hs : s.ledger.Sound) (hp : p.id = some n) (hq : q.id = some k)
    (hn : s.ledger.waiting n = some first) (hk : s.ledger.waiting k = some second) :
    s.Contested p q ↔ ∃ m, ∃ a ∈ s.ledger.recorded m,
      first.Clash p.hasResult second q.hasResult m a := by
  constructor
  · rintro ⟨_, _, r, us, hp', hq', hn', hk', hmem, hrefused, a, ha, hid, hne⟩
    cases hp.symm.trans hp'
    cases hq.symm.trans hq'
    cases hn.symm.trans hn'
    cases hk.symm.trans hk'
    rcases mem_attemptsFor ha with ha | rfl
    · have hname : (ClientRequest.register [r]).Names r.method r.id :=
        ClientRequest.names_register_singleton.mpr ⟨rfl, rfl⟩
      exact ⟨r.method, a, ha, ⟨_, rfl⟩, ⟨_, rfl⟩, ⟨r.id, hid, hname⟩, ⟨r.id, hid, hmem⟩, hrefused,
        hne⟩
    · cases hid
  · rintro ⟨m, a, ha, ⟨rs, rfl⟩, ⟨us, rfl⟩, ⟨id, hid, hname⟩, ⟨id', hid', hmem⟩, hrefused, hne⟩
    obtain ⟨r, rfl⟩ := hs.single n rs hn
    obtain ⟨rfl, rfl⟩ := ClientRequest.names_register_singleton.mp hname
    cases hid.symm.trans hid'
    exact ⟨n, k, r, us, hp, hq, hn, hk, hmem, hrefused, a, mem_attemptsFor_of_mem ha, hid, hne⟩

end responses

/-- After every sequence of operations, the answers to two outstanding register or unregister
requests leave the same attempts in either order exactly when they are not contested. -/
theorem answers_commute_iff {connection : Connection} {supply : Nat → RegistrationId}
    {config : Config} (hi : Function.Injective supply) (operations : List Operation)
    {p q : Response} {n k : Int} {first second : ClientRequest} (hne : n ≠ k)
    (hp : p.id = some n) (hq : q.id = some k) :
    let s := (start connection supply config).run operations
    s.outstandingRequest n = some first → first.IsRegistration →
    s.outstandingRequest k = some second → second.IsRegistration →
    ((∀ method, ((s.handleResponse p).2.handleResponse q).2.attemptsFor method =
        ((s.handleResponse q).2.handleResponse p).2.attemptsFor method) ↔
      ¬ s.Contested p q ∧ ¬ s.Contested q p) := by
  intro s hn hf hk hsec
  have hs : s.ledger.Sound := sound_run hi operations
  obtain ⟨hs₁, hrec₁⟩ := recorded_handleResponse_twice hs hne hp hq hn hk hf hsec
  obtain ⟨hs₂, hrec₂⟩ := recorded_handleResponse_twice hs hne.symm hq hp hk hn hsec hf
  have hone : ∀ m, ∀ a ∈ s.ledger.recorded m, ∀ rs rs', first = .register rs →
      second = .register rs' → first.Concerns m a → ¬ second.Concerns m a := by
    rintro m a - rs rs' rfl rfl ⟨id, hid, hname⟩ ⟨id', hid', hname'⟩
    obtain ⟨r, rfl⟩ := hs.single n rs hn
    obtain ⟨r', rfl⟩ := hs.single k rs' hk
    obtain ⟨-, rfl⟩ := ClientRequest.names_register_singleton.mp hname
    obtain ⟨-, rfl⟩ := ClientRequest.names_register_singleton.mp hname'
    exact hne (hs.once n k r r' hn hk (Option.some.inj (hid.symm.trans hid')))
  rw [contested_iff hs hp hq hn hk, contested_iff hs hq hp hk hn]
  simp only [attemptsFor_eq_iff hs₁ hs₂, hrec₁, hrec₂]
  rw [forall_congr' fun m => ClientRequest.filterMap_settle_comm_iff (hs.distinct m) (hone m)]
  constructor
  · intro h
    exact ⟨fun ⟨m, a, ha, hc⟩ => (h m a ha).1 hc, fun ⟨m, a, ha, hc⟩ => (h m a ha).2 hc⟩
  · rintro ⟨hpq, hqp⟩ m a ha
    exact ⟨fun hc => hpq ⟨m, a, ha, hc⟩, fun hc => hqp ⟨m, a, ha, hc⟩⟩

/-- The order of an accepted registration and an accepted unregistration does not matter. -/
theorem answers_commute_of_accepted :
    let s := (start .accepting .ofLength .default).run [.register "a/b" none, .unregister "a/b"]
    ∀ method, ((s.handleResponse (.success 1 .null)).2.handleResponse
        (.success 2 .null)).2.attemptsFor method =
      ((s.handleResponse (.success 2 .null)).2.handleResponse
        (.success 1 .null)).2.attemptsFor method := by
  intro s
  refine (answers_commute_iff RegistrationId.ofLength_injective _ (by decide) rfl rfl rfl ?_ rfl
    ?_).mpr ⟨?_, ?_⟩
  · exact ClientRequest.isRegistration_register _
  · exact ClientRequest.isRegistration_unregister _
  · rintro ⟨_, _, _, _, -, -, -, -, -, hrefused, -⟩
    cases hrefused
  · rintro ⟨_, _, _, _, -, -, -, -, -, hrefused, -⟩
    cases hrefused

/-- The order of two answers may matter: a registration that the client accepts is on record after
its refusal to unregister it, but not where the refusal comes first. -/
theorem not_forall_answers_commute :
    ¬ ∀ (connection : Connection) (supply : Nat → RegistrationId) (config : Config)
      (operations : List Operation) (p q : Response) (n k : Int) (first second : ClientRequest),
      Function.Injective supply → n ≠ k → p.id = some n → q.id = some k →
      let s := (start connection supply config).run operations
      s.outstandingRequest n = some first → first.IsRegistration →
      s.outstandingRequest k = some second → second.IsRegistration →
      ∀ method, ((s.handleResponse p).2.handleResponse q).2.attemptsFor method =
        ((s.handleResponse q).2.handleResponse p).2.attemptsFor method := by
  intro h
  have hsame := h .accepting .ofLength .default [.register "a/b" none, .unregister "a/b"]
    (.success 1 .null) (.failure 2 0 "") 1 2 _ _ RegistrationId.ofLength_injective (by decide)
    rfl rfl rfl (ClientRequest.isRegistration_register _) rfl
    (ClientRequest.isRegistration_unregister _) "a/b"
  revert hsame
  decide

end Session

end EditorSession
