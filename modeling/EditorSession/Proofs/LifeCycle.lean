import EditorSession.Proofs.Runs

/-! # The life of an attempt

An attempt is pending until its registration is answered.  Then it is registered or rejected and
stays so while it is on record, and once it is gone its identifier does not return.  `Ledger.Later`
says this of two ledgers.  An answer leads from an orderly ledger to a later one, and so do the
moves (`Ledger.Orderly.taking`, `Ledger.Orderly.after`); hence every run does (`Session.later_run`),
and attempts live as they should (`Session.attempts_follow_life_cycle`). -/

namespace EditorSession

/-- An attempt and what it is later on: registered if it was, and rejected if it was. -/
structure Attempt.Later (a b : Attempt) : Prop where
  id : b.id = a.id
  registered : a.registered = true → b.registered = true
  rejected : a.isRejected = true → b.isRejected = true

theorem Attempt.Later.refl (a : Attempt) : a.Later a := ⟨rfl, fun h => h, fun h => h⟩

theorem Attempt.Later.trans {a b c : Attempt} (h : a.Later b) (h' : b.Later c) : a.Later c :=
  ⟨h'.id.trans h.id, h'.registered ∘ h.registered, h'.rejected ∘ h.rejected⟩

theorem Session.later_markLive (a : Attempt) : a.Later (markLive a) where
  id := id_markLive a
  registered := fun h => (registered_markLive a).trans h
  rejected := fun h => by rw [markLive_of_isRejected h, h]

namespace Ledger

/-- A ledger and what it is later on: an attempt that bears an identifier that had been drawn was on
record before. -/
structure Later (l l' : Ledger) : Prop where
  supply : l'.supply = l.supply
  drawn : l.drawn ≤ l'.drawn
  recorded : ∀ m, ∀ b ∈ l'.recorded m, ∀ id, b.id = some id → l.Drawn id →
    ∃ a ∈ l.recorded m, a.Later b

/-- What holds of the attempts of a method when each is answered once. -/
structure Orderly (l : Ledger) : Prop where
  /-- An attempt is pending and not registered until the answer to its registration. -/
  opening : ∀ n r, l.waiting n = some (.register [r]) → ∀ a ∈ l.recorded r.method,
    a.id = some r.id → a.state = .pending ∧ a.registered = false
  /-- Attempts stand in the order in which their identifiers were drawn. -/
  ordered : ∀ m, ((l.recorded m).map Attempt.id).Sublist
    ((List.range l.drawn).map fun k => some (l.supply k))

variable {l l' l'' : Ledger} {asked : ClientRequest} {n : Int} {accepted : Bool} {method : String}

/-! ### Later ledgers -/

namespace Later

theorem of_recorded_eq (hr : l'.recorded = l.recorded) (hs : l'.supply = l.supply)
    (hd : l.drawn ≤ l'.drawn) : l.Later l' :=
  ⟨hs, hd, fun _ b hb _ _ _ => ⟨b, hr ▸ hb, .refl b⟩⟩

theorem refl (l : Ledger) : l.Later l := of_recorded_eq rfl rfl le_rfl

theorem drawn_of_drawn (h : l.Later l') {id : RegistrationId} (hid : l.Drawn id) :
    l'.Drawn id := by
  obtain ⟨k, hk, hsupply⟩ := hid
  exact ⟨k, hk.trans_le h.drawn, by rw [h.supply, hsupply]⟩

theorem trans (h : l.Later l') (h' : l'.Later l'') : l.Later l'' where
  supply := h'.supply.trans h.supply
  drawn := h.drawn.trans h'.drawn
  recorded := fun m c hc id hid hdrawn => by
    obtain ⟨b, hb, hbc⟩ := h'.recorded m c hc id hid (h.drawn_of_drawn hdrawn)
    obtain ⟨a, ha, hab⟩ := h.recorded m b hb id (hbc.id ▸ hid) hdrawn
    exact ⟨a, ha, hab.trans hbc⟩

end Later

/-! ### Steps lead to later ledgers -/

namespace Orderly

theorem draw (h : l.Orderly) : l.draw.Orderly where
  opening := h.opening
  ordered := fun m =>
    (h.ordered m).trans ((List.range_sublist.mpr (Nat.le_succ l.drawn)).map _)

/-- A request goes out that registers nothing. -/
theorem dispatch (h : l.Orderly) (hother : ∀ rs, asked ≠ .register rs) :
    (l.dispatch asked).Orderly where
  opening := fun n r hn => by
    rcases waiting_dispatch_eq_some hn with ⟨-, he⟩ | ⟨-, hw⟩
    · exact absurd he.symm (hother [r])
    · exact h.opening n r hw
  ordered := h.ordered

theorem register (h : l.Orderly) (hs : l.Sound) (hi : Function.Injective l.supply)
    (method : String) (options : Option Json) : (l.register method options).Orderly where
  opening := fun n r hn a ha hid => by
    have hfree := hs.not_mentions_fresh hi r.method
    rcases waiting_dispatch_eq_some hn with ⟨-, he⟩ | ⟨-, hw⟩
    · cases he
      rcases mem_recorded_register ha with ha | ⟨-, rfl⟩
      · exact absurd (.inl ⟨a, ha, hid⟩) hfree
      · exact ⟨rfl, rfl⟩
    · rcases mem_recorded_register ha with ha | ⟨-, rfl⟩
      · exact h.opening n r hw a ha hid
      · have hname : (ClientRequest.register [r]).Names r.method l.fresh :=
          ClientRequest.names_register_singleton.mpr ⟨rfl, (Option.some.inj hid).symm⟩
        exact absurd (.inr ⟨n, _, hw, hname⟩) hfree
  ordered := fun m => by
    by_cases hm : m = method
    · subst hm
      show (((l.register m options).recorded m).map Attempt.id).Sublist
        ((List.range (l.drawn + 1)).map fun k => some (l.supply k))
      rw [Ledger.register, recorded_record_self, List.range_succ, List.map_append, List.map_append]
      exact (h.ordered m).append (List.Sublist.refl _)
    · rw [Ledger.register, recorded_record_of_ne _ hm]
      exact h.draw.ordered m

theorem unregister (h : l.Orderly) (method : String) : (l.unregister method).Orderly where
  opening := fun n r hn b hb hid => by
    obtain ⟨a, ha, hab⟩ := mem_recorded_unregister hb
    have hw : l.waiting n = some (.register [r]) :=
      (waiting_unregister hn).resolve_right fun ⟨_, he⟩ => nomatch he
    rcases hab with rfl | rfl
    · exact h.opening n r hw b ha hid
    · rw [Session.id_markLive] at hid
      obtain ⟨hp, hr⟩ := h.opening n r hw a ha hid
      exact ⟨Session.state_markLive_of_pending hp, by rw [Session.registered_markLive, hr]⟩
  ordered := fun m => by
    unfold Ledger.unregister
    split_ifs
    · exact h.ordered m
    · by_cases hm : m = method
      · rw [hm, recorded_record_self, List.map_map,
          show Attempt.id ∘ Session.markLive = Attempt.id from funext Session.id_markLive]
        exact h.ordered method
      · rw [recorded_record_of_ne _ hm]
        exact h.ordered m

/-- What an answer leaves of an attempt is what the attempt may become. -/
theorem later_settle (h : l.Orderly) (hs : l.Sound) (hn : l.waiting n = some asked) {a b : Attempt}
    (ha : a ∈ l.recorded method) (hab : asked.settle accepted method a = some b) : a.Later b := by
  have hid := ClientRequest.keepsId_settle asked accepted method a b hab
  by_cases hc : asked.Concerns method a
  · rw [ClientRequest.settle_of_concerns hc] at hab
    obtain ⟨id, hida, hname⟩ := hc
    cases asked with
    | register rs =>
        -- the attempt waits for this answer, so it is neither registered nor rejected
        obtain ⟨r, rfl⟩ := hs.single n rs hn
        obtain ⟨rfl, rfl⟩ := ClientRequest.names_register_singleton.mp hname
        obtain ⟨hp, hr⟩ := h.opening n r hn a ha hida
        refine ⟨hid, fun hreg => ?_, fun hrej => ?_⟩
        · cases hr.symm.trans hreg
        · cases hp.symm.trans (Attempt.isRejected_eq_true_iff.mp hrej).1
    | unregister us =>
        simp only [ClientRequest.verdict] at hab
        split_ifs at hab with hacc hreg
        cases hab
        refine ⟨hid, fun _ => hreg, fun hrej => ?_⟩
        cases hreg.symm.trans (Attempt.isRejected_eq_true_iff.mp hrej).2
    | configuration items => exact hname.elim
  · rw [ClientRequest.settle_of_not_concerns hc] at hab
    cases hab
    exact .refl a

theorem answer (h : l.Orderly) (hs : l.Sound) (hn : l.waiting n = some asked) :
    (l.answer n accepted).Orderly := by
  rw [answer_of_waiting hn]
  constructor
  case opening =>
    intro k r hk b hb hid
    obtain ⟨hkn, hw⟩ := waiting_dismiss_eq_some hk
    obtain ⟨a, ha, hida, hab⟩ := exists_of_mem_settle hb hid
    obtain ⟨hp, hr⟩ := h.opening k r hw a ha hida
    by_cases hc : asked.Concerns r.method a
    · -- another request to register the attempt there is not, and none to unregister it spares it
      rw [ClientRequest.settle_of_concerns hc] at hab
      obtain ⟨id, hid', hname⟩ := hc
      cases asked with
      | register rs =>
          obtain ⟨r', rfl⟩ := hs.single n rs hn
          obtain ⟨-, rfl⟩ := ClientRequest.names_register_singleton.mp hname
          exact absurd (hs.once k n r r' hw hn (Option.some.inj (hida.symm.trans hid'))) hkn
      | unregister us =>
          simp only [ClientRequest.verdict] at hab
          split_ifs at hab with hacc hreg
          cases hr.symm.trans hreg
      | configuration items => exact hname.elim
    · rw [ClientRequest.settle_of_not_concerns hc] at hab
      cases hab
      exact ⟨hp, hr⟩
  case ordered =>
    exact fun m => (Attempts.ids_filterMap_sublist
      (ClientRequest.keepsId_settle asked accepted m) _).trans (h.ordered m)

end Orderly

namespace Later

theorem register (hi : Function.Injective l.supply) (method : String) (options : Option Json) :
    l.Later (l.register method options) where
  supply := rfl
  drawn := Nat.le_succ _
  recorded := fun m b hb id hid hdrawn => by
    rcases mem_recorded_register hb with hb | ⟨-, rfl⟩
    · exact ⟨b, hb, .refl b⟩
    · obtain ⟨k, hk, hsupply⟩ := hdrawn
      have hlast : k = l.drawn := hi (hsupply.trans (Option.some.inj hid).symm)
      exact absurd hlast hk.ne

theorem unregister (l : Ledger) (method : String) : l.Later (l.unregister method) where
  supply := (l.terms_after (.unregister method)).1
  drawn := by
    unfold Ledger.unregister
    split_ifs
    · exact le_rfl
    · exact le_rfl
  recorded := fun m b hb id _ _ => by
    obtain ⟨a, ha, rfl | rfl⟩ := mem_recorded_unregister hb
    · exact ⟨b, ha, .refl b⟩
    · exact ⟨a, ha, Session.later_markLive a⟩

theorem answer (h : l.Orderly) (hs : l.Sound) (hn : l.waiting n = some asked) :
    l.Later (l.answer n accepted) := by
  rw [answer_of_waiting hn]
  refine ⟨rfl, le_rfl, fun m b hb id _ _ => ?_⟩
  obtain ⟨a, ha, hab⟩ := mem_settle_iff.mp hb
  exact ⟨a, ha, h.later_settle hs hn ha hab⟩

end Later

theorem Orderly.taking (h : l.Orderly) (hs : l.Sound) (operation : Operation) :
    (l.taking operation).Orderly ∧ l.Later (l.taking operation) :=
  keeps_taking (P := fun l' => l'.Orderly ∧ l.Later l') ⟨h, .refl l⟩
    fun _ _ _ _ _ hw => ⟨h.answer hs hw, .answer h hs hw⟩

/-- The moves of operations keep a ledger orderly, and lead to later ones. -/
theorem Orderly.after (h : l.Orderly) (hs : l.Sound) (hi : Function.Injective l.supply)
    {move : Move} (hmove : ∀ asked accepted, move ≠ .settle asked accepted) :
    (l.after move).Orderly ∧ l.Later (l.after move) := by
  refine keeps_after (P := fun l' => l'.Orderly ∧ l.Later l') hmove ?_ ?_ ?_ ?_ ?_ ?_
  · exact ⟨h, .refl l⟩
  · exact ⟨h.draw, .of_recorded_eq rfl rfl (Nat.le_succ _)⟩
  · exact fun method options => ⟨h.register hs hi method options, .register hi method options⟩
  · exact fun method => ⟨h.unregister method, .unregister l method⟩
  · exact fun items => ⟨h.dispatch nofun, .of_recorded_eq rfl rfl le_rfl⟩
  · exact fun l' capabilities formatOnType hl => ⟨⟨hl.1.opening, hl.1.ordered⟩,
      hl.2.trans (.of_recorded_eq rfl rfl le_rfl)⟩

/-- An identifier belongs to one attempt. -/
theorem Sound.eq_of_id_eq (hs : l.Sound) {m m' : String} {a b : Attempt} (ha : a ∈ l.recorded m)
    (hb : b ∈ l.recorded m') (hid : a.id = b.id) : m = m' ∧ a = b := by
  obtain ⟨id, hida⟩ := hs.named m a ha
  obtain rfl := hs.home m m' id (.inl ⟨a, ha, hida⟩) (.inl ⟨b, hb, hid ▸ hida⟩)
  exact ⟨rfl, List.inj_on_of_nodup_map (hs.distinct m) ha hb hid⟩

/-- What bears the identifier of an attempt later on was on record with it. -/
theorem Later.exists_of_id_eq (h : l.Later l') (hs : l.Sound) {m m' : String} {a b : Attempt}
    (ha : a ∈ l.recorded m) (hb : b ∈ l'.recorded m') (hid : b.id = a.id) :
    ∃ c ∈ l.recorded m', c.Later b := by
  obtain ⟨id, hida⟩ := hs.named m a ha
  exact h.recorded m' b hb id (hid.trans hida) (hs.drawn m id (.inl ⟨a, ha, hida⟩))

end Ledger

/-! ### The attempts along a run -/

namespace Session
variable {s : Session} {operations : List Operation} {connection : Connection}
  {supply : Nat → RegistrationId} {config : Config}

theorem orderly_start (connection : Connection) (supply : Nat → RegistrationId) (config : Config) :
    (start connection supply config).ledger.Orderly where
  opening := nofun
  ordered := fun _ => List.nil_sublist _

/-- An operation that takes no answer in out of turn keeps the ledger orderly and leads to a later
one. -/
theorem later_perform (hs : s.ledger.Sound) (hi : Function.Injective s.supply)
    (h : s.ledger.Orderly) {operation : Operation} (hmediated : operation.IsMediated) :
    (s.perform operation).2.ledger.Sound ∧ (s.perform operation).2.supply = s.supply ∧
      (s.perform operation).2.ledger.Orderly ∧
      s.ledger.Later (s.perform operation).2.ledger := by
  refine perform_keeps (P := fun l => l.Orderly ∧ s.ledger.Later l) hs hi
    (h.taking hs operation) ?_
  rintro l move hmakes hl hli ⟨ho, hlater⟩
  obtain ⟨ho', hlater'⟩ := ho.after hl hli (hmakes.ne_settle hmediated)
  exact ⟨ho', hlater.trans hlater'⟩

theorem later_run (hs : s.ledger.Sound) (hi : Function.Injective s.supply) (h : s.ledger.Orderly)
    (hmediated : ∀ operation ∈ operations, operation.IsMediated) :
    (s.run operations).ledger.Sound ∧ (s.run operations).supply = s.supply ∧
      (s.run operations).ledger.Orderly ∧ s.ledger.Later (s.run operations).ledger := by
  induction operations generalizing s with
  | nil => exact ⟨hs, rfl, h, .refl _⟩
  | cons operation rest ih =>
      rw [List.forall_mem_cons] at hmediated
      obtain ⟨hs', hsupply, h', hlater⟩ := later_perform hs hi h hmediated.1
      obtain ⟨hs'', hsupply', h'', hlater'⟩ := ih hs' (hsupply ▸ hi) h' hmediated.2
      exact ⟨hs'', hsupply'.trans hsupply, h'', hlater.trans hlater'⟩

theorem orderly_run (connection : Connection) (config : Config) (hi : Function.Injective supply)
    (hmediated : ∀ operation ∈ operations, operation.IsMediated) :
    ((start connection supply config).run operations).ledger.Sound ∧
      ((start connection supply config).run operations).supply = supply ∧
      ((start connection supply config).run operations).ledger.Orderly := by
  obtain ⟨hs, hsupply, ho, -⟩ := later_run (sound_start connection supply config) hi
    (orderly_start connection supply config) hmediated
  exact ⟨hs, hsupply, ho⟩

theorem later_run_append (hi : Function.Injective supply) {first second : List Operation}
    (hmediated : ∀ operation ∈ first ++ second, operation.IsMediated) :
    ((start connection supply config).run first).ledger.Later
      ((start connection supply config).run (first ++ second)).ledger := by
  rw [List.forall_mem_append] at hmediated
  obtain ⟨hs, hsupply, ho⟩ := orderly_run connection config hi hmediated.1
  obtain ⟨-, -, -, hlater⟩ := later_run hs (hsupply.symm ▸ hi) ho hmediated.2
  rwa [← run_append] at hlater

/-- Asking for a registration draws the next identifier. -/
theorem drawn_registerCapability (hs : s.ledger.Sound) (hi : Function.Injective s.supply)
    (method : String) (options : Option Json) :
    (s.registerCapability method options).2.drawn = s.drawn + 1 ∧
      ∀ id, (s.registerCapability method options).1 = .ok id → id = s.supply s.drawn := by
  rcases registerCapability_cases hs hi method options with
    ⟨s', hreg, hl⟩ | ⟨e, s', hreg, hl, -⟩
  · rw [hreg]
    exact ⟨congrArg Ledger.drawn hl, fun id he => (Except.ok.inj he).symm⟩
  · rw [hreg]
    exact ⟨congrArg Ledger.drawn hl, nofun⟩

/-- Where answers are only handed over as responses, every attempt on record bears an identifier of
its own, and the attempts of a method stand in the order in which the calls that register drew their
identifiers.  Between two states of a run, an attempt that is registered stays registered, one that
is rejected stays rejected, and one that is gone does not return. -/
theorem attempts_follow_life_cycle (hi : Function.Injective supply)
    (first second : List Operation)
    (hmediated : ∀ operation ∈ first ++ second, operation.IsMediated) :
    let origin := start connection supply config
    let s := origin.run first
    let s' := origin.run (first ++ second)
    (∀ m, ∀ a ∈ s.registry.recorded m, ∃ id, a.id = some id) ∧
    (∀ m, ((s.registry.recorded m).map Attempt.id).Nodup) ∧
    (∀ m m', ∀ a ∈ s.registry.recorded m, ∀ b ∈ s.registry.recorded m', a.id = b.id → m = m') ∧
    (∀ m, ((s.registry.recorded m).map Attempt.id).Sublist
      ((List.range s.drawn).map fun k => some (supply k))) ∧
    (∀ m options, (s.registerCapability m options).2.drawn = s.drawn + 1 ∧
      ∀ id, (s.registerCapability m options).1 = .ok id → id = supply s.drawn) ∧
    s.drawn ≤ s'.drawn ∧
    (∀ m m', ∀ a ∈ s.registry.recorded m, ∀ b ∈ s'.registry.recorded m', b.id = a.id →
      m' = m ∧ (a.registered = true → b.registered = true) ∧
      (a.isRejected = true → b.isPending = false ∧ b.registered = false)) ∧
    (∀ prior, prior <+: first → ∀ m, ∀ a ∈ (origin.run prior).registry.recorded m,
      (∀ b ∈ s.registry.recorded m, b.id ≠ a.id) →
      ∀ m', ∀ b ∈ s'.registry.recorded m', b.id ≠ a.id) := by
  intro origin s s'
  have hmediated₁ := (List.forall_mem_append.mp hmediated).1
  obtain ⟨hs, hsupply, ho⟩ := orderly_run connection config hi hmediated₁
  have hlater : s.ledger.Later s'.ledger := later_run_append hi hmediated
  refine ⟨hs.named, hs.distinct, fun m m' a ha b hb hid => (hs.eq_of_id_eq ha hb hid).1, ?_, ?_,
    hlater.drawn, ?_, ?_⟩
  · intro m
    rw [← hsupply]
    exact ho.ordered m
  · rw [← hsupply]
    exact drawn_registerCapability hs (hsupply ▸ hi)
  · intro m m' a ha b hb hid
    obtain ⟨c, hc, hcb⟩ := hlater.exists_of_id_eq hs ha hb hid
    obtain ⟨rfl, rfl⟩ := hs.eq_of_id_eq ha hc (hid.symm.trans hcb.id)
    refine ⟨rfl, hcb.registered, fun hrej => ?_⟩
    obtain ⟨hstate, hreg⟩ := Attempt.isRejected_eq_true_iff.mp (hcb.rejected hrej)
    exact ⟨by simp [Attempt.isPending, hstate], hreg⟩
  · rintro prior ⟨between, rfl⟩ m a ha hgone m' b hb hid
    have hmediated₀ := (List.forall_mem_append.mp hmediated₁).1
    obtain ⟨hs₀, -, -⟩ := orderly_run connection config hi hmediated₀
    have hlater₀ : (origin.run prior).ledger.Later s.ledger := later_run_append hi hmediated₁
    -- the attempt would have been on record all the time, under the one method that it belongs to
    obtain ⟨c₀, hc₀, hcb₀⟩ := (hlater₀.trans hlater).exists_of_id_eq hs₀ ha hb hid
    obtain ⟨rfl, rfl⟩ := hs₀.eq_of_id_eq ha hc₀ (hid.symm.trans hcb₀.id)
    obtain ⟨id, hida⟩ := hs₀.named m a ha
    have hdrawn := hlater₀.drawn_of_drawn (hs₀.drawn m id (.inl ⟨a, ha, hida⟩))
    obtain ⟨c, hc, hcb⟩ := hlater.recorded m b hb id (hid.trans hida) hdrawn
    exact hgone c hc (hcb.id.symm.trans hid)

/-- Two attempts to register a method of which the client accepts the first. -/
def halfAccepted : List Operation :=
  [.register "a/b" none, .register "a/b" none, .handle (.success 1 .null),
    .handle (.failure 2 0 "")]

/-- The accepted attempt is unregistered and does not return; the refused one stays refused. -/
theorem attempts_follow_life_cycle_of_halfAccepted :
    let s := (start .accepting .ofLength .default).run (halfAccepted ++
      [.unregister "a/b", .handle (.success 3 .null)] ++ [.register "a/b" none])
    ∀ m, ∀ b ∈ s.registry.recorded m, b.id ≠ some (.ofLength 0) ∧
      (b.id = some (.ofLength 1) → b.isPending = false ∧ b.registered = false) := by
  intro s m b hb
  obtain ⟨-, -, -, -, -, -, hlater, hgone⟩ := @attempts_follow_life_cycle .accepting .ofLength
    .default RegistrationId.ofLength_injective
    (halfAccepted ++ [.unregister "a/b", .handle (.success 3 .null)]) [.register "a/b" none]
    (by simp [halfAccepted, Operation.IsMediated])
  constructor
  · exact hgone halfAccepted (List.prefix_append ..) "a/b" ⟨some (.ofLength 0), true, .complete⟩
      (by decide) (by decide) m b hb
  · intro hid
    exact (hlater "a/b" m ⟨some (.ofLength 1), false, .complete⟩ (by decide) b hb hid).2.2 rfl

end Session

end EditorSession
