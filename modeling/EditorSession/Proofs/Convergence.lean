import EditorSession.Proofs.Runs

/-! # The registration of formatting follows the settings

Turning the switch on registers formatting while typing, turning it off unregisters every attempt
that the client has not refused.  The switch may be turned while requests wait for their answers, so
several attempts may be under way.  `Ledger.Follows` says that all of them, except the newest while
the switch is on, are spent: rejected, or named by a request to unregister.  Hence, where no request
about the method waits, the newest attempt decides and the others are rejected
(`Session.registration_follows`). -/

namespace EditorSession

namespace Ledger

/-- A request to unregister the attempt waits for its answer. -/
def Revoked (l : Ledger) (method : String) (a : Attempt) : Prop :=
  l.Awaits fun _ asked => (∃ entries, asked = .unregister entries) ∧ asked.Concerns method a

/-- The attempt is rejected, or to be unregistered. -/
def Spent (l : Ledger) (method : String) (a : Attempt) : Prop :=
  a.isRejected = true ∨ l.Revoked method a

/-- The attempts to register formatting follow the switch. -/
structure Follows (l : Ledger) : Prop where
  /-- An attempt is pending until the answer to its registration. -/
  pending : ∀ n r, l.waiting n = some (.register [r]) → r.method = Method.onTypeFormatting →
    ∀ a ∈ l.recorded r.method, a.id = some r.id → a.state = .pending
  on : l.formatOnType = true → ∃ older newest,
    l.recorded Method.onTypeFormatting = older ++ [newest] ∧
      (∀ a ∈ older, l.Spent Method.onTypeFormatting a) ∧
      ¬ l.Revoked Method.onTypeFormatting newest
  off : l.formatOnType = false →
    ∀ a ∈ l.recorded Method.onTypeFormatting, l.Spent Method.onTypeFormatting a

section views
variable {l : Ledger} {asked : ClientRequest} {method : String} {a b : Attempt} {n : Int}

theorem revoked_congr (h : a.id = b.id) : l.Revoked method a ↔ l.Revoked method b := by
  unfold Revoked
  simp only [ClientRequest.concerns_congr h]

theorem revoked_dispatch (hs : l.Sound) : (l.dispatch asked).Revoked method a ↔
    l.Revoked method a ∨ (∃ entries, asked = .unregister entries) ∧ asked.Concerns method a :=
  awaits_dispatch hs.waiting_nextRequestId

theorem revoked_dispatch_of_not_names (hs : l.Sound) (h : ∀ id, ¬ asked.Names method id) :
    (l.dispatch asked).Revoked method a ↔ l.Revoked method a := by
  rw [revoked_dispatch hs, or_iff_left]
  rintro ⟨-, id, -, hn⟩
  exact h id hn

theorem revoked_iff_of_waiting (hn : l.waiting n = some asked) : l.Revoked method a ↔
    (l.dismiss n).Revoked method a ∨
      (∃ entries, asked = .unregister entries) ∧ asked.Concerns method a :=
  awaits_iff_of_waiting hn

end views

namespace Follows
variable {l : Ledger} {asked : ClientRequest} {method : String} {n : Int} {accepted : Bool}

/-! ### Requests about other methods -/

/-- A request that is not about the method leaves everything about it as it is. -/
theorem dispatch (h : l.Follows) (hs : l.Sound)
    (hother : ∀ id, ¬ asked.Names Method.onTypeFormatting id) : (l.dispatch asked).Follows where
  pending := fun n r hn hr => by
    rcases waiting_dispatch_eq_some hn with ⟨-, he⟩ | ⟨-, hw⟩
    · subst he
      exact absurd (ClientRequest.names_register_singleton.mpr ⟨hr, rfl⟩) (hother r.id)
    · exact h.pending n r hw hr
  on := by
    simp only [Spent, revoked_dispatch_of_not_names hs hother]
    exact h.on
  off := by
    simp only [Spent, revoked_dispatch_of_not_names hs hother]
    exact h.off

theorem record_of_ne (h : l.Follows) (hm : method ≠ Method.onTypeFormatting)
    (attempts : List Attempt) : (l.record method attempts).Follows where
  pending := fun n r hn hr => by
    rw [recorded_record_of_ne l (hr.trans_ne hm.symm)]
    exact h.pending n r hn hr
  on := by
    rw [recorded_record_of_ne l hm.symm]
    exact h.on
  off := by
    rw [recorded_record_of_ne l hm.symm]
    exact h.off

theorem register_of_ne (h : l.Follows) (hs : l.Sound) (hm : method ≠ Method.onTypeFormatting)
    (options : Option Json) : (l.register method options).Follows := by
  have hdraw : l.draw.Follows := ⟨h.pending, h.on, h.off⟩
  refine (hdraw.dispatch hs.draw ?_).record_of_ne hm _
  intro id hname
  exact hm (ClientRequest.names_register_singleton.mp hname).1

theorem unregister_of_ne (h : l.Follows) (hs : l.Sound) (hm : method ≠ Method.onTypeFormatting) :
    (l.unregister method).Follows := by
  unfold Ledger.unregister
  split_ifs
  · exact h
  · refine (h.dispatch hs fun id hn => ?_).record_of_ne hm _
    exact hm (names_unregister_live.mp hn).1.symm

/-! ### Turning the switch -/

theorem turn_on (h : l.Follows) (hs : l.Sound) (hi : Function.Injective l.supply)
    (hf : l.formatOnType = false) (options : Option Json) :
    (l.register Method.onTypeFormatting options).flip.Follows := by
  have hfree := hs.not_mentions_fresh hi Method.onTypeFormatting
  have hrec : (l.register Method.onTypeFormatting options).recorded Method.onTypeFormatting =
      l.recorded Method.onTypeFormatting ++ [.start l.fresh] := recorded_record_self ..
  have hrevoked : ∀ a, (l.register Method.onTypeFormatting options).Revoked
      Method.onTypeFormatting a ↔ l.Revoked Method.onTypeFormatting a := by
    intro a
    refine (revoked_dispatch hs.draw).trans (or_iff_left ?_)
    rintro ⟨⟨us, hus⟩, -⟩
    cases hus
  constructor
  case pending =>
    intro n r hn hr a ha hid
    rw [hr] at ha
    rcases List.mem_append.mp (hrec ▸ ha) with ha | ha
    · rcases waiting_dispatch_eq_some hn with ⟨-, he⟩ | ⟨-, hw⟩
      · cases he
        exact absurd (.inl ⟨a, ha, hid⟩) hfree
      · exact h.pending n r hw hr a (hr ▸ ha) hid
    · cases List.mem_singleton.mp ha
      rfl
  case on =>
    intro _
    refine ⟨l.recorded Method.onTypeFormatting, .start l.fresh, hrec, fun a ha => ?_, ?_⟩
    · exact (h.off hf a ha).imp_right (hrevoked a).mpr
    · intro hr
      obtain ⟨n, asked, hn, -, id, hid, hname⟩ := (hrevoked _).mp hr
      cases hid
      exact hfree (.inr ⟨n, asked, hn, hname⟩)
  case off =>
    intro hon
    rw [show (l.register Method.onTypeFormatting options).flip.formatOnType = !l.formatOnType from
      rfl, hf] at hon
    cases hon

/-- After a request to unregister every attempt is spent. -/
theorem spent_unregister (hs : l.Sound) :
    ∀ a ∈ (l.unregister method).recorded method, (l.unregister method).Spent method a := by
  have hlive : ∀ a ∈ l.recorded method, a.isRejected = true ∨
      ∃ id ∈ l.live method, a.id = some id := by
    intro a ha
    obtain ⟨id, hid⟩ := hs.named method a ha
    cases hr : a.isRejected with
    | true => exact .inl rfl
    | false => exact .inr ⟨id, mem_live_iff.mpr ⟨a, ha, hid, hr⟩, hid⟩
  unfold Ledger.unregister
  split_ifs with hnil
  · intro a ha
    rcases hlive a ha with hr | ⟨id, hmem, -⟩
    · exact .inl hr
    · rw [hnil] at hmem
      cases hmem
  · intro b hb
    rw [recorded_record_self] at hb
    obtain ⟨a, ha, rfl⟩ := List.mem_map.mp hb
    rcases hlive a ha with hr | ⟨id, hmem, hid⟩
    · rw [Session.markLive_of_isRejected hr]
      exact .inl hr
    · refine .inr ((revoked_dispatch hs).mpr (.inr ⟨⟨_, rfl⟩, id, ?_, ?_⟩))
      · rw [Session.id_markLive, hid]
      · exact names_unregister_live.mpr ⟨rfl, hmem⟩

theorem turn_off (h : l.Follows) (hs : l.Sound) (hf : l.formatOnType = true) :
    (l.unregister Method.onTypeFormatting).flip.Follows where
  pending := fun n r hn hr b hb hid => by
    have hwait : l.waiting n = some (.register [r]) := by
      rcases waiting_unregister hn with hw | ⟨us, he⟩
      · exact hw
      · cases he
    obtain ⟨a, ha, hab⟩ := mem_recorded_unregister hb
    have hpending : a.state = .pending := by
      refine h.pending n r hwait hr a ha ?_
      rcases hab with rfl | rfl
      · exact hid
      · rw [← hid, Session.id_markLive]
    rcases hab with rfl | rfl
    · exact hpending
    · exact Session.state_markLive_of_pending hpending
  on := fun hon => by
    rw [show (l.unregister Method.onTypeFormatting).flip.formatOnType =
      !(l.unregister Method.onTypeFormatting).formatOnType from rfl, formatOnType_unregister,
      hf] at hon
    cases hon
  off := fun _ => spent_unregister hs

theorem toggle (h : l.Follows) (hs : l.Sound) (hi : Function.Injective l.supply) :
    l.toggle.Follows := by
  unfold Ledger.toggle
  split_ifs with hf
  · exact h.turn_off hs hf
  · exact h.turn_on hs hi (by simpa using hf) _

/-! ### Answers -/

/-- An attempt that is not to be unregistered survives every answer. -/
theorem settle_of_not_revoked {a : Attempt} (hn : l.waiting n = some asked)
    (ha : ¬ l.Revoked method a) : ∃ b, asked.settle accepted method a = some b := by
  by_cases hc : asked.Concerns method a
  · cases asked with
    | register rs => exact ⟨_, ClientRequest.settle_of_concerns hc⟩
    | unregister us => exact absurd ⟨n, _, hn, ⟨us, rfl⟩, hc⟩ ha
    | configuration items => exact ⟨a, by rw [ClientRequest.settle_of_concerns hc]; rfl⟩
  · exact ⟨a, ClientRequest.settle_of_not_concerns hc⟩

/-- What an answer leaves on record it leaves unchanged, unless it settles a registration. -/
theorem settle_cases (hs : l.Sound) (hn : l.waiting n = some asked)
    (hremoved : ∀ entries, asked = .unregister entries → accepted = true) {a b : Attempt}
    (hab : asked.settle accepted method a = some b) :
    (b = a ∧ ¬ asked.Concerns method a) ∨
      ∃ r, asked = .register [r] ∧ r.method = method ∧ a.id = some r.id := by
  by_cases hc : asked.Concerns method a
  · cases asked with
    | register rs =>
        obtain ⟨r, rfl⟩ := hs.single n rs hn
        obtain ⟨id, hid, hname⟩ := hc
        obtain ⟨hm, rfl⟩ := ClientRequest.names_register_singleton.mp hname
        exact .inr ⟨r, rfl, hm, hid⟩
    | unregister us =>
        rw [ClientRequest.settle_of_concerns hc, hremoved us rfl] at hab
        cases hab
    | configuration items =>
        obtain ⟨id, -, hname⟩ := hc
        exact hname.elim
  · rw [ClientRequest.settle_of_not_concerns hc] at hab
    exact .inl ⟨(Option.some.inj hab).symm, hc⟩

/-- An attempt that is spent stays so, if it stays on record. -/
theorem spent_answer (h : l.Follows) (hs : l.Sound) (hn : l.waiting n = some asked)
    (hremoved : ∀ entries, asked = .unregister entries → accepted = true) {a b : Attempt}
    (ha : a ∈ l.recorded Method.onTypeFormatting)
    (hab : asked.settle accepted Method.onTypeFormatting a = some b)
    (hspent : l.Spent Method.onTypeFormatting a) :
    (l.dismiss n).Spent Method.onTypeFormatting b := by
  rcases settle_cases hs hn hremoved hab with ⟨rfl, hc⟩ | ⟨r, rfl, hm, hid⟩
  · refine hspent.imp_right fun hrev => ?_
    exact ((revoked_iff_of_waiting hn).mp hrev).resolve_right fun h => hc h.2
  · -- the attempt is pending, so it is not rejected but to be unregistered
    have hp : a.state = .pending := h.pending n r hn hm a (hm ▸ ha) hid
    have hrev : l.Revoked Method.onTypeFormatting a := by
      refine hspent.resolve_left fun hrej => ?_
      rw [Attempt.isRejected_eq_true_iff, hp] at hrej
      cases hrej.1
    have hsame : b.id = a.id := ClientRequest.keepsId_settle _ _ _ a b hab
    refine .inr ((revoked_congr hsame).mpr ?_)
    refine ((revoked_iff_of_waiting hn).mp hrev).resolve_right ?_
    rintro ⟨⟨us, he⟩, -⟩
    cases he

theorem answer (h : l.Follows) (hs : l.Sound) (hn : l.waiting n = some asked)
    (hremoved : ∀ entries, asked = .unregister entries → accepted = true) :
    (l.answer n accepted).Follows := by
  rw [answer_of_waiting hn]
  constructor
  case pending =>
    intro k r hk hr b hb hid
    obtain ⟨hkn, hw⟩ := waiting_dismiss_eq_some hk
    obtain ⟨a, ha, hab⟩ := mem_settle_iff.mp hb
    rcases settle_cases hs hn hremoved hab with ⟨rfl, -⟩ | ⟨r', rfl, -, hid'⟩
    · exact h.pending k r hw hr b ha hid
    · have hsame : b.id = a.id := ClientRequest.keepsId_settle _ _ _ a b hab
      have hrr : r.id = r'.id := Option.some.inj (hid.symm.trans (hsame.trans hid'))
      exact absurd (hs.once k n r r' hw hn hrr) hkn
  case on =>
    intro hon
    obtain ⟨older, newest, hrec, holder, hnewest⟩ := h.on hon
    obtain ⟨last, hlast⟩ : ∃ b, asked.settle accepted Method.onTypeFormatting newest = some b :=
      settle_of_not_revoked hn hnewest
    refine ⟨older.filterMap (asked.settle accepted Method.onTypeFormatting), last, ?_, ?_, ?_⟩
    · show (l.recorded Method.onTypeFormatting).filterMap _ = _
      rw [hrec, List.filterMap_append, List.filterMap_cons_some hlast, List.filterMap_nil]
    · intro b hb
      obtain ⟨a, ha, hab⟩ := List.mem_filterMap.mp hb
      have hmem : a ∈ l.recorded Method.onTypeFormatting := hrec ▸ List.mem_append_left _ ha
      exact h.spent_answer hs hn hremoved hmem hab (holder a ha)
    · intro hrev
      have hsame : last.id = newest.id := ClientRequest.keepsId_settle _ _ _ newest last hlast
      exact hnewest (awaits_of_awaits_dismiss ((revoked_congr hsame).mp hrev))
  case off =>
    intro hoff b hb
    obtain ⟨a, ha, hab⟩ := mem_settle_iff.mp hb
    exact h.spent_answer hs hn hremoved ha hab (h.off hoff a ha)

end Follows

end Ledger

/-! ### Runs that follow the settings -/

namespace Session

/-- The client lets formatting while typing be registered. -/
def SupportsFormatting (s : Session) : Prop :=
  s.capabilities.supportsDynamicRegistration Method.onTypeFormatting = true

/-- Formatting while typing is only registered and unregistered as the settings say, which the
client supports where settings arrive.  Answers are only handed over as responses, and every request
to unregister is answered with a result. -/
def Reconciling (s : Session) : Operation → Prop
  | .register method _ | .unregister method => method ≠ Method.onTypeFormatting
  | .onRegister _ _ | .onUnregister _ _ => False
  | .change settings => settings ≠ .null → s.SupportsFormatting
  | .apply _ | .onConfiguration _ => s.SupportsFormatting
  | .handle response =>
    ∀ n, response.id = some n →
      (∀ items, s.outstandingRequest n = some (.configuration items) → s.SupportsFormatting) ∧
      (∀ entries, s.outstandingRequest n = some (.unregister entries) → response.hasResult = true)
  | _ => True

section runs
variable {connection : Connection} {supply : Nat → RegistrationId} {config : Config} {s : Session}

theorem follows_start (h : config.formatOnType = false) :
    (start connection supply config).ledger.Follows where
  pending := fun _ _ hn => nomatch hn
  on := fun hon => by
    rw [show (start connection supply config).ledger.formatOnType = config.formatOnType from rfl,
      h] at hon
    cases hon
  off := fun _ _ ha => nomatch ha

theorem follows_taking {operation : Operation} (hallowed : s.Reconciling operation)
    (hs : s.ledger.Sound) (h : s.ledger.Follows) : (s.ledger.taking operation).Follows := by
  rcases s.ledger.taking_cases operation with htake | ⟨response, n, asked, rfl, hid, hn, htake⟩
  · rw [htake]
    exact h
  · rw [htake]
    refine h.answer hs hn ?_
    rintro entries rfl
    exact (hallowed n hid).2 entries hn

/-- Where settings arrive the client supports the registration. -/
theorem supportsFormatting_of_bringsSettings {operation : Operation}
    (hallowed : s.Reconciling operation) (h : s.ledger.BringsSettings operation) :
    s.SupportsFormatting := by
  cases operation with
  | change settings => exact hallowed h
  | apply settings => exact hallowed
  | onConfiguration response => exact hallowed
  | handle response =>
      obtain ⟨n, items, hid, hn⟩ := h
      exact (hallowed n hid).1 items hn
  | _ => cases h

theorem not_refuses {l : Ledger} (h : ∀ index, l.refusal index = none) : ¬ l.Refuses := by
  rintro ⟨index, cause, hc⟩
  rw [h index] at hc
  cases hc

theorem follows_after {operation : Operation} (hallowed : s.Reconciling operation)
    (haccepting : ¬ s.ledger.Refuses) {l : Ledger} {move : Ledger.Move}
    (hmove : s.ledger.Makes operation move) (hs : l.Sound) (hi : Function.Injective l.supply)
    (h : l.Follows) : (l.after move).Follows := by
  cases hmove with
  | declare capabilities => exact ⟨h.pending, h.on, h.off⟩
  | initialised => exact h.register_of_ne hs (by decide) _
  | register method options => exact h.register_of_ne hs hallowed options
  | draw _ hr => exact absurd hr haccepting
  | unregister method => exact h.unregister_of_ne hs hallowed
  | pull => exact h.dispatch hs fun id => not_false
  | onRegister => exact hallowed.elim
  | onUnregister => exact hallowed.elim
  | settings hb hf =>
      have hsupports := supportsFormatting_of_bringsSettings hallowed hb
      cases move with
      | toggle => exact h.toggle hs hi
      | flip => exact (hf.elim (absurd hsupports) haccepting).elim
      | draw => exact absurd hf haccepting
      | _ => exact hf.elim

/-- The registration of formatting while typing converges to the settings: wherever no request
about it is outstanding, the newest attempt is answered and every other one is rejected while the
switch is on, and all of them are rejected while it is off. -/
theorem registration_follows (hi : Function.Injective supply) (hoff : config.formatOnType = false)
    (haccepting : ∀ index, connection.refusal index = none)
    (h : Arises Reconciling (start connection supply config) s)
    (hquiet : ∀ n asked, s.outstandingRequest n = some asked →
      ∀ id, ¬ asked.Names Method.onTypeFormatting id) :
    (s.formatOnType = true → ∃ older newest,
      s.attemptsFor Method.onTypeFormatting = older ++ [newest] ∧ newest.id ≠ none ∧
        newest.state = .complete ∧ ∀ a ∈ older, a.isRejected = true) ∧
    (s.formatOnType = false →
      ∀ a ∈ s.attemptsFor Method.onTypeFormatting, a.isRejected = true) := by
  obtain ⟨hs, -, -, hfollows⟩ := h.keeps hi
    (P := fun l => (∀ index, l.refusal index = none) ∧ l.Follows)
    ⟨haccepting, follows_start hoff⟩
    (fun s operation hallowed hs hP => by
      refine ⟨?_, follows_taking hallowed hs hP.2⟩
      rw [(s.ledger.terms_taking operation).2]
      exact hP.1)
    (fun s operation hallowed hstart l move hmove hl hli hP => by
      refine ⟨?_, follows_after hallowed (not_refuses hstart.1) hmove hl hli hP.2⟩
      rw [(l.terms_after move).2]
      exact hP.1)
  have hnone : ∀ a, ¬ s.ledger.Revoked Method.onTypeFormatting a := by
    rintro a ⟨n, asked, hn, -, id, -, hname⟩
    exact hquiet n asked hn id hname
  have hrejected : ∀ a, s.ledger.Spent Method.onTypeFormatting a → a.isRejected = true :=
    fun a h => h.resolve_right (hnone a)
  constructor
  · intro hon
    obtain ⟨older, newest, hrec, holder, -⟩ := hfollows.on hon
    have hmem : newest ∈ s.ledger.recorded Method.onTypeFormatting := by
      rw [hrec]
      exact List.mem_append_right _ (List.mem_singleton_self newest)
    have hshown : s.attemptsFor Method.onTypeFormatting = older ++ [newest] := by
      rw [attemptsFor, Registry.attemptsFor_of_recorded_ne_nil (List.ne_nil_of_mem hmem)]
      exact hrec
    refine ⟨older, newest, hshown, ?_, ?_, fun a ha => hrejected a (holder a ha)⟩
    · obtain ⟨id, hid⟩ := hs.named _ newest hmem
      rw [hid]
      exact Option.some_ne_none id
    · cases hstate : newest.state with
      | complete => rfl
      | pending =>
          obtain ⟨n, asked, hn, id, -, hname⟩ := hs.attended _ newest hmem hstate
          exact (hquiet n asked hn id hname).elim
  · intro hoff a ha
    rcases mem_attemptsFor ha with ha | rfl
    · exact hrejected a (hfollows.off hoff a ha)
    · rfl

end runs

/-- The tree with one leaf, at the end of a path. -/
def leafAt (path : List String) (leaf : Json) : Json :=
  path.foldr (fun key tree => .object [(key, tree)]) leaf

/-- The switch is turned on, off and on again before the client answers. -/
def toggled : List Operation :=
  [.declare (leafAt (Capabilities.registrationPath Method.onTypeFormatting) (.boolean true)),
    .apply (leafAt ("puppet" :: formatOnTypeKeys) (.boolean true)),
    .apply (leafAt ("puppet" :: formatOnTypeKeys) (.boolean false)),
    .apply (leafAt ("puppet" :: formatOnTypeKeys) (.boolean true))]

/-- The client refuses the second registration, answers the unregistration of the first, and only
then the first registration. -/
theorem registration_follows_of_toggled :
    let s := ((start .accepting .ofLength .default).run toggled).run
      [.handle (.failure 3 0 ""), .handle (.success 2 .null), .handle (.success 1 .null)]
    (s.formatOnType = true ∧ s.attemptsFor Method.onTypeFormatting =
        [⟨some (.ofLength 1), false, .complete⟩]) ∧
    ∃ older newest, s.attemptsFor Method.onTypeFormatting = older ++ [newest] ∧ newest.id ≠ none ∧
      newest.state = .complete ∧ ∀ a ∈ older, a.isRejected = true := by
  intro s
  have htoggled : Arises Reconciling (start .accepting .ofLength .default)
      ((start .accepting .ofLength .default).run toggled) :=
    (((Arises.start.step _ trivial).step _ rfl).step _ rfl).step _ rfl
  have hanswered : Arises Reconciling (start .accepting .ofLength .default) s := by
    refine ((htoggled.step (.handle (.failure 3 0 "")) ?_).step (.handle (.success 2 .null))
      ?_).step (.handle (.success 1 .null)) ?_
    · intro n hid
      cases hid
      exact ⟨fun _ h => (nomatch h), fun _ h => nomatch h⟩
    · intro n hid
      cases hid
      exact ⟨fun _ h => (nomatch h), fun _ _ => rfl⟩
    · intro n hid
      cases hid
      exact ⟨fun _ h => (nomatch h), fun _ _ => rfl⟩
  refine ⟨by decide, (registration_follows RegistrationId.ofLength_injective rfl (fun _ => rfl)
    hanswered ?_).1 rfl⟩
  intro n asked h
  cases h

end Session

end EditorSession
