import EditorSession.Proofs.Agreement
import EditorSession.Proofs.Correspondence
import EditorSession.Proofs.Posted

/-! # Grounds for registered attempts

A client may take requests in any order, and its answers may arrive in any order.  Then its set and
the registered attempts need not be the same, but every registered attempt has its grounds:
`Ledger.Grounded` says that the client accepts its registration, and that an accepted request to
unregister it can only be one whose answer is still to come.  Where no answer is to come, the client
therefore holds every registered attempt, whatever the order in which it took the requests
(`Session.held_of_registered`). -/

namespace EditorSession

/-! ### Orders in which the client takes requests -/

/-- The request registers or unregisters capabilities. -/
def Request.IsRegistration (request : Request) : Prop :=
  request.method = Method.registerCapability ∨ request.method = Method.unregisterCapability

instance (request : Request) : Decidable request.IsRegistration :=
  inferInstanceAs (Decidable (_ ∨ _))

theorem ClientRequest.isRegistration_of_adds {asked : ClientRequest} {id : RegistrationId}
    (h : asked.Adds id) (n : Int) : (asked.toRequest n).IsRegistration := by
  obtain ⟨registrations, rfl, -⟩ := h
  exact .inl rfl

/-- What the client accepts to register and not to unregister, it holds in the end, whatever the
order of the requests. -/
theorem Client.mem_held_of_adds {verdict : Int → Bool} {id : RegistrationId}
    {requests : List Request}
    (hencoded : ∀ request ∈ requests, ∃ asked n, request = ClientRequest.toRequest asked n)
    (hadded : ∃ asked n, ClientRequest.toRequest asked n ∈ requests ∧ verdict n = true ∧
      asked.Adds id)
    (hkept : ∀ asked n, ClientRequest.toRequest asked n ∈ requests → verdict n = true →
      ¬ asked.Removes id) : id ∈ held verdict requests := by
  induction requests using List.reverseRecOn with
  | nil =>
      obtain ⟨_, _, hmem, -⟩ := hadded
      nomatch hmem
  | append_singleton requests request ih =>
      obtain ⟨last, k, rfl⟩ := hencoded request (by simp)
      rw [mem_held_append_iff]
      refine ⟨?_, fun hlast => hkept last k (by simp) hlast.1 hlast.2⟩
      obtain ⟨asked, n, hmem, hverdict, hadds⟩ := hadded
      rcases List.mem_append.mp hmem with hmem | hmem
      · refine .inl (ih (fun request h => hencoded request (List.mem_append_left _ h))
          ⟨asked, n, hmem, hverdict, hadds⟩ ?_)
        exact fun other j h => hkept other j (List.mem_append_left _ h)
      · obtain ⟨rfl, rfl⟩ := ClientRequest.toRequest_inj.mp (List.mem_singleton.mp hmem)
        exact .inr ⟨hverdict, hadds⟩

namespace Ledger

/-! ### Grounds -/

/-- The client accepts the registration of every registered attempt, and what it accepts to
unregister is on record only until its answer. -/
structure Grounded (verdict : Int → Bool) (l : Ledger) : Prop extends l.Posted where
  granted : ∀ m, ∀ a ∈ l.recorded m, a.registered = true →
    ∃ id, a.id = some id ∧ ∃ asked n, ClientRequest.toRequest asked n ∈ l.sent ∧
      verdict n = true ∧ asked.Adds id
  standing : ∀ m, ∀ a ∈ l.recorded m, ∀ id, a.id = some id →
    ∀ asked n, ClientRequest.toRequest asked n ∈ l.sent → verdict n = true → asked.Removes id →
      l.waiting n = some asked

namespace Grounded
variable {l : Ledger} {verdict : Int → Bool} {asked : ClientRequest} {method : String} {n : Int}

theorem draw (h : l.Grounded verdict) : l.draw.Grounded verdict where
  toPosted := h.toPosted.draw
  granted := h.granted
  standing := h.standing

theorem dispatch (h : l.Grounded verdict) (hs : l.Sound)
    (hdrawn : ∀ m id, asked.Names m id → l.Drawn id) : (l.dispatch asked).Grounded verdict where
  toPosted := h.toPosted.dispatch hdrawn
  granted := fun m a ha hreg => by
    obtain ⟨id, hid, other, k, hmem, hv, hadds⟩ := h.granted m a ha hreg
    exact ⟨id, hid, other, k, List.mem_append_left _ hmem, hv, hadds⟩
  standing := fun m a ha id hid other k hmem hv hr => by
    rw [waiting_dispatch]
    rcases mem_sent_dispatch hmem with hmem | ⟨rfl, rfl⟩
    · have hw := h.standing m a ha id hid other k hmem hv hr
      rw [if_neg (hs.numbered k other hw).ne, hw]
    · exact if_pos rfl

/-- The attempts of a method may be replaced by such as have the same grounds, and by such as are
not registered and no request unregisters. -/
theorem record (h : l.Grounded verdict) {attempts : List Attempt}
    (hattempts : ∀ b ∈ attempts,
      (∃ a ∈ l.recorded method, b.id = a.id ∧ b.registered = a.registered) ∨
      b.registered = false ∧ ∀ id, b.id = some id → ∀ asked n,
        ClientRequest.toRequest asked n ∈ l.sent → ¬ asked.Removes id) :
    (l.record method attempts).Grounded verdict := by
  have hrec : ∀ m, ∀ b ∈ (l.record method attempts).recorded m,
      (∃ a ∈ l.recorded m, b.id = a.id ∧ b.registered = a.registered) ∨
      b.registered = false ∧ ∀ id, b.id = some id → ∀ asked n,
        ClientRequest.toRequest asked n ∈ l.sent → ¬ asked.Removes id := by
    intro m b hb
    rcases mem_recorded_record hb with hold | ⟨rfl, hnew⟩
    · exact .inl ⟨b, hold, rfl, rfl⟩
    · exact hattempts b hnew
  constructor
  case toPosted => exact h.toPosted.record method attempts
  case granted =>
    intro m b hb hreg
    rcases hrec m b hb with ⟨a, ha, hid, hsame⟩ | ⟨hfalse, -⟩
    · rw [hid]
      exact h.granted m a ha (hsame.symm.trans hreg)
    · cases hfalse.symm.trans hreg
  case standing =>
    intro m b hb id hid other k hmem hv hr
    rcases hrec m b hb with ⟨a, ha, hida, -⟩ | ⟨-, hnone⟩
    · exact h.standing m a ha id (hida.symm.trans hid) other k hmem hv hr
    · exact absurd hr (hnone id hid other k hmem)

theorem register (h : l.Grounded verdict) (hs : l.Sound) (hi : Function.Injective l.supply)
    (method : String) (options : Option Json) : (l.register method options).Grounded verdict := by
  have hremoves : ∀ id, ¬ (ClientRequest.register [⟨l.fresh, method, options⟩]).Removes id :=
    fun _ ⟨_, he, _⟩ => nomatch he
  refine (h.draw.dispatch hs.draw fun _ _ => drawn_of_names_register).record fun b hb => ?_
  rcases List.mem_append.mp hb with hb | hb
  · exact .inl ⟨b, hb, rfl, rfl⟩
  · cases List.mem_singleton.mp hb
    refine .inr ⟨rfl, fun id hid other k hmem hr => ?_⟩
    cases hid
    rcases mem_sent_dispatch hmem with hmem | ⟨-, rfl⟩
    · obtain ⟨us, rfl, u, hu, he⟩ := hr
      obtain ⟨i, hlt, hsupply⟩ := h.drawn k _ u.method u.id hmem hu
      exact hlt.ne (hi (hsupply.trans he))
    · exact hremoves _ hr

theorem unregister (h : l.Grounded verdict) (hs : l.Sound) (method : String) :
    (l.unregister method).Grounded verdict := by
  unfold Ledger.unregister
  split_ifs
  · exact h
  · refine (h.dispatch hs fun _ _ => drawn_of_names_unregister hs).record fun b hb => ?_
    obtain ⟨a, ha, rfl⟩ := List.mem_map.mp hb
    exact .inl ⟨a, ha, Session.id_markLive a, Session.registered_markLive a⟩

theorem pull (h : l.Grounded verdict) (hs : l.Sound) (items : List ConfigurationItem) :
    (l.dispatch (.configuration items)).Grounded verdict :=
  h.dispatch hs fun _ _ hname => hname.elim

/-- An attempt that an answer leaves registered was so before, or the answer accepts its
registration. -/
theorem registered_of_settle {accepted : Bool} {a b : Attempt}
    (hab : asked.settle accepted method a = some b) (hreg : b.registered = true) :
    a.registered = true ∨ accepted = true ∧ ∃ id, a.id = some id ∧ asked.Adds id := by
  by_cases hc : asked.Concerns method a
  · rw [ClientRequest.settle_of_concerns hc] at hab
    obtain ⟨id, hid, hname⟩ := hc
    cases asked with
    | register rs =>
        obtain ⟨r, hr, -, rfl⟩ := hname
        cases hab
        exact .inr ⟨hreg, r.id, hid, rs, rfl, r, hr, rfl⟩
    | unregister us =>
        simp only [ClientRequest.verdict] at hab
        split_ifs at hab with hacc hold
        exact .inl hold
    | configuration items => exact hname.elim
  · rw [ClientRequest.settle_of_not_concerns hc] at hab
    cases hab
    exact .inl hreg

theorem answer (h : l.Grounded verdict) (hs : l.Sound) (hn : l.waiting n = some asked)
    {accepted : Bool} (haccepted : asked.IsRegistration → accepted = verdict n) :
    (l.answer n accepted).Grounded verdict := by
  rw [answer_of_waiting hn]
  constructor
  case toPosted => exact answer_of_waiting hn accepted ▸ h.toPosted.answer hn accepted
  case granted =>
    intro m b hb hreg
    obtain ⟨a, ha, hab⟩ := mem_settle_iff.mp hb
    have hsame := ClientRequest.keepsId_settle asked accepted m a b hab
    rw [hsame]
    rcases registered_of_settle hab hreg with hreg | ⟨hacc, id, hid, hadds⟩
    · exact h.granted m a ha hreg
    · have hregistration : asked.IsRegistration := by
        obtain ⟨rs, rfl, -⟩ := hadds
        exact ClientRequest.isRegistration_register rs
      exact ⟨id, hid, asked, n, h.carried n asked hn, (haccepted hregistration).symm.trans hacc,
        hadds⟩
  case standing =>
    intro m b hb id hid other k hmem hv hr
    obtain ⟨a, ha, hida, hab⟩ := exists_of_mem_settle hb hid
    have hw := h.standing m a ha id hida other k hmem hv hr
    show (l.dismiss n).waiting k = some other
    rw [waiting_dismiss]
    split_ifs with hk
    · -- the answer confirms that the attempt is unregistered, so the attempt would be gone
      subst hk
      cases hn.symm.trans hw
      obtain ⟨us, rfl, u, hu, rfl⟩ := hr
      have hname : (ClientRequest.unregister us).Names u.method u.id := hu
      obtain rfl := hs.home m u.method u.id (.inl ⟨a, ha, hida⟩) (.inr ⟨k, _, hn, hname⟩)
      have hacc : accepted = true :=
        (haccepted (ClientRequest.isRegistration_unregister us)).trans hv
      rw [ClientRequest.settle_of_concerns ⟨u.id, hida, hname⟩] at hab
      simp [ClientRequest.verdict, hacc] at hab
    · exact hw

/-- The moves of operations keep the grounds. -/
theorem after (h : l.Grounded verdict) (hs : l.Sound) (hi : Function.Injective l.supply)
    {move : Move} (hmove : ∀ asked accepted, move ≠ .settle asked accepted) :
    (l.after move).Grounded verdict := by
  refine keeps_after hmove h h.draw ?_ ?_ ?_ ?_
  · exact fun method options => h.register hs hi method options
  · exact fun method => h.unregister hs method
  · exact fun items => h.pull hs items
  · exact fun l' capabilities formatOnType hl => ⟨⟨hl.carried, hl.old, hl.agree, hl.drawn⟩,
      hl.granted, hl.standing⟩

end Grounded

end Ledger

/-! ### Runs against a client that takes requests in any order -/

namespace Session

/-- Answers are only handed over as responses, and a response to a register or unregister request
has a result exactly where the client accepted the request. -/
def Truthful (verdict : Int → Bool) (s : Session) : Operation → Prop
  | .onRegister _ _ | .onUnregister _ _ => False
  | .handle response =>
    ∀ n asked, response.id = some n → s.outstandingRequest n = some asked →
      asked.IsRegistration → response.hasResult = verdict n
  | _ => True

section runs
variable {verdict : Int → Bool} {refusal : Nat → Option TransportError}
  {supply : Nat → RegistrationId} {config : Config} {s : Session}

theorem Truthful.isMediated {operation : Operation} (h : s.Truthful verdict operation) :
    operation.IsMediated := by
  cases operation with
  | onRegister => exact h
  | onUnregister => exact h
  | _ => trivial

theorem grounded_start : (start ⟨refusal, []⟩ supply config).ledger.Grounded verdict where
  toPosted := posted_start refusal supply config
  granted := nofun
  standing := nofun

theorem grounded_taking {operation : Operation} (hallowed : s.Truthful verdict operation)
    (hs : s.ledger.Sound) (h : s.ledger.Grounded verdict) :
    (s.ledger.taking operation).Grounded verdict := by
  refine Ledger.keeps_taking h ?_
  rintro response n asked rfl hid hw
  exact h.answer hs hw (hallowed n asked hid hw)

theorem grounded (hi : Function.Injective supply)
    (h : Arises (Truthful verdict) (start ⟨refusal, []⟩ supply config) s) :
    s.ledger.Grounded verdict :=
  (h.keeps hi grounded_start (fun _ _ hallowed hs h => grounded_taking hallowed hs h)
    fun _ _ hallowed _ _ _ hmakes hs hi h =>
      h.after hs hi (hmakes.ne_settle hallowed.isMediated)).2.2

/-- Against a client that takes the requests in whatever order, and answers in whatever order for
what it did, every registered attempt is held by the client wherever no answer is to come. -/
theorem held_of_registered (hi : Function.Injective supply)
    (h : Arises (Truthful verdict) (start ⟨refusal, []⟩ supply config) s)
    (hquiet : ∀ n asked, s.outstandingRequest n = some asked → ¬ asked.IsRegistration)
    {taken : List Request}
    (htaken : taken.Perm (s.connection.sent.filter fun request => request.IsRegistration))
    {method : String} {a : Attempt} (ha : a ∈ s.attemptsFor method) (hreg : a.registered = true) :
    ∃ id, a.id = some id ∧ id ∈ Client.held verdict taken := by
  have hgrounded : s.ledger.Grounded verdict := grounded hi h
  have hmem : ∀ request, request ∈ taken ↔ request ∈ s.connection.sent ∧ request.IsRegistration :=
    fun request => htaken.mem_iff.trans (by simp)
  have hrecorded : a ∈ s.ledger.recorded method := by
    refine (mem_attemptsFor ha).resolve_right ?_
    rintro rfl
    cases hreg
  obtain ⟨id, hid, asked, n, hsent, hverdict, hadds⟩ := hgrounded.granted method a hrecorded hreg
  refine ⟨id, hid, Client.mem_held_of_adds ?_ ⟨asked, n, ?_, hverdict, hadds⟩ ?_⟩
  · intro request hrequest
    obtain ⟨operations, rfl⟩ := h.exists_run
    exact (tidy_run operations).encoded request ((hmem request).mp hrequest).1
  · exact (hmem _).mpr ⟨hsent, ClientRequest.isRegistration_of_adds hadds n⟩
  · intro other k hother hv hremoves
    have hw := hgrounded.standing method a hrecorded id hid other k ((hmem _).mp hother).1 hv
      hremoves
    obtain ⟨us, rfl, -⟩ := hremoves
    exact hquiet k _ hw (ClientRequest.isRegistration_unregister us)

end runs

/-- The client takes the unregistration of `c/d` first, and so goes on to hold it; the session
learns of it before it learns of the registrations, and forgets the attempt. -/
theorem held_of_registered_of_reversed :
    let s := (start .accepting .ofLength .default).run [.register "a/b" none,
      .register "c/d" none, .unregister "c/d", .handle (.success 3 .null),
      .handle (.success 2 .null), .handle (.success 1 .null)]
    s.attemptsFor "a/b" = [⟨some (.ofLength 0), true, .complete⟩] ∧
      s.attemptsFor "c/d" = [.never] ∧
      .ofLength 0 ∈ Client.held (fun _ => true) s.connection.sent.reverse ∧
      .ofLength 1 ∈ Client.held (fun _ => true) s.connection.sent.reverse := by
  intro s
  have hsent : Arises (Truthful fun _ => true) (start .accepting .ofLength .default)
      ((start .accepting .ofLength .default).run [.register "a/b" none, .register "c/d" none,
        .unregister "c/d"]) :=
    ((Arises.start.step _ trivial).step _ trivial).step _ trivial
  have hanswered : Arises (Truthful fun _ => true) (start .accepting .ofLength .default) s :=
    ((hsent.step (.handle (.success 3 .null)) fun _ _ _ _ _ => rfl).step
      (.handle (.success 2 .null)) fun _ _ _ _ _ => rfl).step
      (.handle (.success 1 .null)) fun _ _ _ _ _ => rfl
  have hab : s.attemptsFor "a/b" = [⟨some (.ofLength 0), true, .complete⟩] := by decide
  have htaken : s.connection.sent.reverse.Perm
      (s.connection.sent.filter fun request => request.IsRegistration) := by
    rw [List.filter_eq_self.mpr (by decide)]
    exact List.reverse_perm _
  obtain ⟨id, hid, hheld⟩ := held_of_registered RegistrationId.ofLength_injective hanswered
    (fun _ _ h => nomatch h) htaken (hab ▸ List.mem_singleton_self _) rfl
  cases hid
  exact ⟨hab, by decide, hheld, by decide⟩

end Session

end EditorSession
