import EditorSession.Proofs.Interruptions
import EditorSession.Proofs.Overlap

/-! # A method is unregistered

A request to unregister a method names the attempts that the client has not refused, and marks them
as pending (`Session.unregisterCapability_of_accepts`).  It waits until a response is handled
(`Session.outstandingRequest_run`), and what the response leaves of the attempts was decided before
the request: it takes the targets away, or gives those back that the client held
(`Attempts.filterMap_accepted`, `Attempts.filterMap_refused`).  So the whole way can be told from
the attempts at its start (`Session.unregistered_from_end_to_end`). -/

namespace EditorSession

/-! ### What an answer leaves -/

namespace Attempts

theorem filterMap_accepted (attempts : List Attempt) :
    (attempts.filterMap fun a => if a.isRejected then some a else none) =
      attempts.filter Attempt.isRejected := by
  induction attempts with
  | nil => rfl
  | cons a rest ih => cases h : a.isRejected <;> simp [h, ih]

/-- What was refused stays as it is, and what was registered is complete again. -/
theorem filterMap_refused (attempts : List Attempt) :
    (attempts.filterMap fun a => if a.isRejected then some a
      else if a.registered then some (a.withState .complete) else none) =
      (attempts.filter fun a => a.isRejected || a.registered).map
        (Attempt.withState .complete) := by
  induction attempts with
  | nil => rfl
  | cons a rest ih =>
      cases h : a.isRejected with
      | true =>
          have hsame : a.withState .complete = a := by
            obtain ⟨hcomplete, -⟩ := Attempt.isRejected_eq_true_iff.mp h
            cases a
            cases hcomplete
            rfl
          simp [h, hsame, ih]
      | false => cases hr : a.registered <;> simp [h, hr, ih]

end Attempts

/-! ### Requests that wait -/

/-- The requests that go out leave those alone that wait. -/
theorem Mail.Extends.waiting_of_lt {m m' : Mail} (h : m.Extends m') {n : Int} (hn : n < m.next) :
    n < m'.next ∧ m'.waiting n = m.waiting n := by
  induction h with
  | refl => exact ⟨hn, rfl⟩
  | @dispatch m' asked _ ih =>
      refine ⟨Int.lt_add_one_of_le ih.1.le, ?_⟩
      rw [waiting_dispatch, if_neg ih.1.ne, ih.2]

namespace Session

variable {s : Session} {method : String} {n : Int}

/-- A request waits as long as no response is handled. -/
theorem outstandingRequest_run (hn : n < s.nextRequestId) {operations : List Operation}
    (h : ∀ response, Operation.handle response ∉ operations) :
    (s.run operations).outstandingRequest n = s.outstandingRequest n := by
  induction operations generalizing s with
  | nil => rfl
  | cons operation rest ih =>
      have hnumber : operation.number? = none := by
        cases operation with
        | handle response => exact absurd List.mem_cons_self (h response)
        | _ => rfl
      have hsent := s.mail_perform operation
      rw [hnumber] at hsent
      obtain ⟨hlt, hsame⟩ := hsent.waiting_of_lt hn
      exact (ih hlt fun response hmem => h response (List.mem_cons_of_mem _ hmem)).trans hsame

/-! ### The request -/

/-- The connection accepts the next request. -/
def Accepts (s : Session) : Prop := s.connection.refusal s.connection.dispatched.length = none

/-- A request that is accepted is given to the connection and waits. -/
theorem send_of_accepts (h : s.Accepts) (asked : ClientRequest) : ∃ s',
    s.send asked = (.ok s.nextRequestId, s') ∧ s'.ledger = s.ledger.dispatch asked ∧
      s'.connection.dispatched =
        s.connection.dispatched ++ [⟨asked.toRequest s.nextRequestId, true⟩] := by
  have hr : s.connection.refusal s.connection.dispatched.length = none := h
  rcases s.send_cases asked with ⟨s', hsend, hl⟩ | ⟨e, s', hsend, -⟩
  · refine ⟨s', hsend, hl, ?_⟩
    rw [← show (s.send asked).2 = s' from congrArg Prod.snd hsend]
    simp only [send, Connection.give, hr]
    rfl
  · simp only [send, Connection.give, hr] at hsend
    cases hsend

/-- Where something is to be unregistered and the connection accepts the request, it goes out and
its targets are marked. -/
theorem unregisterCapability_of_accepts (h : s.Accepts) (hlive : s.ledger.live method ≠ []) :
    ∃ s', s.unregisterCapability method = (.ok (), s') ∧
      s'.ledger = s.ledger.unregister method ∧
      s'.connection.dispatched = s.connection.dispatched ++
        [⟨(ClientRequest.unregister ((s.ledger.live method).map fun id =>
          ⟨id, method⟩)).toRequest s.nextRequestId, true⟩] := by
  obtain ⟨log, ⟨hnone, -⟩ | ⟨-, heq⟩⟩ := s.unregisterCapability_eq method
  · exact absurd hnone hlive
  · have hmarked : ({ s.marking method with log := log } : Session).Accepts := h
    obtain ⟨s', hsend, hl, hgiven⟩ := send_of_accepts hmarked
      (.unregister ((s.ledger.live method).map fun id => ⟨id, method⟩))
    refine ⟨s', by rw [heq, hsend], ?_, hgiven⟩
    rw [hl, Ledger.unregister, if_neg hlive,
      show ({ s.marking method with log := log } : Session).ledger = (s.marking method).ledger
        from rfl, ledger_marking]
    rfl

/-! ### The answer -/

/-- The answer to an unregister request always succeeds, and settles the attempts. -/
theorem handleResponse_of_unregister (hd : s.ledger.Distinct) {response : Response}
    {entries : List Unregistration} (hid : response.id = some n)
    (hw : s.outstandingRequest n = some (.unregister entries)) :
    ∃ s', s.handleResponse response = (.ok (), s') ∧ ∀ m, s'.registry.recorded m =
      (s.registry.recorded m).filterMap
        ((ClientRequest.unregister entries).settle response.hasResult m) := by
  obtain ⟨s₁, hl, heq⟩ := handleResponse_of_waiting hid hw
  have hrecorded : s₁.ledger.recorded = s.ledger.recorded := by
    rw [hl]
    rfl
  have hsettled := ledger_onUnregisterResponse (hd.of_recorded_eq hrecorded) response entries
  have hok : (s₁.onUnregisterResponse response (.unregister entries)).1 = .ok () := by
    simp only [onUnregisterResponse]
    split_ifs <;> rfl
  refine ⟨_, heq.trans (Prod.ext hok rfl), fun m => ?_⟩
  show (s₁.onUnregisterResponse response (.unregister entries)).2.ledger.recorded m = _
  rw [hsettled]
  exact congrArg (List.filterMap _) (congrFun hrecorded m)

/-! ### From end to end -/

theorem markLive_of_id_eq_some {a : Attempt} {id : RegistrationId} (h : a.id = some id) :
    markLive a = if a.isRejected then a else a.withState .pending := by
  unfold markLive liveId?
  cases a.isRejected <;> simp [h]

end Session

/-- What is live bears the identifiers of the attempts that the client has not refused. -/
theorem Ledger.map_some_live {l : Ledger} (hs : l.Sound) (method : String) :
    (l.live method).map some =
      ((l.recorded method).filter fun a => !a.isRejected).map Attempt.id := by
  unfold live
  have hnamed := hs.named method
  generalize l.recorded method = attempts at hnamed
  induction attempts with
  | nil => rfl
  | cons a rest ih =>
      rw [List.forall_mem_cons] at hnamed
      obtain ⟨⟨id, hid⟩, hrest⟩ := hnamed
      cases hr : a.isRejected <;> simp [Session.liveId?, hr, hid, ih hrest]

namespace Session

/-- The attempts of a method that the client has not refused. -/
def targets (s : Session) (method : String) : List Attempt :=
  (s.registry.recorded method).filter fun a => !a.isRejected

section runs
variable {connection : Connection} {supply : Nat → RegistrationId} {config : Config}
  {s : Session} {method : String}

theorem live_eq_nil_iff (hs : s.ledger.Sound) :
    s.ledger.live method = [] ↔ s.targets method = [] := by
  rw [← List.map_eq_nil_iff (f := some), Ledger.map_some_live hs, List.map_eq_nil_iff]
  rfl

theorem map_markLive (hs : s.ledger.Sound) (method : String) :
    (s.registry.recorded method).map markLive =
      (s.registry.recorded method).map
        fun a => if a.isRejected then a else a.withState .pending := by
  refine List.map_congr_left fun a ha => ?_
  obtain ⟨id, hid⟩ := hs.named method a ha
  exact markLive_of_id_eq_some hid

/-- The request that unregisters a method waits under the number that was next, and nothing takes it
away before a response is handled. -/
theorem outstandingRequest_unregister {s' : Session} (hl : s'.ledger = s.ledger.unregister method)
    (hlive : s.ledger.live method ≠ []) {between : List Operation}
    (hquiet : ∀ response, Operation.handle response ∉ between) :
    (s'.run between).outstandingRequest s.nextRequestId =
      some (.unregister ((s.ledger.live method).map fun id => ⟨id, method⟩)) := by
  rw [Ledger.unregister, if_neg hlive] at hl
  have hwaits : s'.outstandingRequest s.nextRequestId =
      some (.unregister ((s.ledger.live method).map fun id => ⟨id, method⟩)) := by
    show s'.ledger.waiting s.ledger.nextRequestId = _
    rw [hl]
    exact (Ledger.waiting_dispatch ..).trans (if_pos rfl)
  have hnext : s.nextRequestId < s'.nextRequestId := by
    show s.nextRequestId < s'.ledger.nextRequestId
    rw [hl]
    exact Int.lt_add_one_of_le le_rfl
  rw [outstandingRequest_run hnext hquiet, hwaits]

/-- What the answer leaves of the attempts that the request marked. -/
theorem filterMap_settle_map_markLive (hs : s.ledger.Sound) (method : String) (accepted : Bool) :
    ((s.registry.recorded method).map markLive).filterMap ((ClientRequest.unregister
        ((s.ledger.live method).map fun id => ⟨id, method⟩)).settle accepted method) =
      if accepted then (s.registry.recorded method).filter Attempt.isRejected
      else ((s.registry.recorded method).filter fun a => a.isRejected || a.registered).map
        (Attempt.withState .complete) := by
  have hanswer : ∀ a ∈ s.registry.recorded method, ((ClientRequest.unregister
        ((s.ledger.live method).map fun id => ⟨id, method⟩)).settle accepted method ∘ markLive) a =
      if a.isRejected then some a else if accepted then none
      else if a.registered then some (a.withState .complete) else none := fun a ha =>
    Ledger.settle_markLive hs (fun id => Ledger.names_unregister_live.trans (and_iff_right rfl)) ha
  rw [List.filterMap_map, List.filterMap_congr hanswer]
  cases accepted with
  | true => exact Attempts.filterMap_accepted _
  | false => exact Attempts.filterMap_refused _

/-- Unregistering a method, after every sequence of operations.  If the client refused all attempts
of the method, nothing is sent or changed.  Otherwise, where the connection accepts the request, one
request goes out, which names the other attempts in their order; these are pending then, and
nothing else about the attempts changes.  If the next response that is handled is the answer, and
the attempts were left alone until then, it leaves those that had been refused, and if it is a
refusal also those that had been registered, which are complete again. -/
theorem unregistered_from_end_to_end (hi : Function.Injective supply)
    (operations : List Operation) (method : String) :
    let s := (start connection supply config).run operations
    let attempts := s.registry.recorded method
    (s.targets method = [] →
      ∃ log, s.unregisterCapability method = (.ok (), { s with log := log })) ∧
    (s.targets method ≠ [] → s.Accepts →
      ∃ entries s', s.unregisterCapability method = (.ok (), s') ∧
        s'.connection.dispatched = s.connection.dispatched ++
          [⟨(ClientRequest.unregister entries).toRequest s.nextRequestId, true⟩] ∧
        entries.map (fun u => (some u.id, u.method)) =
          (s.targets method).map (fun a => (a.id, method)) ∧
        s'.registry.recorded method =
          attempts.map (fun a => if a.isRejected then a else a.withState .pending) ∧
        ∀ between response, (∀ other, Operation.handle other ∉ between) →
          (s'.run between).registry.recorded method = s'.registry.recorded method →
          response.id = some s.nextRequestId →
          ∃ s'', (s'.run between).handleResponse response = (.ok (), s'') ∧
            s''.registry.recorded method =
              if response.hasResult then attempts.filter Attempt.isRejected
              else (attempts.filter fun a => a.isRejected || a.registered).map
                (Attempt.withState .complete)) := by
  intro s attempts
  have hs : s.ledger.Sound := sound_run hi operations
  refine ⟨fun hnone => ?_, fun hsome haccepts => ?_⟩
  · obtain ⟨log, ⟨-, heq⟩ | ⟨hlive, -⟩⟩ := s.unregisterCapability_eq method
    · exact ⟨log, heq⟩
    · exact absurd ((live_eq_nil_iff hs).mpr hnone) hlive
  have hlive : s.ledger.live method ≠ [] := mt (live_eq_nil_iff hs).mp hsome
  obtain ⟨s', heq, hl, hgiven⟩ := unregisterCapability_of_accepts haccepts hlive
  have hrecorded : s'.registry.recorded method = attempts.map markLive := by
    show s'.ledger.recorded method = _
    rw [hl, Ledger.unregister, if_neg hlive, Ledger.recorded_record_self]
    rfl
  refine ⟨_, s', heq, hgiven, ?_, hrecorded.trans (map_markLive hs method), ?_⟩
  · have hids : (s.ledger.live method).map some = (s.targets method).map Attempt.id :=
      Ledger.map_some_live hs method
    have hpairs := congrArg (List.map fun id => (id, method)) hids
    simpa only [List.map_map, Function.comp_def] using hpairs
  intro between response hquiet hsame hid
  have hs' : (s.perform (.unregister method)).2 = s' := congrArg Prod.snd heq
  have hsound : (s'.run between).ledger.Sound := by
    have hrun := @sound_run connection supply config hi
      (operations ++ .unregister method :: between)
    rw [run_append, run_cons, hs'] at hrun
    exact hrun
  obtain ⟨s'', hhandled, hsettled⟩ := handleResponse_of_unregister hsound.distinct hid
    (outstandingRequest_unregister hl hlive hquiet)
  refine ⟨s'', hhandled, ?_⟩
  rw [hsettled, hsame, hrecorded]
  exact filterMap_settle_map_markLive hs method response.hasResult

end runs

/-- Four attempts to register the method: one is registered and about to be unregistered, one was
refused, one waits for its answer, and one is registered. -/
def mixed : Session :=
  (start .accepting .ofLength .default).run
    [.register "a/b" none, .register "a/b" none, .handle (.success 1 .null), .unregister "a/b",
      .handle (.failure 2 0 ""), .register "a/b" none, .register "a/b" none,
      .handle (.success 5 .null)]

/-- All but the refused attempt are to be unregistered.  If the client agrees, the refused one is
left; if not, also the two that were registered, while the one that was waiting is gone. -/
theorem unregistered_from_end_to_end_of_mixed :
    let between := ((mixed.unregisterCapability "a/b").2).run [.register "c/d" none]
    mixed.attemptsFor "a/b" = [⟨some (.ofLength 0), true, .pending⟩,
      ⟨some (.ofLength 1), false, .complete⟩, ⟨some (.ofLength 2), false, .pending⟩,
      ⟨some (.ofLength 3), true, .complete⟩] ∧
    (∃ s, between.handleResponse (.success 6 .null) = (.ok (), s) ∧
      s.registry.recorded "a/b" = [⟨some (.ofLength 1), false, .complete⟩]) ∧
    ∃ s, between.handleResponse (.failure 6 0 "") = (.ok (), s) ∧
      s.registry.recorded "a/b" = [⟨some (.ofLength 0), true, .complete⟩,
        ⟨some (.ofLength 1), false, .complete⟩, ⟨some (.ofLength 3), true, .complete⟩] := by
  intro between
  obtain ⟨entries, s', heq, -, -, -, hanswered⟩ := (@unregistered_from_end_to_end .accepting
    .ofLength .default RegistrationId.ofLength_injective
    [.register "a/b" none, .register "a/b" none, .handle (.success 1 .null), .unregister "a/b",
      .handle (.failure 2 0 ""), .register "a/b" none, .register "a/b" none,
      .handle (.success 5 .null)] "a/b").2 (by decide) rfl
  have hs' : (mixed.unregisterCapability "a/b").2 = s' := congrArg Prod.snd heq
  have hsettled := fun response => hanswered [.register "c/d" none] response (by simp)
    (by rw [← hs']; decide)
  rw [← hs'] at hsettled
  refine ⟨by decide, ?_, ?_⟩
  · obtain ⟨s, hok, hleft⟩ := hsettled (.success 6 .null) (by decide)
    exact ⟨s, hok, hleft.trans (by decide)⟩
  · obtain ⟨s, hok, hleft⟩ := hsettled (.failure 6 0 "") (by decide)
    exact ⟨s, hok, hleft.trans (by decide)⟩

end Session

end EditorSession
