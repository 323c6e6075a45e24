import EditorSession.Proofs.Calls

/-! # Requests that do not overlap

Where nothing is registered or unregistered while a request about the same method waits
(`Session.Unhurried`), the pending attempts of a method are those that one request is about
(`Ledger.Exact`).  Nothing else touches them until its answer, so an unregistration that the client
refuses leaves the attempts as they were before it (`Session.pending_exact`). -/

namespace EditorSession

/-- The request is about attempts to register the method. -/
def ClientRequest.IsAbout (asked : ClientRequest) (method : String) : Prop :=
  ∃ id, asked.Names method id

namespace Ledger

/-- Each method has at most one request that waits, and what that names is on record and pending. -/
structure Exact (l : Ledger) : Prop where
  sole : ∀ m n k asked other, l.waiting n = some asked → l.waiting k = some other →
    asked.IsAbout m → other.IsAbout m → n = k
  pending : ∀ n asked, l.waiting n = some asked → ∀ m id, asked.Names m id →
    ∃ a ∈ l.recorded m, a.id = some id ∧ a.state = .pending

/-- No attempt of the method is pending. -/
def Settled (l : Ledger) (method : String) : Prop :=
  ∀ a ∈ l.recorded method, a.state ≠ .pending

variable {l : Ledger} {asked : ClientRequest} {method : String} {n : Int} {accepted : Bool}

namespace Exact

/-- Where nothing is pending, nothing waits. -/
theorem not_isAbout (h : l.Exact) (hm : l.Settled method) (hn : l.waiting n = some asked) :
    ¬ asked.IsAbout method := by
  rintro ⟨id, hname⟩
  obtain ⟨a, ha, -, hp⟩ := h.pending n asked hn method id hname
  exact hm a ha hp

/-! ### Requests -/

/-- A request may go out about a method that no request is about, if what it names is recorded as
pending. -/
theorem dispatch_record (h : l.Exact) {attempts : List Attempt}
    (hfree : ∀ n other, l.waiting n = some other → ¬ other.IsAbout method)
    (hnames : ∀ m id, asked.Names m id →
      m = method ∧ ∃ a ∈ attempts, a.id = some id ∧ a.state = .pending) :
    ((l.dispatch asked).record method attempts).Exact where
  sole := fun m n k first second hn hk hfirst hsecond => by
    have hhome : asked.IsAbout m → m = method := fun ⟨id, hname⟩ => (hnames m id hname).1
    rcases waiting_dispatch_eq_some hn with ⟨rfl, rfl⟩ | ⟨-, hw⟩
    · rcases waiting_dispatch_eq_some hk with ⟨rfl, -⟩ | ⟨-, hw'⟩
      · rfl
      · exact absurd (hhome hfirst ▸ hsecond) (hfree k second hw')
    · rcases waiting_dispatch_eq_some hk with ⟨rfl, rfl⟩ | ⟨-, hw'⟩
      · exact absurd (hhome hsecond ▸ hfirst) (hfree n first hw)
      · exact h.sole m n k first second hw hw' hfirst hsecond
  pending := fun n other hn m id hname => by
    rcases waiting_dispatch_eq_some hn with ⟨-, rfl⟩ | ⟨-, hw⟩
    · obtain ⟨rfl, ha⟩ := hnames m id hname
      rw [recorded_record_self]
      exact ha
    · have hm : m ≠ method := by
        rintro rfl
        exact hfree n other hw ⟨id, hname⟩
      rw [recorded_record_of_ne _ hm]
      exact h.pending n other hw m id hname

theorem register (h : l.Exact) (hfree : ∀ n other, l.waiting n = some other →
      ¬ other.IsAbout method) (options : Option Json) : (l.register method options).Exact := by
  have hdraw : l.draw.Exact := ⟨h.sole, h.pending⟩
  refine hdraw.dispatch_record hfree fun m id hname => ?_
  obtain ⟨rfl, rfl⟩ := ClientRequest.names_register_singleton.mp hname
  exact ⟨rfl, .start l.fresh, by simp, rfl, rfl⟩

theorem unregister (h : l.Exact) (hfree : ∀ n other, l.waiting n = some other →
      ¬ other.IsAbout method) : (l.unregister method).Exact := by
  unfold Ledger.unregister
  split_ifs
  · exact h
  · refine h.dispatch_record hfree fun m id hname => ?_
    obtain ⟨rfl, hlive⟩ := names_unregister_live.mp hname
    obtain ⟨a, ha, hid, hrejected⟩ := mem_live_iff.mp hlive
    have hmark : Session.markLive a = a.withState .pending := by
      simp [Session.markLive, Session.liveId?_eq_some_iff.mpr ⟨hid, hrejected⟩]
    refine ⟨rfl, Session.markLive a, List.mem_map_of_mem ha, ?_, ?_⟩
    · rw [Session.id_markLive, hid]
    · rw [hmark]
      rfl

theorem robust : Robust Exact where
  draw := fun _ h => ⟨h.sole, h.pending⟩
  flags := fun _ _ _ h => ⟨h.sole, h.pending⟩
  pull := fun l items h => by
    have hwait : ∀ {n other}, (l.dispatch (.configuration items)).waiting n = some other →
        ∀ {m id}, other.Names m id → l.waiting n = some other := by
      intro n other hn m id hname
      rcases waiting_dispatch_eq_some hn with ⟨-, rfl⟩ | ⟨-, hw⟩
      · exact hname.elim
      · exact hw
    exact ⟨fun m n k first second hn hk ⟨id, hname⟩ ⟨id', hname'⟩ =>
        h.sole m n k first second (hwait hn hname) (hwait hk hname') ⟨id, hname⟩ ⟨id', hname'⟩,
      fun n other hn m id hname => h.pending n other (hwait hn hname) m id hname⟩

/-! ### Answers -/

/-- An answer leaves the attempts alone of every method that another request is about. -/
theorem recorded_settle_of_isAbout (h : l.Exact) (hn : l.waiting n = some asked) {k : Int}
    {other : ClientRequest} (hk : l.waiting k = some other) (hne : k ≠ n)
    (hother : other.IsAbout method) : (l.settle asked accepted).recorded method =
      l.recorded method := by
  show (l.recorded method).filterMap (asked.settle accepted method) = _
  have hsame : ∀ a ∈ l.recorded method, asked.settle accepted method a = some a := by
    intro a _
    refine ClientRequest.settle_of_not_concerns ?_
    rintro ⟨id, -, hname⟩
    exact hne (h.sole method k n other asked hk hn hother ⟨id, hname⟩)
  rw [List.filterMap_congr hsame, List.filterMap_some]

theorem answer (h : l.Exact) (hn : l.waiting n = some asked) : (l.answer n accepted).Exact := by
  rw [answer_of_waiting hn]
  constructor
  case sole =>
    intro m i j first second hi hj
    exact h.sole m i j first second (waiting_dismiss_eq_some hi).2 (waiting_dismiss_eq_some hj).2
  case pending =>
    intro k other hk m id hname
    obtain ⟨hkn, hw⟩ := waiting_dismiss_eq_some hk
    show ∃ a ∈ (l.settle asked accepted).recorded m, _
    rw [h.recorded_settle_of_isAbout hn hw hkn ⟨id, hname⟩]
    exact h.pending k other hw m id hname

theorem taking (h : l.Exact) (operation : Operation) : (l.taking operation).Exact :=
  keeps_taking h fun _ _ _ _ _ hw => h.answer hw

end Exact

/-! ### Requests that wait -/

/-- The request of that number is answered by now, or it waits and the attempts are unchanged. -/
structure Suspends (n : Int) (asked : ClientRequest) (method : String) (attempts : List Attempt)
    (l : Ledger) : Prop where
  old : n < l.nextRequestId
  unchanged : ∀ other, l.waiting n = some other →
    other = asked ∧ l.recorded method = attempts

namespace Suspends
variable {attempts : List Attempt}

theorem dispatch (h : l.Suspends n asked method attempts) (other : ClientRequest) :
    (l.dispatch other).Suspends n asked method attempts where
  old := by
    show n < l.nextRequestId + 1
    have := h.old
    omega
  unchanged := fun third hn => by
    rcases waiting_dispatch_eq_some hn with ⟨he, -⟩ | ⟨-, hw⟩
    · have := h.old
      omega
    · exact h.unchanged third hw

/-- A request may go out about another method. -/
theorem dispatch_record (h : l.Suspends n asked method attempts) {m : String}
    (hm : l.waiting n = some asked → m ≠ method) (other : ClientRequest)
    (replaced : List Attempt) :
    ((l.dispatch other).record m replaced).Suspends n asked method attempts where
  old := (h.dispatch other).old
  unchanged := fun third hn => by
    obtain ⟨rfl, hrec⟩ := (h.dispatch other).unchanged third hn
    rcases waiting_dispatch_eq_some hn with ⟨he, -⟩ | ⟨-, hw⟩
    · have := h.old
      omega
    · rw [recorded_record_of_ne _ (hm hw).symm]
      exact ⟨rfl, hrec⟩

theorem register (h : l.Suspends n asked method attempts) {m : String}
    (hm : l.waiting n = some asked → m ≠ method) (options : Option Json) :
    (l.register m options).Suspends n asked method attempts := by
  have hdraw : l.draw.Suspends n asked method attempts := ⟨h.old, h.unchanged⟩
  exact hdraw.dispatch_record hm _ _

theorem unregister (h : l.Suspends n asked method attempts) {m : String}
    (hm : l.waiting n = some asked → m ≠ method) :
    (l.unregister m).Suspends n asked method attempts := by
  unfold Ledger.unregister
  split_ifs
  · exact h
  · exact h.dispatch_record hm _ _

theorem robust : Robust (Suspends n asked method attempts) where
  draw := fun _ h => ⟨h.old, h.unchanged⟩
  flags := fun _ _ _ h => ⟨h.old, h.unchanged⟩
  pull := fun _ items h => h.dispatch (.configuration items)

/-- The answer to another request is about other methods. -/
theorem taking (h : l.Suspends n asked method attempts) (he : l.Exact)
    (hasked : asked.IsAbout method) (operation : Operation) :
    (l.taking operation).Suspends n asked method attempts := by
  refine keeps_taking (P := Suspends n asked method attempts) h fun response k other _ _ hw => ?_
  rw [answer_of_waiting hw]
  refine ⟨h.old, fun third hn => ?_⟩
  obtain ⟨hne, hn'⟩ := waiting_dismiss_eq_some hn
  obtain ⟨rfl, hrec⟩ := h.unchanged third hn'
  exact ⟨rfl, (he.recorded_settle_of_isAbout hw hn' hne hasked).trans hrec⟩

end Suspends

/-! ### Unregistrations -/

/-- A request to unregister that waits in the second ledger only names what is live in the first,
where nothing of the method is pending, and all of that is marked. -/
def Marks (l l' : Ledger) : Prop :=
  ∀ n entries m id, l.waiting n = none → l'.waiting n = some (.unregister entries) →
    (ClientRequest.unregister entries).Names m id → l.Settled m ∧
      (∀ id, (ClientRequest.unregister entries).Names m id ↔ id ∈ l.live m) ∧
      l'.recorded m = (l.recorded m).map Session.markLive

namespace Marks

theorem robust : Robust l.Marks where
  draw := fun _ h => h
  flags := fun _ _ _ h => h
  pull := fun l' items h n entries m id hnew hn hname => by
    rcases waiting_dispatch_eq_some hn with ⟨-, he⟩ | ⟨-, hw⟩
    · cases he
    · exact h n entries m id hnew hw hname

theorem taking (l : Ledger) (operation : Operation) : l.Marks (l.taking operation) := by
  intro n entries m id hnew hn
  rw [waiting_taking] at hn
  split_ifs at hn
  rw [hnew] at hn
  cases hn

variable {l' : Ledger}

theorem register (hold : ∀ n asked, l'.waiting n = some asked → l.waiting n = some asked)
    (method : String) (options : Option Json) : l.Marks (l'.register method options) := by
  intro n entries m id hnew hn
  rcases waiting_dispatch_eq_some hn with ⟨-, he⟩ | ⟨-, hw⟩
  · cases he
  · have hwaits := hold n _ hw
    rw [hnew] at hwaits
    cases hwaits

theorem unregister (hold : ∀ n asked, l'.waiting n = some asked → l.waiting n = some asked)
    (hrec : l'.recorded = l.recorded) (hm : l.Settled method) : l.Marks (l'.unregister method) := by
  have hstale : ∀ n asked, l.waiting n = none → l'.waiting n ≠ some asked := by
    intro n asked hnew hn
    rw [hold n asked hn] at hnew
    cases hnew
  unfold Ledger.unregister
  split_ifs
  · exact fun n entries m id hnew hn => absurd hn (hstale n _ hnew)
  · intro n entries m id hnew hn hname
    rcases waiting_dispatch_eq_some hn with ⟨-, he⟩ | ⟨-, hw⟩
    · have hlive : l'.live method = l.live method := by rw [live, live, hrec]
      rw [he] at hname ⊢
      obtain ⟨rfl, -⟩ := names_unregister_live.mp hname
      refine ⟨hm, fun id => ?_, ?_⟩
      · rw [names_unregister_live, hlive]
        exact and_iff_right rfl
      · rw [recorded_record_self, hrec]
    · exact absurd hw (hstale n _ hnew)

end Marks

/-- What the answer to a request to unregister what is live leaves of a marked attempt. -/
theorem settle_markLive (hs : l.Sound) {entries : List Unregistration}
    (hnames : ∀ id, (ClientRequest.unregister entries).Names method id ↔ id ∈ l.live method)
    {a : Attempt} (ha : a ∈ l.recorded method) :
    (ClientRequest.unregister entries).settle accepted method (Session.markLive a) =
      if a.isRejected then some a
      else if accepted then none
      else if a.registered then some (a.withState .complete) else none := by
  obtain ⟨id, hid⟩ := hs.named method a ha
  cases hrejected : a.isRejected with
  | true =>
      -- no other attempt has the identifier, so it is not live
      have hfree : id ∉ l.live method := by
        intro hlive
        obtain ⟨b, hb, hbid, hbr⟩ := mem_live_iff.mp hlive
        have hab : b = a := List.inj_on_of_nodup_map (hs.distinct method) hb ha
          (hbid.trans hid.symm)
        rw [hab, hrejected] at hbr
        cases hbr
      rw [Session.markLive_of_isRejected hrejected, if_pos rfl]
      refine ClientRequest.settle_of_not_concerns ?_
      rintro ⟨id', hid', hname⟩
      rw [hid] at hid'
      cases hid'
      exact hfree ((hnames id).mp hname)
  | false =>
      have hmark : Session.markLive a = a.withState .pending := by
        simp [Session.markLive, Session.liveId?_eq_some_iff.mpr ⟨hid, hrejected⟩]
      have hconcerns : (ClientRequest.unregister entries).Concerns method
          (Session.markLive a) := by
        refine ⟨id, by rw [Session.id_markLive, hid], (hnames id).mpr ?_⟩
        exact mem_live_iff.mpr ⟨a, ha, hid, hrejected⟩
      rw [ClientRequest.settle_of_concerns hconcerns, hmark, if_neg Bool.false_ne_true]
      rfl

/-- What is marked to be unregistered is given back its state if that is refused. -/
theorem filterMap_settle_markLive (hs : l.Sound) (hm : l.Settled method)
    {entries : List Unregistration}
    (hnames : ∀ id, (ClientRequest.unregister entries).Names method id ↔ id ∈ l.live method) :
    ((l.recorded method).map Session.markLive).filterMap
      ((ClientRequest.unregister entries).settle false method) = l.recorded method := by
  rw [List.filterMap_map]
  have hback : ∀ a ∈ l.recorded method,
      ((ClientRequest.unregister entries).settle false method ∘ Session.markLive) a = some a := by
    intro a ha
    have hcomplete : a.state = .complete := by
      cases hstate : a.state with
      | pending => exact absurd hstate (hm a ha)
      | complete => rfl
    have hsame : a.withState .complete = a := by
      cases a
      cases hcomplete
      rfl
    rw [Function.comp_apply, settle_markLive hs hnames ha, if_neg Bool.false_ne_true, hsame]
    cases hregistered : a.registered with
    | true => exact ite_self _
    | false => exact if_pos (Attempt.isRejected_eq_true_iff.mpr ⟨hcomplete, hregistered⟩)
  rw [List.filterMap_congr hback, List.filterMap_some]

end Ledger

/-! ### Runs without overlap -/

namespace Session

/-- Answers are only handed over as responses, and nothing is registered or unregistered while the
method has pending attempts. -/
def Unhurried (s : Session) (operation : Operation) : Prop :=
  operation.IsMediated ∧ ∀ m, s.Calls operation m → s.registry.hasPending m = false

section runs
variable {connection : Connection} {supply : Nat → RegistrationId} {config : Config}
  {s s' origin : Session} {operation : Operation} {method : String} {n : Int}
  {asked : ClientRequest} {attempts : List Attempt} {allowed : Session → Operation → Prop}

theorem Arises.trans (h : Arises allowed origin s) (h' : Arises allowed s s') :
    Arises allowed origin s' := by
  induction h' with
  | start => exact h
  | step operation _ hallowed ih => exact ih.step operation hallowed

theorem settled_iff : s.ledger.Settled method ↔ s.registry.hasPending method = false := by
  rw [Registry.hasPending, List.any_eq_false]
  simp only [Attempt.isPending_eq_true_iff]
  rfl

/-- No request about a method waits when the method is to be registered or unregistered. -/
theorem not_isAbout_of_calls (he : s.ledger.Exact) (hop : s.Unhurried operation)
    (hcalls : s.Calls operation method) (hn : (s.ledger.taking operation).waiting n = some asked) :
    ¬ asked.IsAbout method := by
  rw [Ledger.waiting_taking] at hn
  split_ifs at hn
  exact he.not_isAbout (settled_iff.mpr (hop.2 method hcalls)) hn

theorem exact_perform (he : s.ledger.Exact) (hs : s.ledger.Sound)
    (hi : Function.Injective s.supply) (hop : s.Unhurried operation) :
    (s.perform operation).2.ledger.Exact := by
  have htaking := he.taking operation
  refine perform_keeps_calls Ledger.Exact.robust hs hi hop.1 htaking fun m hcalls => ?_
  have hfree : ∀ n other, (s.ledger.taking operation).waiting n = some other →
      ¬ other.IsAbout m := fun n other => not_isAbout_of_calls he hop hcalls
  exact ⟨htaking.register hfree, htaking.unregister hfree⟩

/-- The attempts that a request is about stay as they are while it waits. -/
theorem suspends_perform (h : s.ledger.Suspends n asked method attempts)
    (hasked : asked.IsAbout method) (he : s.ledger.Exact) (hs : s.ledger.Sound)
    (hi : Function.Injective s.supply) (hop : s.Unhurried operation) :
    (s.perform operation).2.ledger.Suspends n asked method attempts := by
  have htaking := h.taking he hasked operation
  refine perform_keeps_calls Ledger.Suspends.robust hs hi hop.1 htaking fun m hcalls => ?_
  have hother : (s.ledger.taking operation).waiting n = some asked → m ≠ method := by
    rintro hn rfl
    exact not_isAbout_of_calls he hop hcalls hn hasked
  exact ⟨htaking.register hother, htaking.unregister hother⟩

theorem marks_perform (hs : s.ledger.Sound) (hi : Function.Injective s.supply)
    (hop : s.Unhurried operation) : s.ledger.Marks (s.perform operation).2.ledger := by
  refine perform_keeps_calls Ledger.Marks.robust hs hi hop.1 (.taking _ _) fun m hcalls => ?_
  have hold : ∀ n asked, (s.ledger.taking operation).waiting n = some asked →
      s.ledger.waiting n = some asked := by
    intro n asked hn
    rw [Ledger.waiting_taking] at hn
    split_ifs at hn
    exact hn
  exact ⟨Ledger.Marks.register hold m, Ledger.Marks.unregister hold
    (recorded_taking_of_calls hcalls) (settled_iff.mpr (hop.2 m hcalls))⟩

theorem Arises.supply_eq (h : Arises allowed origin s) : s.supply = origin.supply := by
  obtain ⟨operations, rfl⟩ := h.exists_run
  exact (origin.terms_run operations).2.1

theorem exact_arises (hi : Function.Injective supply)
    (h : Arises Unhurried (start connection supply config) s) : s.ledger.Exact := by
  induction h with
  | start => exact ⟨fun _ _ _ _ _ hn => (nomatch hn), fun _ _ hn => nomatch hn⟩
  | step operation hbefore hop ih =>
      exact exact_perform ih (hbefore.sound hi) (hbefore.supply_eq ▸ hi) hop

theorem suspends_arises (hi : Function.Injective supply)
    (horigin : Arises Unhurried (start connection supply config) s)
    (hstart : s.ledger.Suspends n asked method attempts) (hasked : asked.IsAbout method)
    (h : Arises Unhurried s s') : s'.ledger.Suspends n asked method attempts := by
  induction h with
  | start => exact hstart
  | step operation hbefore hop ih =>
      have harises := horigin.trans hbefore
      exact suspends_perform ih hasked (exact_arises hi harises) (harises.sound hi)
        (harises.supply_eq ▸ hi) hop

/-- After a refused unregistration the attempts are what they were before it. -/
theorem attemptsFor_of_refused (hi : Function.Injective supply)
    (h : Arises Unhurried (start connection supply config) s) (hop : s.Unhurried operation)
    {entries : List Unregistration} (hnew : s.outstandingRequest n = none)
    (hsent : (s.perform operation).2.outstandingRequest n = some (.unregister entries))
    (hafter : Arises Unhurried (s.perform operation).2 s') (hwaits : s'.outstandingRequest n ≠ none)
    {response : Response} (hid : response.id = some n) (hrefused : response.hasResult = false)
    (habout : (ClientRequest.unregister entries).IsAbout method) :
    (s'.handleResponse response).2.attemptsFor method = s.attemptsFor method := by
  have hs := h.sound hi
  have hperformed := h.step operation hop
  obtain ⟨id, hname⟩ := habout
  obtain ⟨hsettled, hnames, hmarked⟩ := marks_perform hs (h.supply_eq ▸ hi) hop n entries method
    id hnew hsent hname
  have hstart : (s.perform operation).2.ledger.Suspends n (.unregister entries) method
      ((s.ledger.recorded method).map markLive) := by
    refine ⟨(hperformed.sound hi).numbered n _ hsent, fun other hn => ⟨?_, hmarked⟩⟩
    exact Option.some.inj (hn.symm.trans hsent)
  have hsuspends := suspends_arises hi hperformed hstart ⟨id, hname⟩ hafter
  obtain ⟨asked, hasked⟩ := Option.ne_none_iff_exists'.mp hwaits
  obtain ⟨rfl, hrec⟩ := hsuspends.unchanged asked hasked
  have hlast : (s'.handleResponse response).2.ledger.recorded method =
      (s'.ledger.answer n response.hasResult).recorded method := by
    rcases handleResponse_cases ((hperformed.trans hafter).sound hi) hid hasked
      (ClientRequest.isRegistration_unregister entries) with hl | hl
    · rw [hl]
    · rw [hl]
      rfl
  have hback : (s'.handleResponse response).2.registry.recorded method =
      s.registry.recorded method := by
    refine hlast.trans ?_
    rw [Ledger.answer_of_waiting hasked, hrefused]
    show (s'.ledger.recorded method).filterMap _ = _
    rw [hrec]
    exact Ledger.filterMap_settle_markLive hs hsettled hnames
  rw [attemptsFor, attemptsFor, Registry.attemptsFor, Registry.attemptsFor, hback]

/-- Where operations do not overlap, what is pending is exact.  Of every method at most one request
waits, the pending attempts are exactly those that it names, and there are some exactly where it
waits.  An unregistration that is refused leaves the attempts as they were before it was asked for.
-/
theorem pending_exact (hi : Function.Injective supply)
    (h : Arises Unhurried (start connection supply config) s) :
    (∀ m,
      (∀ n k asked other, s.outstandingRequest n = some asked →
        s.outstandingRequest k = some other → asked.IsAbout m → other.IsAbout m → n = k) ∧
      (∀ n asked, s.outstandingRequest n = some asked → asked.IsAbout m → ∀ id,
        asked.Names m id ↔ ∃ a ∈ s.attemptsFor m, a.id = some id ∧ a.isPending = true) ∧
      (s.registry.hasPending m = true ↔
        ∃ n asked, s.outstandingRequest n = some asked ∧ asked.IsAbout m)) ∧
    ∀ operation n entries, s.Unhurried operation → s.outstandingRequest n = none →
      (s.perform operation).2.outstandingRequest n = some (.unregister entries) →
      ∀ s' response m, Arises Unhurried (s.perform operation).2 s' →
        s'.outstandingRequest n ≠ none → response.id = some n → response.hasResult = false →
        (ClientRequest.unregister entries).IsAbout m →
        (s'.handleResponse response).2.attemptsFor m = s.attemptsFor m := by
  have hs := h.sound hi
  have he := exact_arises hi h
  refine ⟨fun m => ⟨he.sole m, fun n asked hn hasked id => ⟨fun hname => ?_, ?_⟩, ?_, ?_⟩,
    fun operation n entries hop hnew hsent s' response m hafter hwaits hid hrefused habout =>
      attemptsFor_of_refused hi h hop hnew hsent hafter hwaits hid hrefused habout⟩
  · obtain ⟨a, ha, haid, hp⟩ := he.pending n asked hn m id hname
    exact ⟨a, mem_attemptsFor_of_mem ha, haid, Attempt.isPending_eq_true_iff.mpr hp⟩
  · rintro ⟨a, ha, haid, hp⟩
    have hrec : a ∈ s.ledger.recorded m := by
      rcases mem_attemptsFor ha with ha | rfl
      · exact ha
      · cases haid
    obtain ⟨k, other, hk, id', hid', hname⟩ :=
      hs.attended m a hrec (Attempt.isPending_eq_true_iff.mp hp)
    rw [haid] at hid'
    cases hid'
    have hkn : k = n := he.sole m k n other asked hk hn ⟨id, hname⟩ hasked
    rw [hkn] at hk
    cases hn.symm.trans hk
    exact hname
  · intro hp
    obtain ⟨a, ha, hstate⟩ := List.any_eq_true.mp hp
    obtain ⟨n, asked, hn, id, -, hname⟩ :=
      hs.attended m a ha (Attempt.isPending_eq_true_iff.mp hstate)
    exact ⟨n, asked, hn, id, hname⟩
  · rintro ⟨n, asked, hn, id, hname⟩
    obtain ⟨a, ha, -, hp⟩ := he.pending n asked hn m id hname
    exact List.any_eq_true.mpr ⟨a, ha, Attempt.isPending_eq_true_iff.mpr hp⟩

theorem unhurried_register (h : s.registry.hasPending method = false) (options : Option Json) :
    s.Unhurried (.register method options) := by
  refine ⟨trivial, fun m hcalls => ?_⟩
  cases hcalls with
  | register => exact h
  | settings hd _ _ => cases hd

theorem unhurried_unregister (h : s.registry.hasPending method = false) :
    s.Unhurried (.unregister method) := by
  refine ⟨trivial, fun m hcalls => ?_⟩
  cases hcalls with
  | unregister => exact h
  | settings hd _ _ => cases hd

/-- The answer to a register or unregister request may come at any time. -/
theorem unhurried_handle {response : Response} (h : s.delivery? (.handle response) = none) :
    s.Unhurried (.handle response) := by
  refine ⟨trivial, fun m hcalls => ?_⟩
  cases hcalls with
  | settings hd _ _ =>
      rw [h] at hd
      cases hd

end runs

/-- Two attempts to register the method, of which the client refused the first and accepted the
second. -/
def onceRefused : Session :=
  (start .accepting .ofLength .default).run
    [.register "a/b" none, .handle (.failure 1 0 ""), .register "a/b" none,
      .handle (.success 2 .null)]

/-- While the unregistration waits, another method is registered. -/
theorem pending_exact_of_onceRefused :
    let s := (onceRefused.perform (.unregister "a/b")).2
    let s' := (s.perform (.register "c/d" none)).2
    onceRefused.attemptsFor "a/b" =
      [⟨some (.ofLength 0), false, .complete⟩, ⟨some (.ofLength 1), true, .complete⟩] ∧
    (∃ n asked, s'.outstandingRequest n = some asked ∧ asked.IsAbout "a/b") ∧
    (s'.handleResponse (.failure 3 0 "")).2.attemptsFor "a/b" = onceRefused.attemptsFor "a/b" := by
  intro s s'
  have hbefore : Arises Unhurried (start .accepting .ofLength .default) onceRefused :=
    (((Arises.start.step _ (unhurried_register rfl none)).step _ (unhurried_handle rfl)).step _
      (unhurried_register rfl none)).step _ (unhurried_handle rfl)
  have hunregister : onceRefused.Unhurried (.unregister "a/b") := unhurried_unregister rfl
  have hregister : s.Unhurried (.register "c/d" none) := unhurried_register rfl none
  have hafter : Arises Unhurried s s' := Arises.start.step _ hregister
  have hs' : Arises Unhurried (start .accepting .ofLength .default) s' :=
    (hbefore.step _ hunregister).trans hafter
  refine ⟨by decide, ?_, ?_⟩
  · exact ((pending_exact RegistrationId.ofLength_injective hs').1 "a/b").2.2.mp rfl
  · exact (pending_exact RegistrationId.ofLength_injective hbefore).2 (.unregister "a/b") 3
      [⟨.ofLength 1, "a/b"⟩] hunregister rfl rfl s' (.failure 3 0 "") "a/b" hafter
      (by decide) rfl rfl ⟨.ofLength 1, List.mem_singleton_self _⟩

end Session

end EditorSession
