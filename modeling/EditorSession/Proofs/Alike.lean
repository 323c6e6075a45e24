import EditorSession.Proofs.Grounds

/-! # Ledgers that differ in identifiers

Two ledgers are alike if the identifiers of one stand for those of the other, and the numbers of
their requests are exchanged (`Ledger.Alike`).  Ledgers that are alike stay so when they make the
same request about a method (`Alike.register`, `Alike.unregister`), hence also when the same value
is requested of their switches (`Alike.reconcile`). -/

namespace EditorSession

variable {R : RegistrationId → RegistrationId → Prop}

/-! ### Attempts and requests -/

/-- The attempts differ in their identifiers only. -/
structure Attempt.Alike (R : RegistrationId → RegistrationId → Prop) (a b : Attempt) : Prop where
  id : Option.Rel R a.id b.id
  registered : a.registered = b.registered
  state : a.state = b.state

/-- The registrations differ in their identifiers only. -/
structure Registration.Alike (R : RegistrationId → RegistrationId → Prop) (r q : Registration) :
    Prop where
  id : R r.id q.id
  method : r.method = q.method
  options : r.options = q.options

/-- The unregistrations differ in their identifiers only. -/
structure Unregistration.Alike (R : RegistrationId → RegistrationId → Prop)
    (u v : Unregistration) : Prop where
  id : R u.id v.id
  method : u.method = v.method

/-- The requests differ in identifiers only. -/
inductive ClientRequest.Alike (R : RegistrationId → RegistrationId → Prop) :
    ClientRequest → ClientRequest → Prop
  | register {first second : List Registration} :
      List.Forall₂ (Registration.Alike R) first second →
      Alike R (.register first) (.register second)
  | unregister {first second : List Unregistration} :
      List.Forall₂ (Unregistration.Alike R) first second →
      Alike R (.unregister first) (.unregister second)
  | configuration (items : List ConfigurationItem) :
      Alike R (.configuration items) (.configuration items)

/-- The messages differ in their numbers and in identifiers only. -/
def Request.Alike (R : RegistrationId → RegistrationId → Prop) (first second : Request) : Prop :=
  ∃ asked other n k, first = ClientRequest.toRequest asked n ∧
    second = ClientRequest.toRequest other k ∧ ClientRequest.Alike R asked other

theorem Attempt.alike_self {a : Attempt} (h : ∀ id, a.id = some id → R id id) : a.Alike R a := by
  refine ⟨?_, rfl, rfl⟩
  cases hid : a.id with
  | none => exact .none
  | some id => exact .some (h id hid)

theorem Attempt.Alike.isRejected_eq {a b : Attempt} (h : a.Alike R b) :
    a.isRejected = b.isRejected := by
  rw [isRejected, isRejected, h.state, h.registered]

theorem Attempt.Alike.liveId? {a b : Attempt} (h : a.Alike R b) :
    Option.Rel R (Session.liveId? a) (Session.liveId? b) := by
  rw [Session.liveId?, Session.liveId?, h.isRejected_eq]
  split_ifs
  · exact .none
  · exact h.id

theorem Attempt.Alike.markLive {a b : Attempt} (h : a.Alike R b) :
    (Session.markLive a).Alike R (Session.markLive b) := by
  have hid : Option.Rel R (Session.markLive a).id (Session.markLive b).id := by
    rw [Session.id_markLive, Session.id_markLive]
    exact h.id
  have hregistered : (Session.markLive a).registered = (Session.markLive b).registered := by
    rw [Session.registered_markLive, Session.registered_markLive]
    exact h.registered
  refine ⟨hid, hregistered, ?_⟩
  have hlive := h.liveId?
  unfold Session.markLive
  generalize Session.liveId? a = live at hlive ⊢
  generalize Session.liveId? b = live' at hlive ⊢
  cases hlive with
  | none => exact h.state
  | some _ => rfl

namespace ClientRequest

theorem alike_self {asked : ClientRequest} (h : ∀ m id, asked.Names m id → R id id) :
    asked.Alike R asked := by
  cases asked with
  | register registrations =>
      refine .register (List.forall₂_same.mpr fun r hr => ⟨h r.method r.id ?_, rfl, rfl⟩)
      exact ⟨r, hr, rfl, rfl⟩
  | unregister entries =>
      exact .unregister (List.forall₂_same.mpr fun u hu => ⟨h u.method u.id hu, rfl⟩)
  | configuration items => exact .configuration items

theorem isRegistration_toRequest {asked : ClientRequest} {n : Int} :
    (asked.toRequest n).IsRegistration ↔ asked.IsRegistration := by
  cases asked with
  | register registrations => exact iff_of_true (.inl rfl) (isRegistration_register registrations)
  | unregister entries => exact iff_of_true (.inr rfl) (isRegistration_unregister entries)
  | configuration items =>
      refine iff_of_false ?_ fun h => h items rfl
      show ¬ (Method.configuration = Method.registerCapability ∨
        Method.configuration = Method.unregisterCapability)
      decide

end ClientRequest

/-! ### Ledgers -/

namespace Ledger

/-- Formatting while typing is registered if the switch is to be on, and unregistered otherwise. -/
def follow (l : Ledger) (enable : Bool) : Ledger :=
  if enable then l.register Method.onTypeFormatting (some Session.onTypeFormattingOptions)
  else l.unregister Method.onTypeFormatting

/-- The ledger once a value that is requested of the switch is taken over. -/
def reconcile (l : Ledger) (requested : Option Bool) : Ledger :=
  if requested = some !l.formatOnType then
    { (if l.capabilities.supportsDynamicRegistration Method.onTypeFormatting then
        l.follow !l.formatOnType else l) with formatOnType := !l.formatOnType }
  else l

/-- The identifiers of one ledger stand for those of the other, and the numbers of the requests that
wait are exchanged. -/
structure Alike (R : RegistrationId → RegistrationId → Prop) (σ : Equiv.Perm Int)
    (l l' : Ledger) : Prop where
  recorded : ∀ m, List.Forall₂ (Attempt.Alike R) (l.recorded m) (l'.recorded m)
  waiting : ∀ n, Option.Rel (ClientRequest.Alike R) (l.waiting n) (l'.waiting (σ n))
  sent : List.Forall₂ (Request.Alike R) (l.sent.filter fun request => request.IsRegistration)
    (l'.sent.filter fun request => request.IsRegistration)
  supply : ∀ k, R (l.supply k) (l'.supply k)
  drawn : l.drawn = l'.drawn
  capabilities : l.capabilities = l'.capabilities
  formatOnType : l.formatOnType = l'.formatOnType

namespace Alike
variable {σ : Equiv.Perm Int} {l l' : Ledger} {method : String}

theorem draw (h : l.Alike R σ l') : l.draw.Alike R σ l'.draw :=
  ⟨h.recorded, h.waiting, h.sent, h.supply, congrArg (· + 1) h.drawn, h.capabilities,
    h.formatOnType⟩

theorem switch (h : l.Alike R σ l') (formatOnType : Bool) :
    Alike R σ { l with formatOnType := formatOnType } { l' with formatOnType := formatOnType } :=
  ⟨h.recorded, h.waiting, h.sent, h.supply, h.drawn, h.capabilities, rfl⟩

theorem record (h : l.Alike R σ l') {attempts attempts' : List Attempt}
    (ha : List.Forall₂ (Attempt.Alike R) attempts attempts') :
    (l.record method attempts).Alike R σ (l'.record method attempts') := by
  refine ⟨fun m => ?_, h.waiting, h.sent, h.supply, h.drawn, h.capabilities, h.formatOnType⟩
  by_cases hm : m = method
  · rw [hm, recorded_record_self, recorded_record_self]
    exact ha
  · rw [recorded_record_of_ne _ hm, recorded_record_of_ne _ hm]
    exact h.recorded m

/-- Requests that are alike may go out under numbers that are exchanged. -/
theorem dispatch (h : l.Alike R σ l') (hnext : l'.nextRequestId = σ l.nextRequestId)
    {asked other : ClientRequest} (ha : asked.Alike R other) (hasked : asked.IsRegistration)
    (hother : other.IsRegistration) : (l.dispatch asked).Alike R σ (l'.dispatch other) := by
  refine ⟨h.recorded, fun n => ?_, ?_, h.supply, h.drawn, h.capabilities, h.formatOnType⟩
  · rw [waiting_dispatch, waiting_dispatch, hnext]
    simp only [σ.injective.eq_iff]
    split_ifs
    · exact .some ha
    · exact h.waiting n
  · show List.Forall₂ _ (List.filter _ (l.sent ++ [asked.toRequest l.nextRequestId]))
      (List.filter _ (l'.sent ++ [other.toRequest l'.nextRequestId]))
    have hfirst := ClientRequest.isRegistration_toRequest (n := l.nextRequestId).mpr hasked
    have hsecond := ClientRequest.isRegistration_toRequest (n := l'.nextRequestId).mpr hother
    rw [List.filter_append, List.filter_append, List.filter_singleton, List.filter_singleton]
    simp only [hfirst, hsecond, decide_true]
    exact List.rel_append h.sent (.cons ⟨asked, other, _, _, rfl, rfl, ha⟩ .nil)

theorem fresh (h : l.Alike R σ l') : R l.fresh l'.fresh := by
  rw [Ledger.fresh, Ledger.fresh, h.drawn]
  exact h.supply _

theorem register (h : l.Alike R σ l') (hnext : l'.nextRequestId = σ l.nextRequestId)
    (options : Option Json) :
    (l.register method options).Alike R σ (l'.register method options) := by
  have hasked : (ClientRequest.register [⟨l.fresh, method, options⟩]).Alike R
      (.register [⟨l'.fresh, method, options⟩]) := .register (.cons ⟨h.fresh, rfl, rfl⟩ .nil)
  refine (h.draw.dispatch hnext hasked (ClientRequest.isRegistration_register _)
    (ClientRequest.isRegistration_register _)).record ?_
  exact List.rel_append (h.recorded method) (.cons ⟨.some h.fresh, rfl, rfl⟩ .nil)

theorem live (h : l.Alike R σ l') (method : String) :
    List.Forall₂ R (l.live method) (l'.live method) :=
  List.rel_filterMap (fun _ _ ha => ha.liveId?) (h.recorded method)

theorem unregister (h : l.Alike R σ l') (hnext : l'.nextRequestId = σ l.nextRequestId) :
    (l.unregister method).Alike R σ (l'.unregister method) := by
  have hlive := h.live method
  have hnil : l.live method = [] ↔ l'.live method = [] := by
    rw [← List.length_eq_zero_iff, ← List.length_eq_zero_iff, hlive.length_eq]
  unfold Ledger.unregister
  rw [if_congr hnil rfl rfl]
  split_ifs
  · exact h
  · have hasked : (ClientRequest.unregister ((l.live method).map fun id => ⟨id, method⟩)).Alike R
        (.unregister ((l'.live method).map fun id => ⟨id, method⟩)) :=
      .unregister (List.rel_map (fun _ _ hid => ⟨hid, rfl⟩) hlive)
    refine (h.dispatch hnext hasked (ClientRequest.isRegistration_unregister _)
      (ClientRequest.isRegistration_unregister _)).record ?_
    exact List.rel_map (fun _ _ ha => ha.markLive) (h.recorded method)

/-- Ledgers that are alike stay so when the same value is requested of their switches. -/
theorem reconcile (h : l.Alike R σ l') (hnext : l'.nextRequestId = σ l.nextRequestId)
    (requested : Option Bool) : (l.reconcile requested).Alike R σ (l'.reconcile requested) := by
  have hfollow : ∀ enable, (l.follow enable).Alike R σ (l'.follow enable) := by
    intro enable
    unfold Ledger.follow
    split_ifs
    · exact h.register hnext _
    · exact h.unregister hnext
  unfold Ledger.reconcile
  rw [← h.formatOnType, ← h.capabilities]
  split_ifs
  · exact (hfollow _).switch _
  · exact h.switch _
  · exact h

end Alike

end Ledger

/-! ### The view of a session -/

theorem Session.alike_attemptsFor {s s' : Session} {method : String}
    (h : List.Forall₂ (Attempt.Alike R) (s.registry.recorded method)
      (s'.registry.recorded method)) :
    List.Forall₂ (Attempt.Alike R) (s.attemptsFor method) (s'.attemptsFor method) := by
  unfold attemptsFor Registry.attemptsFor
  generalize s.registry.recorded method = attempts at h ⊢
  generalize s'.registry.recorded method = attempts' at h ⊢
  cases h with
  | nil => exact .cons ⟨.none, rfl, rfl⟩ .nil
  | cons hfirst hrest => exact .cons hfirst hrest

end EditorSession
