import EditorSession.Proofs.Runs
import Mathlib.Data.Finset.Basic

/-! # Agreement with the client

A client takes the requests in the order in which they went out and holds a set of registration
identifiers: what it accepts to register is added, what it accepts to unregister is removed
(`Client.held`).  In between, the session knows of the attempts that count as registered and of the
accepted requests whose answers are still to come; `Ledger.Agrees` says how the client's set follows
from them.  Where no such answer is to come, the set is that of the registered attempts
(`Session.registered_eq_held`). -/

namespace EditorSession

/-! ### The client -/

/-- The identifiers in a list that is a parameter of the request. -/
def Request.identifiers (request : Request) (parameter : String) : List RegistrationId :=
  (((request.params.bind (Json.member? parameter)).bind Json.items?).getD []).filterMap fun item =>
    ((item.member? "id").bind Json.string?).map RegistrationId.mk

namespace Client

/-- What the client holds after a request that it accepts. -/
def accept (held : Finset RegistrationId) (request : Request) : Finset RegistrationId :=
  if request.method = Method.registerCapability then
    held ∪ (request.identifiers "registrations").toFinset
  else if request.method = Method.unregisterCapability then
    held \ (request.identifiers "unregisterations").toFinset
  else held

/-- What the client holds after requests, of which it accepts those with certain numbers. -/
def held (verdict : Int → Bool) (requests : List Request) : Finset RegistrationId :=
  requests.foldl (fun held request => if verdict request.id then accept held request else held) ∅

end Client

namespace ClientRequest

/-- The request registers something under the identifier. -/
def Adds (asked : ClientRequest) (id : RegistrationId) : Prop :=
  ∃ registrations, asked = register registrations ∧ ∃ r ∈ registrations, r.id = id

/-- The request unregisters what is registered under the identifier. -/
def Removes (asked : ClientRequest) (id : RegistrationId) : Prop :=
  ∃ entries, asked = unregister entries ∧ ∃ u ∈ entries, u.id = id

theorem adds_register_singleton {r : Registration} {id : RegistrationId} :
    (register [r]).Adds id ↔ r.id = id := by
  simp [Adds]

end ClientRequest

namespace Client
variable {verdict : Int → Bool} {asked : ClientRequest} {id : RegistrationId}

theorem identifiers_register (registrations : List Registration) (n : Int) :
    ((ClientRequest.register registrations).toRequest n).identifiers "registrations" =
      registrations.map Registration.id := by
  have hitems : (((ClientRequest.register registrations).toRequest n).params.bind
      (Json.member? "registrations")).bind Json.items? = some (registrations.map (·.toJson)) := rfl
  rw [Request.identifiers, hitems, Option.getD_some, List.filterMap_map, ← List.filterMap_eq_map]
  rfl

theorem identifiers_unregister (entries : List Unregistration) (n : Int) :
    ((ClientRequest.unregister entries).toRequest n).identifiers "unregisterations" =
      entries.map Unregistration.id := by
  have hitems : (((ClientRequest.unregister entries).toRequest n).params.bind
      (Json.member? "unregisterations")).bind Json.items? = some (entries.map (·.toJson)) := rfl
  rw [Request.identifiers, hitems, Option.getD_some, List.filterMap_map, ← List.filterMap_eq_map]
  rfl

/-- An accepted request adds what it registers and removes what it unregisters. -/
theorem mem_accept_iff (held : Finset RegistrationId) (asked : ClientRequest) (n : Int) :
    id ∈ accept held (asked.toRequest n) ↔ (id ∈ held ∨ asked.Adds id) ∧ ¬ asked.Removes id := by
  cases asked with
  | register registrations =>
      have hmethod : ((ClientRequest.register registrations).toRequest n).method =
        Method.registerCapability := rfl
      rw [accept, if_pos hmethod, identifiers_register]
      simp [ClientRequest.Adds, ClientRequest.Removes]
  | unregister entries =>
      have hmethod : ((ClientRequest.unregister entries).toRequest n).method =
        Method.unregisterCapability := rfl
      rw [accept, hmethod, if_neg (by decide), if_pos rfl, identifiers_unregister]
      simp [ClientRequest.Adds, ClientRequest.Removes]
  | configuration items =>
      have hmethod : ((ClientRequest.configuration items).toRequest n).method =
        Method.configuration := rfl
      rw [accept, hmethod, if_neg (by decide), if_neg (by decide)]
      simp [ClientRequest.Adds, ClientRequest.Removes]

theorem mem_held_append_iff (requests : List Request) (asked : ClientRequest) (n : Int) :
    id ∈ held verdict (requests ++ [asked.toRequest n]) ↔
      (id ∈ held verdict requests ∨ (verdict n = true ∧ asked.Adds id)) ∧
        ¬ (verdict n = true ∧ asked.Removes id) := by
  have hid : (asked.toRequest n).id = n := rfl
  rw [held, List.foldl_append, List.foldl_cons, List.foldl_nil, hid, ← held]
  cases hv : verdict n with
  | true =>
      rw [if_pos rfl, mem_accept_iff]
      simp
  | false => simp

end Client

/-! ### What the session knows of the client -/

namespace Ledger

/-- Some attempt on record with the identifier counts as registered. -/
def Registered (l : Ledger) (id : RegistrationId) : Prop :=
  ∃ m, ∃ a ∈ l.recorded m, a.registered = true ∧ a.id = some id

/-- A request to register under the identifier, which the client accepts, waits for its answer. -/
def Adding (l : Ledger) (verdict : Int → Bool) (id : RegistrationId) : Prop :=
  l.Awaits fun n asked => verdict n = true ∧ asked.Adds id

/-- A request to unregister the identifier, which the client accepts, waits for its answer. -/
def Removing (l : Ledger) (verdict : Int → Bool) (id : RegistrationId) : Prop :=
  l.Awaits fun n asked => verdict n = true ∧ asked.Removes id

/-- The client's set is what follows from the registered attempts and the answers still to come. -/
structure Agrees (verdict : Int → Bool) (l : Ledger) : Prop where
  /-- The attempt of a register request stays on record, unregistered, until the answer. -/
  unregistered : ∀ n r, l.waiting n = some (.register [r]) →
    ∃ a ∈ l.recorded r.method, a.id = some r.id ∧ a.registered = false
  holds : ∀ id, id ∈ Client.held verdict l.sent ↔
    (l.Registered id ∨ l.Adding verdict id) ∧ ¬ l.Removing verdict id

section changes
variable {l : Ledger} {verdict : Int → Bool} {asked : ClientRequest} {id : RegistrationId}
  {n : Int} {accepted : Bool} {method : String}

theorem adding_dispatch (h : l.Sound) : (l.dispatch asked).Adding verdict id ↔
    l.Adding verdict id ∨ (verdict l.nextRequestId = true ∧ asked.Adds id) :=
  awaits_dispatch h.waiting_nextRequestId

theorem removing_dispatch (h : l.Sound) : (l.dispatch asked).Removing verdict id ↔
    l.Removing verdict id ∨ (verdict l.nextRequestId = true ∧ asked.Removes id) :=
  awaits_dispatch h.waiting_nextRequestId

theorem adding_iff_of_waiting (hn : l.waiting n = some asked) : l.Adding verdict id ↔
    (l.dismiss n).Adding verdict id ∨ (verdict n = true ∧ asked.Adds id) :=
  awaits_iff_of_waiting hn

theorem removing_iff_of_waiting (hn : l.waiting n = some asked) : l.Removing verdict id ↔
    (l.dismiss n).Removing verdict id ∨ (verdict n = true ∧ asked.Removes id) :=
  awaits_iff_of_waiting hn

theorem mentions_of_removing (h : l.Removing verdict id) :
    ∃ m, l.Mentions m id := by
  obtain ⟨n, _, hn, -, entries, rfl, ⟨id, m⟩, hu, rfl⟩ := h
  exact ⟨m, .inr ⟨n, _, hn, hu⟩⟩

/-- Attempts may be replaced by others of which the same ones are registered. -/
theorem registered_record {attempts : List Attempt}
    (h : ∀ id, (∃ a ∈ attempts, a.registered = true ∧ a.id = some id) ↔
      ∃ a ∈ l.recorded method, a.registered = true ∧ a.id = some id) :
    (l.record method attempts).Registered id ↔ l.Registered id := by
  unfold Registered
  refine exists_congr fun m => ?_
  by_cases hm : m = method
  · rw [hm, recorded_record_self]
    exact h id
  · rw [recorded_record_of_ne l hm]

end changes

/-! ### Moves keep the agreement -/

namespace Agrees
variable {l : Ledger} {verdict : Int → Bool} {asked : ClientRequest} {n : Int} {accepted : Bool}
  {method : String}

/-- The client takes a request that registers nothing which it is about to unregister. -/
theorem holds_dispatch (h : l.Agrees verdict) (hs : l.Sound)
    (hfree : ∀ id, asked.Adds id → ¬ l.Removing verdict id) (id : RegistrationId) :
    id ∈ Client.held verdict (l.dispatch asked).sent ↔
      (l.Registered id ∨ (l.dispatch asked).Adding verdict id) ∧
        ¬ (l.dispatch asked).Removing verdict id := by
  have hfree := hfree id
  rw [show (l.dispatch asked).sent = l.sent ++ [asked.toRequest l.nextRequestId] from rfl,
    Client.mem_held_append_iff, h.holds, adding_dispatch hs, removing_dispatch hs]
  tauto

theorem register (h : l.Agrees verdict) (hs : l.Sound) (hi : Function.Injective l.supply)
    (method : String) (options : Option Json) : (l.register method options).Agrees verdict where
  unregistered := fun n r hn => by
    rcases waiting_dispatch_eq_some hn with ⟨-, he⟩ | ⟨-, hw⟩
    · cases he
      refine ⟨.start l.fresh, ?_, rfl, rfl⟩
      rw [Ledger.register, recorded_record_self]
      exact List.mem_append_right _ (List.mem_singleton_self _)
    · obtain ⟨a, ha, hid, hreg⟩ := h.unregistered n r hw
      refine ⟨a, ?_, hid, hreg⟩
      by_cases hm : r.method = method
      · rw [hm, Ledger.register, recorded_record_self]
        exact List.mem_append_left _ (hm ▸ ha)
      · rw [Ledger.register, recorded_record_of_ne _ hm]
        exact ha
  holds := fun id => by
    have hfree : ∀ id, (ClientRequest.register [⟨l.fresh, method, options⟩]).Adds id →
        ¬ l.draw.Removing verdict id := by
      intro id hadds hremoves
      obtain rfl := ClientRequest.adds_register_singleton.mp hadds
      obtain ⟨m, hm⟩ := mentions_of_removing hremoves
      exact hs.not_mentions_fresh hi m hm
    have hdraw : l.draw.Agrees verdict := ⟨h.unregistered, h.holds⟩
    rw [Ledger.register, registered_record]
    · exact hdraw.holds_dispatch hs.draw hfree id
    · intro id
      show (∃ a ∈ l.recorded method ++ [.start l.fresh], _) ↔ ∃ a ∈ l.recorded method, _
      simp [Attempt.start, or_and_right, exists_or]

theorem unregister (h : l.Agrees verdict) (hs : l.Sound) (method : String) :
    (l.unregister method).Agrees verdict := by
  unfold Ledger.unregister
  split_ifs
  · exact h
  constructor
  case unregistered =>
    intro n r hn
    rcases waiting_dispatch_eq_some hn with ⟨-, he⟩ | ⟨-, hw⟩
    · cases he
    · obtain ⟨a, ha, hid, hreg⟩ := h.unregistered n r hw
      by_cases hm : r.method = method
      · refine ⟨Session.markLive a, ?_, by rw [Session.id_markLive, hid], ?_⟩
        · rw [hm, recorded_record_self]
          exact List.mem_map_of_mem (hm ▸ ha)
        · rw [Session.registered_markLive, hreg]
      · refine ⟨a, ?_, hid, hreg⟩
        rw [recorded_record_of_ne _ hm]
        exact ha
  case holds =>
    intro id
    rw [registered_record]
    · exact h.holds_dispatch hs (by rintro id ⟨rs, hrs, -⟩; cases hrs) id
    · intro id
      show _ ↔ ∃ a ∈ l.recorded method, _
      simp

theorem pull (h : l.Agrees verdict) (hs : l.Sound) (items : List ConfigurationItem) :
    (l.dispatch (.configuration items)).Agrees verdict where
  unregistered := fun n r hn => by
    rcases waiting_dispatch_eq_some hn with ⟨-, he⟩ | ⟨-, hw⟩
    · cases he
    · exact h.unregistered n r hw
  holds := h.holds_dispatch hs (by rintro id ⟨rs, hrs, -⟩; cases hrs)

/-- The answer to a register request registers what the client did. -/
theorem registered_settle_register (h : l.Agrees verdict) (hs : l.Sound) {r : Registration}
    (hn : l.waiting n = some (.register [r])) (id : RegistrationId) :
    (l.settle (.register [r]) accepted).Registered id ↔
      l.Registered id ∨ (accepted = true ∧ r.id = id) := by
  obtain ⟨a, ha, hid, hreg⟩ := h.unregistered n r hn
  have hname : (ClientRequest.register [r]).Names r.method r.id :=
    ClientRequest.names_register_singleton.mpr ⟨rfl, rfl⟩
  constructor
  · rintro ⟨m, b, hb, hbreg, hbid⟩
    obtain ⟨c, hc, hcb⟩ := mem_settle_iff.mp hb
    by_cases hcc : (ClientRequest.register [r]).Concerns m c
    · rw [ClientRequest.settle_of_concerns hcc] at hcb
      obtain ⟨id', hid', hn'⟩ := hcc
      obtain ⟨-, rfl⟩ := ClientRequest.names_register_singleton.mp hn'
      cases hcb
      exact .inr ⟨hbreg, Option.some.inj (hid'.symm.trans hbid)⟩
    · rw [ClientRequest.settle_of_not_concerns hcc] at hcb
      cases hcb
      exact .inl ⟨m, b, hc, hbreg, hbid⟩
  · rintro (⟨m, c, hc, hcreg, hcid⟩ | ⟨rfl, rfl⟩)
    · -- an attempt that is registered already is not the one that the request is about
      have hcc : ¬ (ClientRequest.register [r]).Concerns m c := by
        rintro ⟨id', hid', hn'⟩
        obtain ⟨rfl, rfl⟩ := ClientRequest.names_register_singleton.mp hn'
        have hac : a = c := List.inj_on_of_nodup_map (hs.distinct r.method) ha hc
          (hid.trans hid'.symm)
        rw [hac, hcreg] at hreg
        cases hreg
      exact ⟨m, c, mem_settle_iff.mpr ⟨c, hc, ClientRequest.settle_of_not_concerns hcc⟩, hcreg,
        hcid⟩
    · refine ⟨r.method, a.settle true, mem_settle_iff.mpr ⟨a, ha, ?_⟩, rfl, hid⟩
      exact ClientRequest.settle_of_concerns ⟨r.id, hid, hname⟩

/-- The answer to an unregister request unregisters what the client did. -/
theorem registered_settle_unregister (hs : l.Sound) {entries : List Unregistration}
    (hn : l.waiting n = some (.unregister entries)) (id : RegistrationId) :
    (l.settle (.unregister entries) accepted).Registered id ↔
      l.Registered id ∧ ¬ (accepted = true ∧ ∃ u ∈ entries, u.id = id) := by
  constructor
  · rintro ⟨m, b, hb, hbreg, hbid⟩
    obtain ⟨c, hc, hcb⟩ := mem_settle_iff.mp hb
    by_cases hcc : (ClientRequest.unregister entries).Concerns m c
    · rw [ClientRequest.settle_of_concerns hcc, ClientRequest.verdict] at hcb
      split_ifs at hcb with hacc hcreg
      cases hcb
      exact ⟨⟨m, c, hc, hcreg, hbid⟩, fun h => hacc h.1⟩
    · rw [ClientRequest.settle_of_not_concerns hcc] at hcb
      cases hcb
      refine ⟨⟨m, b, hc, hbreg, hbid⟩, ?_⟩
      rintro ⟨-, ⟨id, m'⟩, hu, rfl⟩
      have hm : m = m' := hs.home m m' id (.inl ⟨b, hc, hbid⟩) (.inr ⟨n, _, hn, hu⟩)
      exact hcc ⟨id, hbid, hm ▸ hu⟩
  · rintro ⟨⟨m, c, hc, hcreg, hcid⟩, hkept⟩
    by_cases hcc : (ClientRequest.unregister entries).Concerns m c
    · have hacc : accepted ≠ true := by
        rintro rfl
        obtain ⟨id', hid', hu⟩ := hcc
        cases hcid.symm.trans hid'
        exact hkept ⟨rfl, _, hu, rfl⟩
      refine ⟨m, c.withState .complete, mem_settle_iff.mpr ⟨c, hc, ?_⟩, hcreg, hcid⟩
      rw [ClientRequest.settle_of_concerns hcc, ClientRequest.verdict, if_neg hacc, if_pos hcreg]
    · exact ⟨m, c, mem_settle_iff.mpr ⟨c, hc, ClientRequest.settle_of_not_concerns hcc⟩, hcreg,
        hcid⟩

/-- The answer to a waiting request registers and unregisters what the client did. -/
theorem registered_settle (h : l.Agrees verdict) (hs : l.Sound) (hn : l.waiting n = some asked)
    (id : RegistrationId) : (l.settle asked accepted).Registered id ↔
      (l.Registered id ∨ (accepted = true ∧ asked.Adds id)) ∧
        ¬ (accepted = true ∧ asked.Removes id) := by
  cases asked with
  | register rs =>
      obtain ⟨r, rfl⟩ := hs.single n rs hn
      rw [h.registered_settle_register hs hn]
      simp [ClientRequest.Adds, ClientRequest.Removes]
  | unregister us =>
      rw [registered_settle_unregister hs hn]
      simp [ClientRequest.Adds, ClientRequest.Removes]
  | configuration items =>
      rw [settle_configuration]
      simp [ClientRequest.Adds, ClientRequest.Removes]

/-- What was to be added or removed counts as before once it is. -/
theorem still_holds_iff {present adding added removing removed : Prop} (h : removed → ¬ adding) :
    (present ∨ adding ∨ added) ∧ ¬ (removing ∨ removed) ↔
      ((present ∨ added) ∧ ¬ removed ∨ adding) ∧ ¬ removing := by
  tauto

theorem answer (h : l.Agrees verdict) (hs : l.Sound) (hn : l.waiting n = some asked)
    (hv : asked.IsRegistration → accepted = verdict n)
    (horder : ∀ k r, l.waiting k = some (.register [r]) → ¬ asked.Removes r.id) :
    (l.answer n accepted).Agrees verdict := by
  rw [answer_of_waiting hn]
  constructor
  case unregistered =>
    intro k r hk
    obtain ⟨hkn, hw⟩ := waiting_dismiss_eq_some hk
    obtain ⟨a, ha, hid, hreg⟩ := h.unregistered k r hw
    have hc : ¬ asked.Concerns r.method a := by
      rintro ⟨id, hid', hname⟩
      cases hid.symm.trans hid'
      cases asked with
      | register rs =>
          obtain ⟨r', rfl⟩ := hs.single n rs hn
          obtain ⟨-, he⟩ := ClientRequest.names_register_singleton.mp hname
          exact hkn (hs.once k n r r' hw hn he.symm)
      | unregister us => exact horder k r hw ⟨us, rfl, _, hname, rfl⟩
      | configuration items => exact hname
    exact ⟨a, mem_settle_iff.mpr ⟨a, ha, ClientRequest.settle_of_not_concerns hc⟩, hid, hreg⟩
  case holds =>
    intro id
    have hreg : (l.settle asked accepted).Registered id ↔ _ := h.registered_settle hs hn id
    have horder' : asked.Removes id → ¬ (l.dismiss n).Adding verdict id := by
      rintro hr ⟨k, other, hk, -, rs, rfl, hadds⟩
      obtain ⟨-, hw⟩ := waiting_dismiss_eq_some hk
      obtain ⟨r, rfl⟩ := hs.single k rs hw
      obtain rfl : r.id = id := by simpa using hadds
      exact horder k r hw hr
    have hnone : ¬ asked.IsRegistration → ¬ asked.Adds id ∧ ¬ asked.Removes id := by
      intro hnot
      constructor
      · rintro ⟨rs, rfl, -⟩
        exact hnot (ClientRequest.isRegistration_register rs)
      · rintro ⟨us, rfl, -⟩
        exact hnot (ClientRequest.isRegistration_unregister us)
    show id ∈ Client.held verdict l.sent ↔ ((l.settle asked accepted).Registered id ∨
      (l.dismiss n).Adding verdict id) ∧ ¬ (l.dismiss n).Removing verdict id
    rw [h.holds, hreg, adding_iff_of_waiting hn, removing_iff_of_waiting hn]
    by_cases hisreg : asked.IsRegistration
    · rw [hv hisreg]
      exact still_holds_iff fun hr => horder' hr.2
    · simp only [hnone hisreg, and_false, or_false, not_false_iff, and_true]

/-- A move that settles nothing out of turn keeps the agreement. -/
theorem after (h : l.Agrees verdict) (hs : l.Sound) (hi : Function.Injective l.supply)
    {move : Move} (hmove : ∀ asked accepted, move ≠ .settle asked accepted) :
    (l.after move).Agrees verdict := by
  cases move with
  | declare capabilities => exact ⟨h.unregistered, h.holds⟩
  | register method options => exact h.register hs hi method options
  | draw => exact ⟨h.unregistered, h.holds⟩
  | unregister method => exact h.unregister hs method
  | pull items => exact h.pull hs items
  | settle asked accepted => exact absurd rfl (hmove asked accepted)
  | toggle =>
      show l.toggle.Agrees verdict
      unfold toggle
      split_ifs
      · have hu := h.unregister hs Method.onTypeFormatting
        exact ⟨hu.unregistered, hu.holds⟩
      · have hr := h.register hs hi Method.onTypeFormatting (some Session.onTypeFormattingOptions)
        exact ⟨hr.unregistered, hr.holds⟩
  | flip => exact ⟨h.unregistered, h.holds⟩

end Agrees

end Ledger

/-! ### Runs against a client -/

namespace Session

/-- Answers are only handed over as responses, and they say what the client did: a response to a
register or unregister request has a result exactly where the client accepted the request, and it
does not overtake the answer to the registration of what it unregisters. -/
def Faithful (verdict : Int → Bool) (s : Session) : Operation → Prop
  | .onRegister _ _ | .onUnregister _ _ => False
  | .handle response =>
    ∀ n asked, response.id = some n → s.outstandingRequest n = some asked →
      asked.IsRegistration → response.hasResult = verdict n ∧
        ∀ k registrations, s.outstandingRequest k = some (.register registrations) →
          ∀ r ∈ registrations, ¬ asked.Removes r.id
  | _ => True

section runs
variable {verdict : Int → Bool} {refusal : Nat → Option TransportError}
  {supply : Nat → RegistrationId} {config : Config} {s : Session}

theorem agrees_start : (start ⟨refusal, []⟩ supply config).ledger.Agrees verdict where
  unregistered := fun _ _ hn => nomatch hn
  holds := fun id => by
    constructor
    · intro h
      cases h
    · rintro ⟨⟨_, _, ha, -⟩ | ⟨_, _, hn, -⟩, -⟩
      · cases ha
      · cases hn

theorem agrees_taking {operation : Operation} (hallowed : s.Faithful verdict operation)
    (hs : s.ledger.Sound) (h : s.ledger.Agrees verdict) :
    (s.ledger.taking operation).Agrees verdict := by
  rcases s.ledger.taking_cases operation with htake | ⟨response, n, asked, rfl, hid, hn, htake⟩
  · rw [htake]
    exact h
  · rw [htake]
    refine h.answer hs hn (fun hreg => (hallowed n asked hid hn hreg).1) ?_
    intro k r hk hr
    have hreg : asked.IsRegistration := by
      obtain ⟨us, rfl, -⟩ := hr
      exact ClientRequest.isRegistration_unregister us
    exact (hallowed n asked hid hn hreg).2 k [r] hk r (List.mem_singleton_self r) hr

/-- The client and the session agree on what is registered wherever no answer is to come: against a
client that answers for what it did, and not about an unregistration before the registration, the
registered attempts are those that the client holds. -/
theorem registered_eq_held (hi : Function.Injective supply)
    (h : Arises (Faithful verdict) (start ⟨refusal, []⟩ supply config) s)
    (hquiet : ∀ n asked, s.outstandingRequest n = some asked → ¬ asked.IsRegistration) :
    {id | ∃ method, ∃ a ∈ s.attemptsFor method, a.registered = true ∧ a.id = some id} =
      (Client.held verdict s.connection.sent : Set RegistrationId) := by
  obtain ⟨hs, -, hagrees⟩ := h.keeps hi (P := fun l => l.Agrees verdict) agrees_start
    (fun s operation hallowed hs h => agrees_taking hallowed hs h) (by
      intro s operation hallowed _ l move hmove hl hli hP
      refine hP.after hl hli ?_
      rintro asked accepted rfl
      cases hmove with
      | onRegister => exact hallowed
      | onUnregister => exact hallowed
      | settings _ hf => exact hf)
  ext id
  have hadds : ¬ s.ledger.Adding verdict id := by
    rintro ⟨n, _, hn, -, rs, rfl, -⟩
    exact hquiet n _ hn (ClientRequest.isRegistration_register rs)
  have hremoves : ¬ s.ledger.Removing verdict id := by
    rintro ⟨n, _, hn, -, us, rfl, -⟩
    exact hquiet n _ hn (ClientRequest.isRegistration_unregister us)
  have hheld := hagrees.holds id
  rw [or_iff_left hadds, and_iff_left hremoves] at hheld
  rw [Set.mem_ofPred_eq, Finset.mem_coe]
  refine Iff.trans ?_ hheld.symm
  refine exists_congr fun method => ?_
  constructor
  · rintro ⟨a, ha, hreg, hid⟩
    rcases mem_attemptsFor ha with ha | rfl
    · exact ⟨a, ha, hreg, hid⟩
    · cases hid
  · rintro ⟨a, ha, hreg, hid⟩
    exact ⟨a, mem_attemptsFor_of_mem ha, hreg, hid⟩

end runs

/-- Of two registrations the client refuses the second, and holds the first. -/
theorem registered_eq_held_of_one_refused :
    let s := (start .accepting .ofLength .default).run [.register "a/b" none,
      .register "c/d" none, .handle (.success 1 .null), .handle (.failure 2 0 "")]
    {id | ∃ method, ∃ a ∈ s.attemptsFor method, a.registered = true ∧ a.id = some id} =
        (Client.held (· == 1) s.connection.sent : Set RegistrationId) ∧
      Client.held (· == 1) s.connection.sent = {.ofLength 0} := by
  intro s
  have hsent : Arises (Faithful (· == 1)) (start .accepting .ofLength .default)
      ((start .accepting .ofLength .default).run [.register "a/b" none, .register "c/d" none]) :=
    (Arises.start.step _ trivial).step _ trivial
  have hanswered : Arises (Faithful (· == 1)) (start .accepting .ofLength .default) s := by
    refine (hsent.step (.handle (.success 1 .null)) ?_).step (.handle (.failure 2 0 "")) ?_
    · intro n asked hid hw _
      cases hid
      cases Option.some.inj hw
      exact ⟨rfl, fun _ _ _ _ _ ⟨_, h, _⟩ => nomatch h⟩
    · intro n asked hid hw _
      cases hid
      cases Option.some.inj hw
      exact ⟨rfl, fun _ _ _ _ _ ⟨_, h, _⟩ => nomatch h⟩
  constructor
  · refine registered_eq_held RegistrationId.ofLength_injective hanswered ?_
    intro n asked h
    cases h
  · decide

end Session

end EditorSession
