import EditorSession.Proofs.Attempts
import EditorSession.Session.Operation
import Mathlib.Logic.Function.Basic

/-! # The ledger of a session

The ledger is a session without its log, its tables read through their views and its connection
reduced to the requests that went out.  It changes in a few kinds of moves, and each move is a
function of the ledger (`Ledger.after`): a request goes out, an answer is taken in, the switch for
formatting is turned.  An answer acts on single attempts: `ClientRequest.settle` says what it leaves
of an attempt that the request is about. -/

namespace EditorSession

/-! ### What an answer does to an attempt -/

namespace ClientRequest

/-- The request is about the attempt to register that method under that identifier. -/
def Names (asked : ClientRequest) (method : String) (id : RegistrationId) : Prop :=
  match asked with
  | register registrations => ∃ r ∈ registrations, r.method = method ∧ r.id = id
  | unregister entries => ⟨id, method⟩ ∈ entries
  | configuration _ => False

instance (asked : ClientRequest) (method : String) (id : RegistrationId) :
    Decidable (asked.Names method id) :=
  match asked with
  | register registrations =>
    inferInstanceAs (Decidable (∃ r ∈ registrations, r.method = method ∧ r.id = id))
  | unregister entries => inferInstanceAs (Decidable ((⟨id, method⟩ : Unregistration) ∈ entries))
  | configuration _ => inferInstanceAs (Decidable False)

/-- The request is about that attempt to register the method. -/
def Concerns (asked : ClientRequest) (method : String) (a : Attempt) : Prop :=
  ∃ id, a.id = some id ∧ asked.Names method id

instance (asked : ClientRequest) (method : String) (a : Attempt) :
    Decidable (asked.Concerns method a) :=
  match h : a.id with
  | none => isFalse fun ⟨_, hid, _⟩ => by rw [h] at hid; cases hid
  | some id => decidable_of_iff (asked.Names method id)
      ⟨fun hn => ⟨id, h, hn⟩, fun ⟨_, hid, hn⟩ => by rw [h] at hid; cases hid; exact hn⟩

/-- The request registers or unregisters capabilities. -/
def IsRegistration (asked : ClientRequest) : Prop := ∀ items, asked ≠ configuration items

/-- What the answer leaves of an attempt that the request is about. -/
def verdict (asked : ClientRequest) (accepted : Bool) (a : Attempt) : Option Attempt :=
  match asked with
  | register _ => some (a.settle accepted)
  | unregister _ =>
    if accepted then none
    else if a.registered then some (a.withState .complete) else none
  | configuration _ => some a

/-- What the answer leaves of an attempt to register the method. -/
def settle (asked : ClientRequest) (accepted : Bool) (method : String) (a : Attempt) :
    Option Attempt :=
  if asked.Concerns method a then asked.verdict accepted a else some a

variable {asked first rest whole : ClientRequest} {accepted : Bool} {method : String}
  {a b : Attempt}

theorem isRegistration_register (registrations : List Registration) :
    (register registrations).IsRegistration := by
  intro items h
  cases h

theorem isRegistration_unregister (entries : List Unregistration) :
    (unregister entries).IsRegistration := by
  intro items h
  cases h

theorem isRegistration_of_names {id : RegistrationId} (h : asked.Names method id) :
    asked.IsRegistration := by
  rintro items rfl
  exact h

theorem names_register_singleton {r : Registration} {id : RegistrationId} :
    (register [r]).Names method id ↔ r.method = method ∧ r.id = id := by
  simp [Names]

theorem concerns_congr (h : a.id = b.id) : asked.Concerns method a ↔ asked.Concerns method b := by
  simp [Concerns, h]

theorem keepsId_settle (asked : ClientRequest) (accepted : Bool) (method : String) :
    Attempts.KeepsId (asked.settle accepted method) := by
  intro a b h
  unfold settle verdict at h
  cases asked <;> grind [Attempt.id_settle, Attempt.id_withState]

/-- An attempt that is still pending after an answer is none that the answer was about. -/
theorem eq_of_settle_of_pending (h : asked.settle accepted method a = some b)
    (hb : b.state = .pending) : b = a ∧ ¬ asked.Concerns method a := by
  unfold settle at h
  by_cases hc : asked.Concerns method a
  · rw [if_pos hc] at h
    cases asked with
    | register registrations =>
        cases h
        cases hb
    | unregister entries =>
        simp only [verdict] at h
        split_ifs at h
        cases h
        cases hb
    | configuration items =>
        obtain ⟨id, -, hn⟩ := hc
        exact hn.elim
  · rw [if_neg hc] at h
    exact ⟨(Option.some.inj h).symm, hc⟩

theorem settle_of_concerns (h : asked.Concerns method a) :
    asked.settle accepted method a = asked.verdict accepted a := if_pos h

theorem settle_of_not_concerns (h : ¬ asked.Concerns method a) :
    asked.settle accepted method a = some a := if_neg h

/-- An attempt that an answer left is left as it is by the same answer. -/
theorem verdict_of_verdict_eq_some (h : asked.verdict accepted a = some b) :
    asked.verdict accepted b = some b := by
  cases asked with
  | register registrations =>
      cases h
      rfl
  | unregister entries =>
      simp only [verdict] at h ⊢
      split_ifs at h with hacc hreg
      cases h
      rw [if_neg hacc]
      exact if_pos hreg
  | configuration items => rfl

/-- Answers of one kind to several requests are taken in one after the other. -/
theorem settle_bind
    (hn : ∀ id, whole.Names method id ↔ first.Names method id ∨ rest.Names method id)
    (hf : first.verdict accepted = whole.verdict accepted)
    (hr : rest.verdict accepted = whole.verdict accepted) (a : Attempt) :
    (first.settle accepted method a).bind (rest.settle accepted method) =
      whole.settle accepted method a := by
  have hc : whole.Concerns method a ↔ first.Concerns method a ∨ rest.Concerns method a := by
    simp only [Concerns, hn, and_or_left, exists_or]
  by_cases hfirst : first.Concerns method a
  · rw [settle_of_concerns hfirst, settle_of_concerns (hc.mpr (.inl hfirst)), hf]
    cases hv : whole.verdict accepted a with
    | none => rfl
    | some b =>
        show rest.settle accepted method b = some b
        unfold settle
        rw [hr, verdict_of_verdict_eq_some hv, ite_self]
  · rw [settle_of_not_concerns hfirst]
    show rest.settle accepted method a = _
    unfold settle
    simp only [hc, hfirst, false_or, hr]

theorem settle_register_cons (r : Registration) (rs : List Registration) (a : Attempt) :
    ((register [r]).settle accepted method a).bind ((register rs).settle accepted method) =
      (register (r :: rs)).settle accepted method a := by
  refine settle_bind (fun id => ?_) ?_ ?_ a
  · simp [Names]
  · rfl
  · rfl

theorem settle_unregister_cons (u : Unregistration) (us : List Unregistration) (a : Attempt) :
    ((unregister [u]).settle accepted method a).bind ((unregister us).settle accepted method) =
      (unregister (u :: us)).settle accepted method a := by
  refine settle_bind (fun id => ?_) ?_ ?_ a
  · simp [Names]
  · rfl
  · rfl

end ClientRequest

/-! ### Attempts that are to be unregistered -/

namespace Session

theorem liveId?_eq_some_iff {a : Attempt} {id : RegistrationId} :
    liveId? a = some id ↔ a.id = some id ∧ a.isRejected = false := by
  unfold liveId?
  cases a.isRejected <;> simp

@[simp] theorem id_markLive (a : Attempt) : (markLive a).id = a.id := by
  unfold markLive
  split_ifs <;> rfl

@[simp] theorem registered_markLive (a : Attempt) : (markLive a).registered = a.registered := by
  unfold markLive
  split_ifs <;> rfl

theorem state_markLive_of_pending {a : Attempt} (h : a.state = .pending) :
    (markLive a).state = .pending := by
  unfold markLive
  split_ifs
  · rfl
  · exact h

theorem markLive_of_isRejected {a : Attempt} (h : a.isRejected = true) : markLive a = a := by
  simp [markLive, liveId?, h]

theorem map_fst_liveStates (attempts : List Attempt) :
    (liveStates attempts).map Prod.fst = attempts.filterMap liveId? := by
  unfold liveStates
  rw [List.map_filterMap]
  simp [Function.comp_def]

/-- Gives attempts their states back. -/
def resume (live : List (RegistrationId × AttemptState)) (attempts : List Attempt) :
    List Attempt :=
  live.foldl (fun attempts e => Attempts.update e.1 (Attempt.withState e.2) attempts) attempts

theorem recorded_restoreStates (r : Registry) (method other : String)
    (live : List (RegistrationId × AttemptState)) :
    (restoreStates r method live).recorded other =
      if other = method then resume live (r.recorded method) else r.recorded other := by
  induction live generalizing r with
  | nil =>
      show r.recorded other = _
      split_ifs with h
      · rw [h]
        rfl
      · rfl
  | cons e live ih =>
      show (restoreStates (r.setState method e.1 e.2) method live).recorded other = _
      rw [ih, Registry.recorded_setState, Registry.recorded_setState, if_pos rfl]
      split_ifs <;> rfl

/-- Marking attempts as pending and giving them their states back changes nothing.  The induction
runs over the attempts that are still to be given their states, behind those that have them. -/
theorem resume_liveStates (done rest : List Attempt)
    (hd : ((done ++ rest).map Attempt.id).Nodup) :
    resume (liveStates rest) (done ++ rest.map markLive) = done ++ rest := by
  induction rest generalizing done with
  | nil => simp [resume, liveStates]
  | cons a rest ih =>
      have hnext : ((done ++ [a] ++ rest).map Attempt.id).Nodup := by
        rw [List.append_assoc]
        exact hd
      have hih := ih (done ++ [a]) hnext
      rw [List.append_assoc, List.append_assoc] at hih
      cases hlive : liveId? a with
      | none =>
          have hmark : markLive a = a := by simp [markLive, hlive]
          have hstates : liveStates (a :: rest) = liveStates rest := by simp [liveStates, hlive]
          rw [hstates, List.map_cons, hmark]
          exact hih
      | some id =>
          have hid := (liveId?_eq_some_iff.mp hlive).1
          have hmark : markLive a = a.withState .pending := by simp [markLive, hlive]
          have hstates : liveStates (a :: rest) = (id, a.state) :: liveStates rest := by
            simp [liveStates, hlive]
          have hdone : ∀ b ∈ done, b.hasId id = false := by
            intro b hb
            rw [Attempts.hasId_eq_false_iff]
            intro hbid
            rw [List.map_append, List.nodup_append] at hd
            exact hd.2.2 _ (List.mem_map_of_mem hb) a.id (by simp) (hbid.trans hid.symm)
          have hupdate : Attempts.update id (Attempt.withState a.state)
              (done ++ (a :: rest).map markLive) = done ++ a :: rest.map markLive := by
            have hpending : (a.withState .pending).hasId id = true :=
              Attempt.hasId_eq_true_iff.mpr hid
            rw [Attempts.update_append_of_forall_not hdone, List.map_cons, hmark, Attempts.update,
              if_pos hpending]
            rfl
          rw [hstates]
          show resume (liveStates rest) (Attempts.update id _ _) = _
          rw [hupdate]
          exact hih

end Session

/-! ### Ledgers and moves -/

/-- A session without its log. -/
@[ext] structure Ledger where
  recorded : String → List Attempt
  /-- The requests that wait for an answer. -/
  waiting : Int → Option ClientRequest
  nextRequestId : Int
  supply : Nat → RegistrationId
  drawn : Nat
  capabilities : Capabilities
  formatOnType : Bool
  sectionName : String
  refusal : Nat → Option TransportError
  /-- The requests that went out. -/
  sent : List Request

namespace Ledger

/-- The client declares its capabilities. -/
def declare (l : Ledger) (capabilities : Capabilities) : Ledger := { l with capabilities }

/-- A request goes out under the next number. -/
def dispatch (l : Ledger) (asked : ClientRequest) : Ledger :=
  { l with
    waiting := Function.update l.waiting l.nextRequestId (some asked)
    nextRequestId := l.nextRequestId + 1
    sent := l.sent ++ [asked.toRequest l.nextRequestId] }

/-- The next identifier is used up. -/
def draw (l : Ledger) : Ledger := { l with drawn := l.drawn + 1 }

/-- The next identifier. -/
def fresh (l : Ledger) : RegistrationId := l.supply l.drawn

/-- Replaces the attempts of a method. -/
def record (l : Ledger) (method : String) (attempts : List Attempt) : Ledger :=
  { l with recorded := Function.update l.recorded method attempts }

/-- A register request goes out. -/
def register (l : Ledger) (method : String) (options : Option Json) : Ledger :=
  (l.draw.dispatch (.register [⟨l.fresh, method, options⟩])).record method
    (l.recorded method ++ [.start l.fresh])

/-- The identifiers of the attempts of a method that the client has not refused. -/
def live (l : Ledger) (method : String) : List RegistrationId :=
  (l.recorded method).filterMap Session.liveId?

/-- An unregister request goes out, if there is anything to unregister. -/
def unregister (l : Ledger) (method : String) : Ledger :=
  if l.live method = [] then l
  else (l.dispatch (.unregister ((l.live method).map fun id => ⟨id, method⟩))).record method
    ((l.recorded method).map Session.markLive)

/-- The attempts take in the answer to a request. -/
def settle (l : Ledger) (asked : ClientRequest) (accepted : Bool) : Ledger :=
  { l with recorded := fun m => (l.recorded m).filterMap (asked.settle accepted m) }

/-- The request of that number no longer waits for an answer. -/
def dismiss (l : Ledger) (number : Int) : Ledger :=
  { l with waiting := Function.update l.waiting number none }

/-- The answer to the request of that number is taken in. -/
def answer (l : Ledger) (number : Int) (accepted : Bool) : Ledger :=
  match l.waiting number with
  | none => l
  | some asked => (l.settle asked accepted).dismiss number

/-- The switch for formatting is turned. -/
def flip (l : Ledger) : Ledger := { l with formatOnType := !l.formatOnType }

/-- The switch for formatting is turned, and the client is asked to follow. -/
def toggle (l : Ledger) : Ledger :=
  if l.formatOnType then (l.unregister Method.onTypeFormatting).flip
  else (l.register Method.onTypeFormatting (some Session.onTypeFormattingOptions)).flip

/-- How a ledger changes. -/
inductive Move where
  | declare (capabilities : Capabilities)
  /-- A register request goes out. -/
  | register (method : String) (options : Option Json)
  /-- An identifier is drawn for a register request that could not be sent. -/
  | draw
  /-- An unregister request goes out, if there is anything to unregister. -/
  | unregister (method : String)
  | pull (items : List ConfigurationItem)
  /-- The answer to a request is taken in, whether the request waits for it or not. -/
  | settle (asked : ClientRequest) (accepted : Bool)
  /-- The switch for formatting is turned, with a request to the client. -/
  | toggle
  /-- The switch for formatting is turned, without a request. -/
  | flip

/-- The ledger after a move. -/
def after (l : Ledger) : Move → Ledger
  | .declare capabilities => l.declare capabilities
  | .register method options => l.register method options
  | .draw => l.draw
  | .unregister method => l.unregister method
  | .pull items => l.dispatch (.configuration items)
  | .settle asked accepted => l.settle asked accepted
  | .toggle => l.toggle
  | .flip => l.flip

/-! ### Live attempts -/

variable {l : Ledger} {method m : String} {id : RegistrationId}

theorem mem_live_iff :
    id ∈ l.live method ↔ ∃ a ∈ l.recorded method, a.id = some id ∧ a.isRejected = false := by
  unfold live
  rw [List.mem_filterMap]
  simp only [Session.liveId?_eq_some_iff]

theorem names_unregister_live :
    (ClientRequest.unregister ((l.live method).map fun id => ⟨id, method⟩)).Names m id ↔
      m = method ∧ id ∈ l.live method := by
  simp only [ClientRequest.Names, List.mem_map, Unregistration.mk.injEq]
  constructor
  · rintro ⟨_, hid, rfl, rfl⟩
    exact ⟨rfl, hid⟩
  · rintro ⟨rfl, hid⟩
    exact ⟨id, hid, rfl, rfl⟩

end Ledger

/-- The ledger of a session. -/
def Session.ledger (s : Session) : Ledger where
  recorded := s.registry.recorded
  waiting := s.outstanding.find?
  nextRequestId := s.nextRequestId
  supply := s.supply
  drawn := s.drawn
  capabilities := s.capabilities
  formatOnType := s.formatOnType
  sectionName := s.sectionName
  refusal := s.connection.refusal
  sent := s.connection.sent

end EditorSession
