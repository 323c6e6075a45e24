import EditorSession.Proofs.Interruptions
import EditorSession.Proofs.Overlap

/-! # Methods do not disturb each other

All attempts are kept in one table, and an operation may change those of a few methods only: of the
method that it is about, of formatting while typing where it may bring settings, and of the methods
that a request names which it answers (`Session.Addresses`).  The attempts of every other method are
left alone, and of those methods an answer leaves the attempts alone that the request does not name
(`Session.methods_undisturbed`).  Both come of one frame: what a request does not name is kept by
every operation that answers no more than that request and calls for no other change of the method
(`Session.others_perform`). -/

namespace EditorSession

/-! ### Attempts that a request is not about -/

namespace ClientRequest

/-- The attempts of a method that the request is not about. -/
def others (asked : ClientRequest) (method : String) (attempts : List Attempt) : List Attempt :=
  attempts.filter fun a => ¬ asked.Concerns method a

variable {asked part : ClientRequest} {method : String}

theorem others_eq_self (h : ¬ asked.IsAbout method) (attempts : List Attempt) :
    asked.others method attempts = attempts := by
  refine List.filter_eq_self.mpr fun a _ => decide_eq_true ?_
  rintro ⟨id, -, hn⟩
  exact h ⟨id, hn⟩

/-- The answer to a request leaves alone what that request is not about, and so what a request is
not about that names more. -/
theorem others_filterMap_settle (h : ∀ id, part.Names method id → asked.Names method id)
    (accepted : Bool) (attempts : List Attempt) :
    asked.others method (attempts.filterMap (part.settle accepted method)) =
      asked.others method attempts := by
  unfold others
  induction attempts with
  | nil => rfl
  | cons a rest ih =>
      by_cases hc : asked.Concerns method a
      · have hdropped : (a :: rest).filter (fun a => ¬ asked.Concerns method a) =
            rest.filter fun a => ¬ asked.Concerns method a :=
          List.filter_cons_of_neg (by simpa using hc)
        rw [hdropped, ← ih]
        cases hb : part.settle accepted method a with
        | none => rw [List.filterMap_cons_none hb]
        | some b =>
            have hid : b.id = a.id := keepsId_settle part accepted method a b hb
            rw [List.filterMap_cons_some hb]
            exact List.filter_cons_of_neg (by simpa using (concerns_congr hid).mpr hc)
      · have hpart : ¬ part.Concerns method a := fun ⟨id, hid, hn⟩ => hc ⟨id, hid, h id hn⟩
        rw [List.filterMap_cons_some (settle_of_not_concerns hpart), List.filter_cons,
          List.filter_cons, ih]

end ClientRequest

namespace Ledger

variable {l : Ledger} {m method : String}

theorem recorded_register_of_ne (h : m ≠ method) (options : Option Json) :
    (l.register method options).recorded m = l.recorded m := recorded_record_of_ne _ h _

theorem recorded_unregister_of_ne (h : m ≠ method) :
    (l.unregister method).recorded m = l.recorded m := by
  unfold unregister
  split_ifs
  · rfl
  · exact recorded_record_of_ne _ h _

end Ledger

namespace Session

/-! ### What an operation may change -/

/-- The request that the operation brings an answer to. -/
def answeredRequest? (s : Session) : Operation → Option ClientRequest
  | .handle response => response.id.bind s.outstandingRequest
  | .onRegister _ asked | .onUnregister _ asked => some asked
  | _ => none

/-- The operation may change the attempts of the method. -/
inductive Addresses (s : Session) : Operation → String → Prop
  | register (method : String) (options : Option Json) :
      Addresses s (.register method options) method
  | unregister (method : String) : Addresses s (.unregister method) method
  | initialised : Addresses s .initialised Method.didChangeConfiguration
  | change (settings : Json) : Addresses s (.change settings) Method.onTypeFormatting
  | apply (settings : Json) : Addresses s (.apply settings) Method.onTypeFormatting
  | onConfiguration (response : Response) :
      Addresses s (.onConfiguration response) Method.onTypeFormatting
  | pulled {response : Response} {items : List ConfigurationItem} :
      s.answeredRequest? (.handle response) = some (.configuration items) →
      Addresses s (.handle response) Method.onTypeFormatting
  | answered {operation : Operation} {asked : ClientRequest} {method : String} :
      s.answeredRequest? operation = some asked → asked.IsAbout method →
      Addresses s operation method

section frame
variable {s : Session} {operation : Operation} {asked : ClientRequest} {method : String}

theorem addresses_of_calls (h : s.Calls operation method) : s.Addresses operation method := by
  cases h with
  | register _ options => exact .register method options
  | unregister => exact .unregister method
  | initialised _ => exact .initialised
  | settings hd _ _ =>
      cases operation with
      | change settings => exact .change settings
      | apply settings => exact .apply settings
      | onConfiguration response => exact .onConfiguration response
      | handle response =>
          obtain ⟨n, items, hid, hw, -⟩ := exists_of_delivery_handle hd
          have hasked : s.answeredRequest? (.handle response) = some (.configuration items) := by
            simp only [answeredRequest?, hid, Option.bind_some, hw]
          exact .pulled hasked
      | _ => cases hd

/-- The answer to a register or unregister request brings no settings. -/
theorem not_calls_of_answered (hasked : s.answeredRequest? operation = some asked)
    (hreg : asked.IsRegistration) : ¬ s.Calls operation method := by
  intro h
  cases h with
  | settings hd _ _ =>
      cases operation with
      | handle response =>
          obtain ⟨n, items, hid, hw, -⟩ := exists_of_delivery_handle hd
          simp only [answeredRequest?, hid, Option.bind_some, hw, Option.some.injEq] at hasked
          exact hreg items hasked.symm
      | onRegister response other => cases hd
      | onUnregister response other => cases hd
      | _ => cases hasked
  | _ => cases hasked

/-- Accepted registrations are settled one after the other, and those that are not settled are left
alone. -/
theorem others_acceptRegistrations (hd : s.ledger.Distinct) (registrations : List Registration)
    (h : ∀ id, (ClientRequest.register registrations).Names method id → asked.Names method id) :
    asked.others method ((s.acceptRegistrations registrations).2.ledger.recorded method) =
      asked.others method (s.ledger.recorded method) := by
  rcases acceptRegistrations_outcomes hd registrations with
    ⟨s', hall, hr⟩ | ⟨before, r, after, cause, s', hsplit, -, hstop, hr⟩
  · rw [hall, hr]
    exact ClientRequest.others_filterMap_settle h true _
  · rw [hstop, hr]
    refine ClientRequest.others_filterMap_settle (fun id hn => h id ?_) true _
    obtain ⟨r', hmem, hname⟩ := hn
    refine ⟨r', ?_, hname⟩
    rw [hsplit, List.append_cons]
    exact List.mem_append_left after hmem

theorem others_onRegisterResponse (hd : s.ledger.Distinct) (response : Response)
    {original : ClientRequest} (h : ∀ id, original.Names method id → asked.Names method id) :
    asked.others method ((s.onRegisterResponse response original).2.ledger.recorded method) =
      asked.others method (s.ledger.recorded method) := by
  cases original with
  | register registrations =>
      simp only [onRegisterResponse]
      split_ifs
      · exact others_acceptRegistrations hd registrations h
      · rw [ledger_refuseRegistrations hd]
        exact ClientRequest.others_filterMap_settle h false _
  | _ => rfl

theorem others_onUnregisterResponse (hd : s.ledger.Distinct) (response : Response)
    {original : ClientRequest} (h : ∀ id, original.Names method id → asked.Names method id) :
    asked.others method ((s.onUnregisterResponse response original).2.ledger.recorded method) =
      asked.others method (s.ledger.recorded method) := by
  cases original with
  | unregister entries =>
      rw [ledger_onUnregisterResponse hd]
      exact ClientRequest.others_filterMap_settle h response.hasResult _
  | _ => rfl

/-- What a request is not about stays, unless the operation answers a request about it or asks the
client to register or unregister the method. -/
theorem others_perform (hs : s.ledger.Sound) (hi : Function.Injective s.supply)
    (hcalls : ¬ s.Calls operation method)
    (hanswered : ∀ original, s.answeredRequest? operation = some original →
      ∀ id, original.Names method id → asked.Names method id) :
    asked.others method ((s.perform operation).2.ledger.recorded method) =
      asked.others method (s.ledger.recorded method) := by
  by_cases hop : operation.IsMediated
  · have htaking : asked.others method ((s.ledger.taking operation).recorded method) =
        asked.others method (s.ledger.recorded method) := by
      rcases s.ledger.taking_cases operation with he | ⟨response, n, original, rfl, hid, hw, he⟩
      · rw [he]
      · have hw' : s.outstandingRequest n = some original := hw
        have hnames := hanswered original (by
          simp only [answeredRequest?, hid, Option.bind_some, hw'])
        rw [he, Ledger.answer_of_waiting hw]
        exact ClientRequest.others_filterMap_settle hnames response.hasResult _
    refine perform_keeps_calls (P := fun l => asked.others method (l.recorded method) =
      asked.others method (s.ledger.recorded method))
      ⟨fun _ h => h, fun _ _ h => h, fun _ _ _ h => h⟩ hs hi hop htaking fun m hm => ?_
    have hne : method ≠ m := fun he => hcalls (he ▸ hm)
    refine ⟨fun options => ?_, ?_⟩
    · rw [Ledger.recorded_register_of_ne hne]
      exact htaking
    · rw [Ledger.recorded_unregister_of_ne hne]
      exact htaking
  · cases operation with
    | onRegister response original =>
        exact others_onRegisterResponse hs.distinct response (hanswered original rfl)
    | onUnregister response original =>
        exact others_onUnregisterResponse hs.distinct response (hanswered original rfl)
    | _ => exact absurd trivial hop

/-- Nothing changes about a method that the operation does not address. -/
theorem recorded_perform_of_not_addresses (hs : s.ledger.Sound) (hi : Function.Injective s.supply)
    (h : ¬ s.Addresses operation method) :
    (s.perform operation).2.registry.recorded method = s.registry.recorded method := by
  -- no request about the method is answered, so there is one that covers what is answered
  obtain ⟨asked, habout, hanswered⟩ : ∃ asked : ClientRequest, ¬ asked.IsAbout method ∧
      ∀ original, s.answeredRequest? operation = some original →
        ∀ id, original.Names method id → asked.Names method id := by
    cases ha : s.answeredRequest? operation with
    | none => exact ⟨.configuration [], fun ⟨_, hn⟩ => hn, nofun⟩
    | some asked =>
        refine ⟨asked, fun habout => h (.answered ha habout), fun original he id hn => ?_⟩
        rwa [Option.some.inj he]
  have hothers := others_perform hs hi (mt addresses_of_calls h) hanswered
  rwa [ClientRequest.others_eq_self habout, ClientRequest.others_eq_self habout] at hothers

end frame

section runs
variable {connection : Connection} {supply : Nat → RegistrationId} {config : Config}

/-- Methods do not disturb each other.  After every sequence of operations, whatever the connection
refuses, an operation leaves the attempts of every method alone that it does not address; and when
it answers a register or unregister request, the attempts of a method that the request does not name
stay as they are, in their order. -/
theorem methods_undisturbed (hi : Function.Injective supply) (operations : List Operation)
    (operation : Operation) (method : String) :
    let s := (start connection supply config).run operations
    (¬ s.Addresses operation method →
      (s.perform operation).2.attemptsFor method = s.attemptsFor method) ∧
    (∀ asked, s.answeredRequest? operation = some asked → asked.IsRegistration →
      asked.others method ((s.perform operation).2.registry.recorded method) =
        asked.others method (s.registry.recorded method)) := by
  intro s
  have hs : s.ledger.Sound := sound_run hi operations
  have hsupply : Function.Injective s.supply := by
    rw [((start connection supply config).terms_run operations).2.1]
    exact hi
  refine ⟨fun haddress => ?_, fun asked hasked hreg => ?_⟩
  · have hrecorded := recorded_perform_of_not_addresses hs hsupply haddress
    rw [attemptsFor, attemptsFor, Registry.attemptsFor, Registry.attemptsFor, hrecorded]
  · refine others_perform hs hsupply (not_calls_of_answered hasked hreg) fun original he id hn => ?_
    rwa [Option.some.inj (hasked.symm.trans he)]

end runs

/-- Two methods, of which one waits to be unregistered and was registered again since. -/
def twoMethods : List Operation :=
  [.register "a/b" none, .register "c/d" none, .handle (.success 1 .null), .unregister "a/b",
    .register "a/b" none]

/-- The refusal to unregister the attempt changes neither the other method nor the other attempt. -/
theorem methods_undisturbed_of_twoMethods :
    let s := (start .accepting .ofLength .default).run twoMethods
    let s' := (s.perform (.handle (.failure 3 0 ""))).2
    let asked := ClientRequest.unregister [⟨.ofLength 0, "a/b"⟩]
    s'.attemptsFor "c/d" = [.start (.ofLength 1)] ∧
      asked.others "a/b" (s'.registry.recorded "a/b") = [.start (.ofLength 2)] := by
  intro s s' asked
  have hframe := @methods_undisturbed .accepting .ofLength .default
    RegistrationId.ofLength_injective twoMethods (.handle (.failure 3 0 ""))
  have hasked : s.answeredRequest? (.handle (.failure 3 0 "")) = some asked := by decide
  constructor
  · refine ((hframe "c/d").1 fun h => ?_).trans (by decide)
    generalize hm : "c/d" = method at h
    cases h with
    | pulled _ => exact absurd hm (by decide)
    | answered hother habout =>
        obtain ⟨id, hn⟩ := habout
        rw [← Option.some.inj (hasked.symm.trans hother), ← hm] at hn
        simp [asked, ClientRequest.Names] at hn
  · exact ((hframe "a/b").2 asked hasked (ClientRequest.isRegistration_unregister _)).trans
      (by decide)

end Session

end EditorSession
