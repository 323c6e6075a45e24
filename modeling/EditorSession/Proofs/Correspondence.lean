import EditorSession.Proofs.Mail
import EditorSession.Proofs.Performing
import Mathlib.Data.Set.Card

/-! # Requests and their answers

Whatever identifiers are drawn, an operation takes a response in, if it brings one, and then only
sends requests (`Session.mail_perform`).  So the mail is tidy after every run (`Session.tidy_run`):
a request is outstanding exactly when it went out and no response with its number arrived since, and
every other response is dropped (`Session.requests_accounted_for`). -/

namespace EditorSession

theorem Table.size_eq_ncard {κ α : Type} [DecidableEq κ] (t : Table κ α) :
    t.size = {key | t.find? key ≠ none}.ncard := by
  have hkeys : {key | t.find? key ≠ none} = ((t.entries.map Prod.fst).toFinset : Set κ) := by
    ext key
    rw [List.coe_toFinset, Set.mem_ofPred_eq, Set.mem_ofPred_eq, ← Entries.find?_isSome_iff,
      Option.isSome_iff_ne_none]
    rfl
  rw [hkeys, Set.ncard_coe_finset, List.toFinset_card_of_nodup t.distinct, List.length_map]
  rfl

/-! ### Operations and the mail -/

/-- The mail of a ledger. -/
def Ledger.mail (l : Ledger) : Mail := ⟨l.sent, l.waiting, l.nextRequestId⟩

/-- The number on the response that the operation brings to the session. -/
def Operation.number? : Operation → Option Int
  | .handle response => response.id
  | _ => none

namespace Session

/-- The outcome comes of sending requests: the mail grows by them, and it is a failure only where
one of them is refused. -/
structure Sends {α : Type} (s : Session) (outcome : Outcome α) : Prop where
  mail : s.ledger.mail.Extends outcome.2.ledger.mail
  refused : ∀ e, outcome.1 = .error e → ∃ method cause, e = .transport method cause

section sends
variable {α β : Type} {s s₁ s' : Session}

theorem sends_ok (a : α) (h : s'.ledger.mail = s.ledger.mail) : s.Sends (.ok a, s') := by
  refine ⟨?_, fun e he => nomatch he⟩
  rw [h]
  exact .refl

theorem Sends.trans {a : α} {outcome : Outcome β} (h : s.Sends (.ok a, s₁))
    (ho : s₁.Sends outcome) : s.Sends outcome := ⟨h.mail.trans ho.mail, ho.refused⟩

theorem Sends.of_mail_eq {outcome : Outcome α} (h : s₁.ledger.mail = s.ledger.mail)
    (ho : s₁.Sends outcome) : s.Sends outcome := (sends_ok () h).trans ho

/-- What is sent does not depend on what becomes of the result and of the rest of the session. -/
theorem Sends.congr {outcome : Outcome α} {outcome' : Outcome β} (h : s.Sends outcome)
    (hm : outcome'.2.ledger.mail = outcome.2.ledger.mail)
    (he : ∀ e, outcome'.1 = .error e → outcome.1 = .error e) : s.Sends outcome' := by
  refine ⟨?_, fun e hfail => h.refused e (he e hfail)⟩
  rw [hm]
  exact h.mail

theorem Sends.succeed {a : α} (h : s.Sends (.ok a, s₁)) (b : β)
    (hm : s'.ledger.mail = s₁.ledger.mail) : s.Sends (.ok b, s') := h.congr hm nofun

theorem Sends.fail {e : ClientError} (h : s.Sends ((.error e, s₁) : Outcome α))
    (hm : s'.ledger.mail = s₁.ledger.mail) : s.Sends ((.error e, s') : Outcome β) :=
  h.congr hm fun _ he => by cases he; rfl

theorem Sends.discarding {outcome : Outcome α} (h : s.Sends outcome) :
    s.Sends (discarding outcome) := h.congr rfl fun _ => eq_error_of_map_eq_error

theorem sends_send (s : Session) (asked : ClientRequest) : s.Sends (s.send asked) := by
  constructor
  · rcases s.send_cases asked with ⟨s', hsend, hl⟩ | ⟨e, s', hsend, hl, -⟩
    · rw [hsend, hl]
      exact .dispatch asked .refl
    · rw [hsend, hl]
      exact .refl
  · intro e he
    unfold send at he
    rcases hg : s.connection.give (asked.toRequest s.nextRequestId) with ⟨cause | _, connection⟩
    · simp only [hg] at he
      cases he
      exact ⟨_, _, rfl⟩
    · simp only [hg] at he
      cases he

theorem sends_pullConfiguration (s : Session) : s.Sends s.pullConfiguration := s.sends_send _

theorem sends_of_pullConfiguration {outcome : Outcome Int} (h : s.pullConfiguration = outcome) :
    s.Sends outcome := h ▸ s.sends_pullConfiguration

theorem sends_registerCapability (s : Session) (method : String) (options : Option Json) :
    s.Sends (s.registerCapability method options) := by
  obtain ⟨log, heq⟩ := s.registerCapability_eq method options
  obtain ⟨s₁, hs₁⟩ : ∃ s₁ : Session, s₁ = { s.recording method with log := log } := ⟨_, rfl⟩
  have hm : s₁.ledger.mail = s.ledger.mail := by
    rw [hs₁]
    rfl
  have h := s₁.sends_send (.register [⟨s.ledger.fresh, method, options⟩])
  rw [heq, ← hs₁]
  refine Sends.of_mail_eq hm ?_
  generalize s₁.send (.register [⟨s.ledger.fresh, method, options⟩]) = outcome at h ⊢
  rcases outcome with ⟨e | n, s'⟩
  · exact h.fail rfl
  · exact h.succeed _ rfl

theorem sends_unregisterCapability (s : Session) (method : String) :
    s.Sends (s.unregisterCapability method) := by
  obtain ⟨log, ⟨-, heq⟩ | ⟨-, heq⟩⟩ := s.unregisterCapability_eq method
  · rw [heq]
    exact sends_ok _ rfl
  · obtain ⟨s₁, hs₁⟩ : ∃ s₁ : Session, s₁ = { s.marking method with log := log } := ⟨_, rfl⟩
    have hm : s₁.ledger.mail = s.ledger.mail := by
      rw [hs₁]
      rfl
    have h := s₁.sends_send (.unregister ((s.ledger.live method).map fun id => ⟨id, method⟩))
    rw [heq, ← hs₁]
    refine Sends.of_mail_eq hm ?_
    generalize s₁.send (.unregister ((s.ledger.live method).map fun id => ⟨id, method⟩)) =
      outcome at h ⊢
    rcases outcome with ⟨e | n, s'⟩
    · exact h.fail rfl
    · exact h.succeed _ rfl

theorem sends_toggleOnTypeFormatting (s : Session) (enable : Bool) :
    s.Sends (s.toggleOnTypeFormatting enable) := by
  rw [toggleOnTypeFormatting_eq]
  split_ifs
  · exact (s.sends_registerCapability _ _).discarding
  · exact s.sends_unregisterCapability _

theorem sends_applySettings (s : Session) (settings : Json) :
    s.Sends (s.applySettings settings) := by
  by_cases hturns : s.Turns settings
  · by_cases hc : s.ledger.SupportsFormatting
    · obtain ⟨log, heq⟩ := applySettings_of_turns hturns hc
      rw [heq]
      exact (s.sends_toggleOnTypeFormatting _).congr rfl fun _ => id
    · obtain ⟨log, heq⟩ := applySettings_of_turns_of_not_supports hturns hc
      rw [heq]
      exact sends_ok _ rfl
  · obtain ⟨log, heq⟩ := applySettings_of_not_turns hturns
    rw [heq]
    exact sends_ok _ rfl

theorem sends_onConfigurationResponse (s : Session) (response : Response) :
    s.Sends (s.onConfigurationResponse response) := by
  unfold onConfigurationResponse
  split
  · exact sends_ok _ rfl
  · split
    · exact s.sends_applySettings _
    · exact sends_ok _ rfl

theorem sends_changeConfiguration (s : Session) (settings : Json) :
    s.Sends (s.changeConfiguration settings) := by
  rw [changeConfiguration_eq]
  split_ifs
  · exact s.sends_pullConfiguration.discarding
  · exact s.sends_applySettings settings

theorem sends_initialised (s : Session) : s.Sends s.initialised := by
  obtain ⟨log, ⟨-, heq⟩ | heq⟩ := s.initialised_cases
  · rw [heq]
    exact .of_mail_eq (by rfl) (sends_registerCapability _ _ _).discarding
  · rw [heq]
    exact sends_ok _ rfl

/-- Accepted registrations make the session pull the configuration. -/
theorem sends_acceptRegistrations (s : Session) (registrations : List Registration) :
    s.Sends (s.acceptRegistrations registrations) := by
  induction registrations generalizing s with
  | nil => exact sends_ok _ rfl
  | cons r rest ih =>
      unfold acceptRegistrations
      dsimp only
      split_ifs
      · split
        · next n s' hpull =>
          have h := sends_of_pullConfiguration hpull
          exact .of_mail_eq (by rfl) (h.trans (ih s'))
        · next e s' hpull =>
          have h := sends_of_pullConfiguration hpull
          exact .of_mail_eq (by rfl) (h.fail rfl)
      · exact .of_mail_eq (by rfl) (ih _)

theorem mail_refuseRegistrations (s : Session) (registrations : List Registration) :
    (s.refuseRegistrations registrations).ledger.mail = s.ledger.mail := by
  induction registrations generalizing s with
  | nil => rfl
  | cons r rest ih =>
      unfold refuseRegistrations
      rw [ih]
      rfl

theorem mail_acceptUnregistrations (s : Session) (entries : List Unregistration) :
    (s.acceptUnregistrations entries).ledger.mail = s.ledger.mail := by
  induction entries generalizing s with
  | nil => rfl
  | cons u rest ih =>
      unfold acceptUnregistrations
      rw [ih]
      rfl

theorem mail_refuseUnregistrations (s : Session) (entries : List Unregistration) :
    (s.refuseUnregistrations entries).ledger.mail = s.ledger.mail := by
  induction entries generalizing s with
  | nil => rfl
  | cons u rest ih =>
      unfold refuseUnregistrations
      rw [ih]
      rfl

/-- A response that is handed to the handler of its kind. -/
theorem sends_route (s : Session) (response : Response) (asked : ClientRequest) :
    s.Sends (s.route response asked) := by
  cases asked with
  | register registrations =>
      simp only [route, onRegisterResponse]
      split_ifs
      · exact s.sends_acceptRegistrations registrations
      · exact sends_ok _ (s.mail_refuseRegistrations registrations)
  | unregister entries =>
      simp only [route, onUnregisterResponse]
      split_ifs
      · exact sends_ok _ (s.mail_acceptUnregistrations entries)
      · exact sends_ok _ (s.mail_refuseUnregistrations entries)
  | configuration items => exact s.sends_onConfigurationResponse response

theorem mail_handleResponse (s : Session) (response : Response) :
    (s.ledger.mail.taking response.id).Extends (s.handleResponse response).2.ledger.mail := by
  cases hid : response.id with
  | none =>
      rw [ledger_handleResponse_of_not_waiting (by simp [hid])]
      exact .refl
  | some n =>
      cases hw : s.ledger.waiting n with
      | none =>
          have hnone : ∀ k, response.id = some k → s.ledger.waiting k = none := fun k hk => by
            cases hid.symm.trans hk
            exact hw
          have hl := ledger_handleResponse_of_not_waiting hnone
          rw [hl]
          show (s.ledger.mail.dismiss n).Extends s.ledger.mail
          rw [Mail.dismiss_of_not_waiting hw]
          exact .refl
      | some asked =>
          obtain ⟨s₁, hl, heq⟩ := handleResponse_of_waiting hid hw
          have hm : s₁.ledger.mail = s.ledger.mail.taking (some n) := congrArg Ledger.mail hl
          rw [heq, ← hm]
          exact (s₁.sends_route response asked).mail

end sends

/-- An operation takes in the response that it brings, if it does, and then sends requests. -/
theorem mail_perform (s : Session) (operation : Operation) :
    (s.ledger.mail.taking operation.number?).Extends (s.perform operation).2.ledger.mail := by
  cases operation with
  | declare capabilities => exact .refl
  | initialised => exact s.sends_initialised.mail
  | change settings => exact (s.sends_changeConfiguration settings).mail
  | register method options => exact (s.sends_registerCapability method options).mail
  | unregister method => exact (s.sends_unregisterCapability method).mail
  | pull => exact s.sends_pullConfiguration.mail
  | apply settings => exact (s.sends_applySettings settings).mail
  | handle response => exact s.mail_handleResponse response
  | onRegister response asked =>
      cases asked with
      | register registrations => exact (s.sends_route response (.register registrations)).mail
      | _ => exact .refl
  | onUnregister response asked =>
      cases asked with
      | unregister entries => exact (s.sends_route response (.unregister entries)).mail
      | _ => exact .refl
  | onConfiguration response => exact (s.sends_onConfigurationResponse response).mail

/-! ### Runs -/

/-- After the request of that number went out, a response with the number was handed over. -/
def Responded (origin : Session) (operations : List Operation) (n : Int) : Prop :=
  ∃ earlier response, earlier ++ [.handle response] <+: operations ∧ response.id = some n ∧
    n ∈ (origin.run earlier).connection.sent.map Request.id

/-- The moments, told by the operations before them, at which a response is handed to the handler
of the request of that number. -/
def routings (origin : Session) (operations : List Operation) (n : Int) : Set (List Operation) :=
  {earlier | ∃ response, earlier ++ [.handle response] <+: operations ∧ response.id = some n ∧
    (origin.run earlier).outstandingRequest n ≠ none}

section runs
variable {origin : Session} {operations : List Operation} {n : Int}
  {refusal : Nat → Option TransportError} {supply : Nat → RegistrationId} {config : Config}

theorem responded_concat (operation : Operation) :
    origin.Responded (operations ++ [operation]) n ↔ origin.Responded operations n ∨
      operation.number? = some n ∧ n ∈ (origin.run operations).connection.sent.map Request.id := by
  constructor
  · rintro ⟨earlier, response, hpre, hid, hmem⟩
    rcases List.prefix_concat_iff.mp hpre with he | hpre
    · obtain ⟨rfl, hlast⟩ := List.append_inj' he rfl
      cases hlast
      exact .inr ⟨hid, hmem⟩
    · exact .inl ⟨earlier, response, hpre, hid, hmem⟩
  · rintro (⟨earlier, response, hpre, hid, hmem⟩ | ⟨hnumber, hmem⟩)
    · exact ⟨earlier, response, hpre.trans (List.prefix_append ..), hid, hmem⟩
    · cases operation with
      | handle response => exact ⟨operations, response, List.prefix_refl _, hnumber, hmem⟩
      | _ => cases hnumber

theorem tidy_start : (start ⟨refusal, []⟩ supply config).ledger.mail.Tidy
    ((start ⟨refusal, []⟩ supply config).Responded []) where
  numbered := rfl
  next := rfl
  encoded := nofun
  carried := nofun
  waits := fun n => iff_of_false (fun h => h rfl) fun h => nomatch h.1
  earlier := by
    rintro n ⟨earlier, response, hpre, -⟩
    simp at hpre

/-- The mail is tidy after every run, whatever identifiers are drawn. -/
theorem tidy_run (operations : List Operation) :
    ((start ⟨refusal, []⟩ supply config).run operations).ledger.mail.Tidy
      ((start ⟨refusal, []⟩ supply config).Responded operations) := by
  induction operations using List.reverseRecOn with
  | nil => exact tidy_start
  | append_singleton operations operation ih =>
      have hresponded : (start ⟨refusal, []⟩ supply config).Responded (operations ++ [operation]) =
          fun n => _ := funext fun n => propext (responded_concat operation)
      rw [run_append, hresponded]
      exact (ih.taking operation.number?).extend (mail_perform _ operation)

/-- A response that nobody waits for is dropped with a note. -/
theorem handleResponse_of_not_waiting {s : Session} {response : Response}
    (h : ∀ n, response.id = some n → s.outstandingRequest n = none) :
    ∃ event, s.handleResponse response = (.ok (), { s with log := s.log ++ [event] }) := by
  unfold handleResponse
  cases hid : response.id with
  | none => exact ⟨_, rfl⟩
  | some n =>
      have hw : s.outstanding.find? n = none := h n hid
      dsimp only
      rw [hw]
      exact ⟨_, rfl⟩

/-- A response fails to be handled only because a request is refused. -/
theorem handleResponse_ne_unexpectedResponse (s : Session) (response : Response)
    (expected actual : String) :
    (s.handleResponse response).1 ≠ .error (.unexpectedResponse expected actual) := by
  intro he
  by_cases hw : ∀ n, response.id = some n → s.outstandingRequest n = none
  · obtain ⟨event, heq⟩ := handleResponse_of_not_waiting hw
    rw [heq] at he
    cases he
  · push Not at hw
    obtain ⟨n, hid, hn⟩ := hw
    obtain ⟨asked, hn⟩ := Option.ne_none_iff_exists'.mp hn
    obtain ⟨s₁, -, heq⟩ := handleResponse_of_waiting hid hn
    rw [heq] at he
    obtain ⟨method, cause, htransport⟩ := (s₁.sends_route response asked).refused _ he
    cases htransport

/-- A request is handed to its handler at most once: it does not wait any more. -/
theorem routings_subsingleton (operations : List Operation) (n : Int) :
    ((start ⟨refusal, []⟩ supply config).routings operations n).Subsingleton := by
  have hafter : ∀ {earlier later : List Operation} {response : Response},
      earlier ++ [.handle response] <+: later → response.id = some n →
      ((start ⟨refusal, []⟩ supply config).run earlier).outstandingRequest n ≠ none →
      ((start ⟨refusal, []⟩ supply config).run later).outstandingRequest n = none := by
    intro earlier later response hpre hid hne
    have htidy : ((start ⟨refusal, []⟩ supply config).run earlier).ledger.mail.Tidy _ :=
      tidy_run earlier
    have hsent := (htidy.waits n).mp hne
    by_contra hwait
    exact (((tidy_run later).waits n).mp hwait).2 ⟨earlier, response, hpre, hid, hsent.1⟩
  rintro first ⟨p, hp, hpid, hpw⟩ second ⟨q, hq, hqid, hqw⟩
  rcases List.prefix_or_prefix_of_prefix hp hq with hpre | hpre
  · rcases List.prefix_concat_iff.mp hpre with he | hpre
    · exact (List.append_inj' he rfl).1
    · exact absurd (hafter hpre hpid hpw) hqw
  · rcases List.prefix_concat_iff.mp hpre with he | hpre
    · exact (List.append_inj' he rfl).1.symm
    · exact absurd (hafter hpre hqid hqw) hpw

/-- Requests and answers are matched by numbers.  After every sequence of operations:
the messages that went out bear the numbers 1, 2, … in their order, and the next number is small
as long as they are few; a request is outstanding exactly when its message went out and no response
with its number was handed over since; it is handed to a handler at most once, to that of its kind;
and any other response is dropped. -/
theorem requests_accounted_for (operations : List Operation) :
    let origin := start ⟨refusal, []⟩ supply config
    let s := origin.run operations
    let numbers := s.connection.sent.map Request.id
    numbers = (List.range s.connection.sent.length).map (fun i : Nat => (i : Int) + 1) ∧
    (s.connection.sent.length < 2 ^ 63 - 1 → s.nextRequestId < 2 ^ 63) ∧
    (∀ n, s.outstandingRequest n ≠ none ↔ n ∈ numbers ∧ ¬ origin.Responded operations n) ∧
    (∀ n asked, s.outstandingRequest n = some asked ↔
      asked.toRequest n ∈ s.connection.sent ∧ ¬ origin.Responded operations n) ∧
    s.outstandingCount = {n | n ∈ numbers ∧ ¬ origin.Responded operations n}.ncard ∧
    (∀ n, (origin.routings operations n).Subsingleton) ∧
    (∀ response n asked, response.id = some n → s.outstandingRequest n = some asked →
      ∃ s₁ : Session, s₁.ledger = s.ledger.dismiss n ∧
        s.handleResponse response = s₁.route response asked) ∧
    (∀ response expected actual,
      (s.handleResponse response).1 ≠ .error (.unexpectedResponse expected actual)) ∧
    (∀ response, (∀ n, response.id = some n → n ∉ numbers ∨ origin.Responded operations n) →
      ∃ event, s.handleResponse response = (.ok (), { s with log := s.log ++ [event] })) := by
  intro origin s numbers
  have h : s.ledger.mail.Tidy (origin.Responded operations) := tidy_run operations
  refine ⟨h.numbered, fun hfew => ?_, h.waits, fun n asked => h.waiting_iff, ?_,
    routings_subsingleton operations, fun response n asked => handleResponse_of_waiting,
    s.handleResponse_ne_unexpectedResponse, fun response hstale => ?_⟩
  · have hnext : s.nextRequestId = s.connection.sent.length + 1 := h.next
    omega
  · rw [outstandingCount, Table.size_eq_ncard]
    exact congrArg Set.ncard (Set.ext h.waits)
  · refine handleResponse_of_not_waiting fun n hid => ?_
    by_contra hwait
    obtain ⟨hmem, hnot⟩ := (h.waits n).mp hwait
    exact (hstale n hid).elim (absurd hmem) hnot

end runs

end Session

end EditorSession
