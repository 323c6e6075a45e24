import EditorSession.Proofs.Alike
import EditorSession.Proofs.Changes
import EditorSession.Proofs.Convergence

/-! # Settings that are sent and settings that are pulled

The client may send its settings, or have the session pull the section that belongs to it.  A walk
along the path of the switch finds the same in both (`Json.lookupBool_restrict`), so either way the
ledger is reconciled with the same value (`Ledger.reconcile`), and what comes of it is the same
apart from the number that the pull took and the identifiers that are drawn
(`Session.push_pull_agree`). -/

namespace EditorSession

/-! ### The section of the settings -/

namespace Json

/-- The tree without its other members, where a member that is missing becomes null. -/
def restrict (tree : Json) (name : String) : Json :=
  .object [(name, (tree.member? name).getD .null)]

theorem child?_restrict (tree : Json) (name : String) :
    (tree.restrict name).child? name = tree.child? name := by
  unfold restrict child?
  cases tree.member? name with
  | none => simp [member?, find]
  | some value => simp [member?, find]

/-- A path through the section finds the same in the section alone. -/
theorem lookupBool_restrict (tree : Json) (name : String) (path : List String) :
    (tree.restrict name).lookupBool (name :: path) = tree.lookupBool (name :: path) := by
  unfold lookupBool
  cases path with
  | nil => rw [lookup_singleton, lookup_singleton, child?_restrict]
  | cons next rest => rw [lookup_cons_cons, lookup_cons_cons, child?_restrict]

end Json

/-! ### Requests that are not refused -/

namespace Session
variable {s : Session} {settings : Json} {method : String}

theorem ledger_registerCapability_of_ok {options : Option Json} {id : RegistrationId}
    (h : (s.registerCapability method options).1 = .ok id) :
    (s.registerCapability method options).2.ledger = s.ledger.register method options := by
  rcases s.registerCapability_outcomes method options with ⟨s', hreg, hl⟩ | ⟨e, s', hreg, -⟩
  · rw [hreg, hl]
  · rw [hreg] at h
    cases h

theorem ledger_unregisterCapability_of_ok (h : (s.unregisterCapability method).1 = .ok ()) :
    (s.unregisterCapability method).2.ledger = s.ledger.unregister method := by
  rcases s.unregisterCapability_outcomes method with ⟨s', hreg, hl⟩ | ⟨e, s', hreg, -⟩
  · rw [hreg, hl]
  · rw [hreg] at h
    cases h

theorem exists_of_discarding_eq_ok {α : Type} {outcome : Outcome α}
    (h : (discarding outcome).1 = .ok ()) : ∃ a, outcome.1 = .ok a := by
  rcases outcome with ⟨e | a, s'⟩
  · cases h
  · exact ⟨a, rfl⟩

theorem ledger_toggleOnTypeFormatting_of_ok {enable : Bool}
    (h : (s.toggleOnTypeFormatting enable).1 = .ok ()) :
    (s.toggleOnTypeFormatting enable).2.ledger = s.ledger.follow enable := by
  rw [toggleOnTypeFormatting_eq] at h ⊢
  unfold Ledger.follow
  split_ifs at h ⊢
  · obtain ⟨id, hid⟩ := exists_of_discarding_eq_ok h
    exact ledger_registerCapability_of_ok hid
  · exact ledger_unregisterCapability_of_ok h

/-- Settings that cause no refused request reconcile the ledger with the value they give the
switch. -/
theorem ledger_applySettings_of_ok (h : (s.applySettings settings).1 = .ok ()) :
    (s.applySettings settings).2.ledger =
      s.ledger.reconcile (s.requestedFormatOnType settings) := by
  unfold Ledger.reconcile
  by_cases hturns : s.requestedFormatOnType settings = some !s.ledger.formatOnType
  · rw [if_pos hturns]
    by_cases hc : s.ledger.capabilities.supportsDynamicRegistration Method.onTypeFormatting = true
    · obtain ⟨log, heq⟩ := applySettings_of_turns hturns hc
      rw [heq] at h
      rw [heq, if_pos hc]
      exact congrArg (fun l : Ledger => { l with formatOnType := !s.formatOnType })
        (ledger_toggleOnTypeFormatting_of_ok h)
    · obtain ⟨log, heq⟩ := applySettings_of_turns_of_not_supports hturns hc
      rw [heq, if_neg hc]
      rfl
  · obtain ⟨log, heq⟩ := applySettings_of_not_turns hturns
    rw [heq, if_neg hturns]
    rfl

/-! ### Pulling -/

/-- Once its answer is taken in, a pull has come down to applying the settings that it brought. -/
theorem exists_of_pull {response : Response} {content : Json} {rest : List Json}
    (hok : (s.changeConfiguration .null).1 = .ok ()) (hid : response.id = some s.nextRequestId)
    (herror : response.error = none) (hresult : response.result = some (.array (content :: rest))) :
    ∃ s₁ : Session, s₁.ledger = (s.ledger.dispatch
        (.configuration [⟨none, some s.sectionName⟩])).dismiss s.nextRequestId ∧
      (s.changeConfiguration .null).2.handleResponse response =
        s₁.applySettings (.object [(s.sectionName, content)]) := by
  rw [changeConfiguration_eq, if_pos rfl] at hok ⊢
  rcases s.pullConfiguration_cases with ⟨s', hp, hl⟩ | ⟨e, s', hp, -⟩
  · rw [hp]
    have hw : s'.outstandingRequest s.nextRequestId =
        some (.configuration [⟨none, some s.sectionName⟩]) := by
      show s'.ledger.waiting s.nextRequestId = _
      rw [hl]
      exact (Ledger.waiting_dispatch ..).trans (if_pos rfl)
    obtain ⟨log, heq⟩ := handleResponse_of_pull hid hw
    have hsection : s'.sectionName = s.sectionName := congrArg Ledger.sectionName hl
    have hanswered : ({ s' with outstanding := s'.outstanding.erase s.nextRequestId, log := log } :
        Session).answered? response = some (.object [(s.sectionName, content)]) := by
      show response.firstItem?.map (fun content => Json.object [(s'.sectionName, content)]) = _
      rw [Response.firstItem?, herror, hresult, hsection]
      rfl
    refine ⟨{ s' with outstanding := s'.outstanding.erase s.nextRequestId, log := log }, ?_, ?_⟩
    · rw [ledger_erase, hl]
      rfl
    · exact heq.trans (onConfigurationResponse_of_answered hanswered)
  · rw [hp] at hok
    cases hok

/-! ### Sending and pulling -/

/-- The identifiers are drawn in the same turn, each from its supply. -/
def SameTurn (supply supply' : Nat → RegistrationId) (id id' : RegistrationId) : Prop :=
  ∃ k, supply k = id ∧ supply' k = id'

/-- A pull that was answered leaves no trace but its number, also where other identifiers will be
drawn than without it. -/
theorem alike_pulled {responded : Int → Prop} (h : s.Traceable)
    (htidy : s.ledger.mail.Tidy responded) {supply' : Nat → RegistrationId}
    (hold : ∀ k < s.drawn, supply' k = s.supply k) (items : List ConfigurationItem) :
    s.ledger.Alike (SameTurn s.supply supply') (Equiv.swap s.nextRequestId (s.nextRequestId + 1))
      ((({ s with supply := supply' } : Session).ledger.dispatch (.configuration items)).dismiss
        s.nextRequestId) := by
  have hdrawn : ∀ id, s.ledger.Drawn id → SameTurn s.supply supply' id id := by
    rintro id ⟨k, hk, hid⟩
    exact ⟨k, hid, (hold k hk).trans hid⟩
  -- neither the number of the pull nor the next one is in use
  have hfree : ∀ n, s.nextRequestId ≤ n → s.ledger.waiting n = none := by
    intro n hn
    by_contra hw
    have hlt : n < s.nextRequestId :=
      (htidy.mem_numbers_iff.mp ((htidy.waits n).mp hw).1).2
    omega
  constructor
  case recorded =>
    exact fun m => List.forall₂_same.mpr fun a ha =>
      Attempt.alike_self fun id hid => hdrawn id (h.recorded m a ha id hid)
  case waiting =>
    intro n
    have hpulled : ∀ k, ((({ s with supply := supply' } : Session).ledger.dispatch
        (.configuration items)).dismiss s.nextRequestId).waiting k = s.ledger.waiting k := by
      intro k
      rw [Ledger.waiting_dismiss, Ledger.waiting_dispatch]
      show (if k = s.nextRequestId then none else if k = s.nextRequestId then _ else
        s.ledger.waiting k) = _
      split_ifs with hk
      · rw [hfree k hk.ge]
      · rfl
    have hswapped : s.ledger.waiting (Equiv.swap s.nextRequestId (s.nextRequestId + 1) n) =
        s.ledger.waiting n := by
      rw [Equiv.swap_apply_def]
      split_ifs with hn hn
      · rw [hfree n hn.ge, hfree _ (by omega)]
      · rw [hfree n (by omega), hfree _ le_rfl]
      · rfl
    rw [hpulled, hswapped]
    cases hw : s.ledger.waiting n with
    | none => exact .none
    | some asked =>
        refine .some (ClientRequest.alike_self fun m id hname => hdrawn id ?_)
        exact h.sent asked n (htidy.carried n asked hw) m id hname
  case sent =>
    have hpull : ¬ ((ClientRequest.configuration items).toRequest s.nextRequestId).IsRegistration :=
      fun hreg => ClientRequest.isRegistration_toRequest.mp hreg items rfl
    show List.Forall₂ _ (List.filter _ s.connection.sent)
      (List.filter _ (s.connection.sent ++
        [(ClientRequest.configuration items).toRequest s.nextRequestId]))
    rw [List.filter_append, List.filter_singleton]
    simp only [hpull, decide_false, cond_false, List.append_nil]
    refine List.forall₂_same.mpr fun message hmem => ?_
    have hsent := (List.mem_filter.mp hmem).1
    obtain ⟨asked, n, rfl⟩ := htidy.encoded message hsent
    exact ⟨asked, asked, n, n, rfl, rfl,
      ClientRequest.alike_self fun m id hname => hdrawn id (h.sent asked n hsent m id hname)⟩
  case supply => exact fun k => ⟨k, rfl, rfl⟩
  case drawn => rfl
  case capabilities => rfl
  case formatOnType => rfl

/-- Settings that the client sends and settings that are pulled leave ledgers that are alike. -/
theorem alike_pushed_pulled {responded : Int → Prop} (h : s.Traceable)
    (htidy : s.ledger.mail.Tidy responded) {supply' : Nat → RegistrationId}
    (hold : ∀ k < s.drawn, supply' k = s.supply k) {response : Response} {rest : List Json}
    (hnull : settings ≠ .null) (hid : response.id = some s.nextRequestId)
    (herror : response.error = none) (hresult : response.result =
      some (.array ((settings.member? s.sectionName).getD .null :: rest)))
    (hpush : (s.changeConfiguration settings).1 = .ok ())
    (hask : (({ s with supply := supply' } : Session).changeConfiguration .null).1 = .ok ())
    (hpull : ((({ s with supply := supply' } : Session).changeConfiguration .null).2.handleResponse
      response).1 = .ok ()) :
    (s.changeConfiguration settings).2.ledger.Alike (SameTurn s.supply supply')
      (Equiv.swap s.nextRequestId (s.nextRequestId + 1))
      ((({ s with supply := supply' } : Session).changeConfiguration .null).2.handleResponse
        response).2.ledger := by
  obtain ⟨s₁, hl, hpulled⟩ := exists_of_pull hask hid herror hresult
  have hpushed : s.changeConfiguration settings = s.applySettings settings := by
    rw [changeConfiguration_eq, if_neg hnull]
  have hsection : s₁.sectionName = s.sectionName := congrArg Ledger.sectionName hl
  have hrequested : s₁.requestedFormatOnType (settings.restrict s.sectionName) =
      s.requestedFormatOnType settings := by
    rw [requestedFormatOnType, requestedFormatOnType, hsection]
    exact settings.lookupBool_restrict s.sectionName formatOnTypeKeys
  rw [hpulled] at hpull ⊢
  rw [hpushed] at hpush ⊢
  rw [ledger_applySettings_of_ok hpush, ledger_applySettings_of_ok hpull, hl]
  unfold Json.restrict at hrequested
  rw [hrequested]
  exact (alike_pulled h htidy hold _).reconcile (Equiv.swap_apply_left ..).symm _

/-- Settings that the client sends and settings that are pulled come to the same where their
requests go out, also if other identifiers are drawn for them.  The switch is at the same value; the
attempts to register every method and the messages about registrations that went out are the same,
up to the identifiers that are drawn and the numbers of the messages; and so are the requests that
wait, where the number after that of the pull stands for it. -/
theorem push_pull_agree (refusal : Nat → Option TransportError) (supply : Nat → RegistrationId)
    (config : Config) (operations : List Operation) :
    let s := (start ⟨refusal, []⟩ supply config).run operations
    ∀ supply' settings response rest, (∀ k < s.drawn, supply' k = supply k) → settings ≠ .null →
      let t : Session := { s with supply := supply' }
      let asked := (t.changeConfiguration .null).2
      let pushed := (s.changeConfiguration settings).2
      let pulled := (asked.handleResponse response).2
      response.id = some t.nextRequestId → response.error = none →
      response.result = some (.array
        ((settings.member? config.configurationSection).getD .null :: rest)) →
      (s.changeConfiguration settings).1 = .ok () → (t.changeConfiguration .null).1 = .ok () →
      (asked.handleResponse response).1 = .ok () →
      pushed.formatOnType = pulled.formatOnType ∧ pushed.drawn = pulled.drawn ∧
      (∀ m, List.Forall₂ (Attempt.Alike (SameTurn supply supply')) (pushed.attemptsFor m)
        (pulled.attemptsFor m)) ∧
      List.Forall₂ (Request.Alike (SameTurn supply supply'))
        (pushed.connection.sent.filter fun request => request.IsRegistration)
        (pulled.connection.sent.filter fun request => request.IsRegistration) ∧
      ∀ n, Option.Rel (ClientRequest.Alike (SameTurn supply supply')) (pushed.outstandingRequest n)
        (pulled.outstandingRequest (Equiv.swap s.nextRequestId (s.nextRequestId + 1) n)) := by
  intro s supply' settings response rest hold hnull t asked pushed pulled hid herror hresult hpush
    hask hpull
  obtain ⟨hsection, hsupply, -⟩ := (start ⟨refusal, []⟩ supply config).terms_run operations
  have hs : s.supply = supply := hsupply
  have hname : s.sectionName = config.configurationSection := hsection
  rw [← hs] at hold ⊢
  rw [← hname] at hresult
  have halike : pushed.ledger.Alike (SameTurn s.supply supply')
      (Equiv.swap s.nextRequestId (s.nextRequestId + 1)) pulled.ledger :=
    alike_pushed_pulled (traceable_run refusal supply config operations) (tidy_run operations) hold
      hnull hid herror hresult hpush hask hpull
  exact ⟨halike.formatOnType, halike.drawn, fun m => alike_attemptsFor (halike.recorded m),
    halike.sent, halike.waiting⟩

/-- The switch is turned on, and the identifier that is drawn for the registration is another one
after the pull. -/
theorem push_pull_agree_of_turned_on :
    let s := (start .accepting .ofLength .default).run
      [.declare (leafAt (Capabilities.registrationPath Method.onTypeFormatting) (.boolean true)),
        .register "a/b" none]
    let supply' := fun k => if k = 0 then RegistrationId.ofLength 0 else .ofLength (k + 4)
    let t : Session := { s with supply := supply' }
    let pushed := (s.changeConfiguration
      (leafAt ("puppet" :: formatOnTypeKeys) (.boolean true))).2
    let pulled := ((t.changeConfiguration .null).2.handleResponse
      (.success 2 (.array [leafAt formatOnTypeKeys (.boolean true)]))).2
    pushed.attemptsFor Method.onTypeFormatting = [.start (.ofLength 1)] ∧
    pulled.attemptsFor Method.onTypeFormatting = [.start (.ofLength 5)] ∧
    ∀ n, Option.Rel (ClientRequest.Alike (SameTurn .ofLength supply'))
      (pushed.outstandingRequest n) (pulled.outstandingRequest (Equiv.swap 2 3 n)) := by
  intro s supply' t pushed pulled
  refine ⟨by decide, by decide, ?_⟩
  have hold : ∀ k < s.drawn, supply' k = RegistrationId.ofLength k := by
    intro k hk
    have hzero : k = 0 := Nat.lt_one_iff.mp hk
    rw [hzero]
    rfl
  have hagree := push_pull_agree (fun _ => none) .ofLength .default
    [.declare (leafAt (Capabilities.registrationPath Method.onTypeFormatting) (.boolean true)),
      .register "a/b" none] supply' (leafAt ("puppet" :: formatOnTypeKeys) (.boolean true))
    (.success 2 (.array [leafAt formatOnTypeKeys (.boolean true)])) [] hold (by decide) rfl rfl rfl
    rfl rfl rfl
  exact hagree.2.2.2.2

end Session

end EditorSession
