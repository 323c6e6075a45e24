import EditorSession.Proofs.Settling

/-! # What an operation does to the ledger

`Ledger.Makes` lists the moves of every operation of a session, and `Session.moves_perform` says
that an operation makes no others.  An answer is one move (`Ledger.answer`), after which only
requests for the configuration and the consequences of settings may follow
(`handleResponse_moves`). -/

namespace EditorSession

/-! ### The moves of an operation -/

/-- The client lets formatting while typing be registered. -/
def Ledger.SupportsFormatting (l : Ledger) : Prop :=
  l.capabilities.supportsDynamicRegistration Method.onTypeFormatting = true

/-- The moves that settings may bring about. -/
def Ledger.FollowsSettings (l : Ledger) : Move → Prop
  | .toggle => l.SupportsFormatting
  | .flip => ¬ l.SupportsFormatting ∨ l.Refuses
  | .draw => l.Refuses
  | _ => False

/-- The operation may bring settings. -/
def Ledger.BringsSettings (l : Ledger) : Operation → Prop
  | .change settings => settings ≠ .null
  | .apply _ | .onConfiguration _ => True
  | .handle response =>
    ∃ n items, response.id = some n ∧ l.waiting n = some (.configuration items)
  | _ => False

/-- The ledger once the operation's answer to a request that waits, if it brings one, is taken in.
-/
def Ledger.taking (l : Ledger) (operation : Operation) : Ledger :=
  match operation with
  | .handle response =>
    match response.id with
    | some n => l.answer n response.hasResult
    | none => l
  | _ => l

/-- The moves that an operation may consist of, apart from the answer that it takes in. -/
inductive Ledger.Makes (l : Ledger) : Operation → Move → Prop
  | declare (capabilities : Json) : Makes l (.declare capabilities) (.declare ⟨capabilities⟩)
  | initialised :
      Makes l .initialised (.register Method.didChangeConfiguration (some (.object [])))
  | register (method : String) (options : Option Json) :
      Makes l (.register method options) (.register method options)
  | draw (operation : Operation) : l.Refuses → Makes l operation .draw
  | unregister (method : String) : Makes l (.unregister method) (.unregister method)
  | pull (operation : Operation) : Makes l operation (.pull [⟨none, some l.sectionName⟩])
  | onRegister (response : Response) (asked part : ClientRequest) (accepted : Bool) :
      Makes l (.onRegister response asked) (.settle part accepted)
  | onUnregister (response : Response) (asked part : ClientRequest) (accepted : Bool) :
      Makes l (.onUnregister response asked) (.settle part accepted)
  | settings {operation : Operation} {move : Move} : l.BringsSettings operation →
      l.FollowsSettings move → Makes l operation move

/-- A response answers a request that waits, or nobody waits for it. -/
theorem Ledger.taking_handle_cases (l : Ledger) (response : Response) :
    (∃ n asked, response.id = some n ∧ l.waiting n = some asked ∧
      l.taking (.handle response) = l.answer n response.hasResult) ∨
    (∀ n, response.id = some n → l.waiting n = none) ∧ l.taking (.handle response) = l := by
  simp only [taking]
  cases response.id with
  | none => exact .inr ⟨nofun, rfl⟩
  | some n =>
      cases hw : l.waiting n with
      | none =>
          refine .inr ⟨fun k hk => ?_, answer_of_not_waiting hw _⟩
          rw [← Option.some.inj hk, hw]
      | some asked => exact .inl ⟨n, asked, rfl, hw, rfl⟩

/-- Either the operation brings the answer to a request that waits, or there is nothing to take in.
-/
theorem Ledger.taking_cases (l : Ledger) (operation : Operation) : l.taking operation = l ∨
    ∃ response n asked, operation = .handle response ∧ response.id = some n ∧
      l.waiting n = some asked ∧ l.taking operation = l.answer n response.hasResult := by
  cases operation with
  | handle response =>
      rcases l.taking_handle_cases response with ⟨n, asked, hid, hw, he⟩ | ⟨-, he⟩
      · exact .inr ⟨response, n, asked, rfl, hid, hw, he⟩
      · exact .inl he
  | _ => exact .inl rfl

namespace Session

open Ledger (Moves)

variable {s : Session} {settings : Json}

/-! ### Settings -/

/-- The settings turn the switch. -/
def Turns (s : Session) (settings : Json) : Prop :=
  s.requestedFormatOnType settings = some !s.formatOnType

/-- Settings that do not turn the switch are at most noted. -/
theorem applySettings_of_not_turns (h : ¬ s.Turns settings) :
    ∃ log, s.applySettings settings = (.ok (), { s with log := log }) := by
  unfold applySettings
  cases hr : s.requestedFormatOnType settings with
  | none => exact ⟨_, rfl⟩
  | some enable =>
      have hsame : enable = s.formatOnType := by
        by_contra hne
        exact h (hr.trans (congrArg some (Bool.eq_not_of_ne hne)))
      dsimp only
      rw [if_pos hsame]
      exact ⟨s.log, rfl⟩

/-- Where the client does not support the registration, only the switch is turned. -/
theorem applySettings_of_turns_of_not_supports (h : s.Turns settings)
    (hc : ¬ s.ledger.SupportsFormatting) : ∃ log,
    s.applySettings settings =
      (.ok (), { s with log := log, settings := ⟨!s.formatOnType⟩ }) := by
  have hrequested : s.requestedFormatOnType settings = some !s.formatOnType := h
  have hcapable : ¬ s.capabilities.supportsDynamicRegistration Method.onTypeFormatting = true := hc
  unfold applySettings
  rw [hrequested]
  dsimp only
  rw [if_neg (Bool.not_ne_self s.formatOnType), if_neg hcapable]
  exact ⟨_, rfl⟩

/-- Where the client supports the registration, it is asked to follow the switch. -/
theorem applySettings_of_turns (h : s.Turns settings) (hc : s.ledger.SupportsFormatting) : ∃ log,
    s.applySettings settings = ((s.toggleOnTypeFormatting !s.formatOnType).1,
      { (s.toggleOnTypeFormatting !s.formatOnType).2 with
        log := log, settings := ⟨!s.formatOnType⟩ }) := by
  have hrequested : s.requestedFormatOnType settings = some !s.formatOnType := h
  have hcapable : s.capabilities.supportsDynamicRegistration Method.onTypeFormatting = true := hc
  unfold applySettings
  rw [hrequested]
  dsimp only
  rw [if_neg (Bool.not_ne_self s.formatOnType), if_pos hcapable]
  exact ⟨_, rfl⟩

/-- The method is registered or unregistered as the switch is to be turned, unless the connection
refuses the request. -/
theorem toggleOnTypeFormatting_cases (hs : s.ledger.Sound) (hi : Function.Injective s.supply)
    {enable : Bool} (he : enable = !s.ledger.formatOnType) : ∃ result s',
      s.toggleOnTypeFormatting enable = (result, s') ∧
      s'.ledger.formatOnType = s.ledger.formatOnType ∧
      (s'.ledger.flip = s.ledger.toggle ∨
        s.ledger.Refuses ∧ (s'.ledger = s.ledger ∨ s'.ledger = s.ledger.draw)) := by
  rw [toggleOnTypeFormatting_eq]
  unfold Ledger.toggle
  cases hf : s.ledger.formatOnType with
  | false =>
      have henable : enable = true := by rw [he, hf, Bool.not_false]
      rw [if_pos henable, if_neg Bool.false_ne_true]
      rcases registerCapability_cases hs hi Method.onTypeFormatting (some onTypeFormattingOptions)
        with ⟨s', hreg, hl⟩ | ⟨e, s', hreg, hl, hr⟩
      · rw [hreg]
        exact ⟨_, s', rfl, by rw [hl]; exact hf, .inl (congrArg Ledger.flip hl)⟩
      · rw [hreg]
        exact ⟨_, s', rfl, by rw [hl]; exact hf, .inr ⟨hr, .inr hl⟩⟩
  | true =>
      have henable : enable ≠ true := by simp [he, hf]
      rw [if_neg henable, if_pos rfl]
      rcases unregisterCapability_cases hs Method.onTypeFormatting
        with ⟨s', hreg, hl⟩ | ⟨e, s', hreg, hl, hr⟩
      · rw [hreg]
        refine ⟨_, s', rfl, ?_, .inl (congrArg Ledger.flip hl)⟩
        rw [hl, Ledger.formatOnType_unregister, hf]
      · rw [hreg]
        exact ⟨_, s', rfl, by rw [hl]; exact hf, .inr ⟨hr, .inl hl⟩⟩

/-- Settings change nothing, or they turn the switch, with a request where the client supports
that. -/
theorem applySettings_moves (hs : s.ledger.Sound) (hi : Function.Injective s.supply)
    (settings : Json) :
    Moves s.ledger.FollowsSettings s.ledger (s.applySettings settings).2.ledger := by
  by_cases hturns : s.Turns settings
  · by_cases hc : s.ledger.SupportsFormatting
    · obtain ⟨log, heq⟩ := applySettings_of_turns hturns hc
      obtain ⟨result, s', htoggle, hsame, hl⟩ :=
        @toggleOnTypeFormatting_cases s hs hi (!s.formatOnType) rfl
      rw [heq, htoggle]
      show Moves _ _ { s'.ledger with formatOnType := !s.ledger.formatOnType }
      rw [← hsame]
      show Moves _ _ s'.ledger.flip
      rcases hl with hl | ⟨hr, hl⟩
      · have hmove : s.ledger.FollowsSettings .toggle := hc
        rw [hl]
        exact .single hmove
      · have hdraw : s.ledger.FollowsSettings .draw := hr
        have hflip : s.ledger.FollowsSettings .flip := .inr hr
        rcases hl with hl | hl
        · rw [hl]
          exact .single hflip
        · rw [hl]
          exact (Moves.single hdraw).step hflip
    · obtain ⟨log, heq⟩ := applySettings_of_turns_of_not_supports hturns hc
      have hmove : s.ledger.FollowsSettings .flip := .inl hc
      rw [heq]
      exact .single hmove
  · obtain ⟨log, heq⟩ := applySettings_of_not_turns hturns
    rw [heq]
    exact .refl

theorem onConfigurationResponse_moves (hs : s.ledger.Sound) (hi : Function.Injective s.supply)
    (response : Response) :
    Moves s.ledger.FollowsSettings s.ledger (s.onConfigurationResponse response).2.ledger := by
  unfold onConfigurationResponse
  split
  · exact .refl
  · split
    · exact applySettings_moves hs hi _
    · exact .refl

/-! ### Any answer -/

/-- A response that nobody waits for changes nothing that the ledger shows. -/
theorem ledger_handleResponse_of_not_waiting {response : Response}
    (h : ∀ n, response.id = some n → s.ledger.waiting n = none) :
    (s.handleResponse response).2.ledger = s.ledger := by
  unfold handleResponse
  cases hid : response.id with
  | none => rfl
  | some n =>
      have hw : s.outstanding.find? n = none := h n hid
      dsimp only
      rw [hw]
      rfl

/-- Hands a response to the handler of the request that it answers. -/
def route (s : Session) (response : Response) (asked : ClientRequest) : Outcome Unit :=
  match asked with
  | .register _ => s.onRegisterResponse response asked
  | .unregister _ => s.onUnregisterResponse response asked
  | .configuration _ => s.onConfigurationResponse response

theorem ledger_erase (s : Session) (n : Int) (log : List Log.Event) :
    ({ s with outstanding := s.outstanding.erase n, log := log } : Session).ledger =
      s.ledger.dismiss n := by
  refine Ledger.ext rfl (funext fun k => ?_) rfl rfl rfl rfl rfl rfl rfl rfl
  exact (Table.find?_erase ..).trans (Function.update_apply ..).symm

theorem handleResponse_of_outstanding {response : Response} {n : Int} {asked : ClientRequest}
    (hid : response.id = some n) (hw : s.outstandingRequest n = some asked) : ∃ log,
      s.handleResponse response = ({ s with
        outstanding := s.outstanding.erase n, log := log } : Session).route response asked := by
  have hfind : s.outstanding.find? n = some asked := hw
  unfold handleResponse
  rw [hid]
  dsimp only
  rw [hfind]
  exact ⟨_, rfl⟩

/-- A response that is waited for goes to the handler of the request that it answers, which is no
longer waited for. -/
theorem handleResponse_of_waiting {response : Response} {n : Int} {asked : ClientRequest}
    (hid : response.id = some n) (hw : s.ledger.waiting n = some asked) : ∃ s₁ : Session,
      s₁.ledger = s.ledger.dismiss n ∧ s.handleResponse response = s₁.route response asked := by
  obtain ⟨log, heq⟩ := handleResponse_of_outstanding hid hw
  exact ⟨_, s.ledger_erase n log, heq⟩

/-- The answer to a register or unregister request that waits is taken in, and at most a pull of
the configuration follows. -/
theorem handleResponse_cases (hs : s.ledger.Sound) {response : Response} {n : Int}
    {asked : ClientRequest} (hid : response.id = some n) (hw : s.ledger.waiting n = some asked)
    (hreg : asked.IsRegistration) :
    (s.handleResponse response).2.ledger = s.ledger.answer n response.hasResult ∨
    (s.handleResponse response).2.ledger = (s.ledger.answer n response.hasResult).after
      (.pull [⟨none, some s.ledger.sectionName⟩]) := by
  obtain ⟨s₁, hl, heq⟩ := handleResponse_of_waiting hid hw
  have hd : s₁.ledger.Distinct := hl ▸ hs.distinct
  have hsettle : s₁.ledger.settle asked response.hasResult =
      s.ledger.answer n response.hasResult := by
    rw [hl, Ledger.answer_of_waiting hw]
    rfl
  have hn : s₁.ledger.sectionName = s.ledger.sectionName := by
    rw [hl]
    rfl
  rw [heq, ← hsettle, ← hn]
  cases asked with
  | register registrations =>
      obtain ⟨r, rfl⟩ := hs.single n registrations hw
      exact ledger_onRegisterResponse_singleton hd response r
  | unregister entries => exact .inl (ledger_onUnregisterResponse hd response entries)
  | configuration items => exact absurd rfl (hreg items)

/-- Once a response is taken in, the settings may change or be pulled. -/
theorem handleResponse_moves (hs : s.ledger.Sound) (hi : Function.Injective s.supply)
    (response : Response) :
    Moves (s.ledger.Makes (.handle response)) (s.ledger.taking (.handle response))
      (s.handleResponse response).2.ledger := by
  rcases s.ledger.taking_handle_cases response with ⟨n, asked, hid, hw, htake⟩ | ⟨hnone, htake⟩
  · rw [htake]
    by_cases hreg : asked.IsRegistration
    · have hpull : s.ledger.Makes (.handle response)
          (.pull [⟨none, some s.ledger.sectionName⟩]) := .pull _
      rcases handleResponse_cases hs hid hw hreg with hl | hl
      · rw [hl]
        exact .refl
      · rw [hl]
        exact .single hpull
    · obtain ⟨items, rfl⟩ : ∃ items, asked = .configuration items := by
        simpa [ClientRequest.IsRegistration] using hreg
      obtain ⟨s₁, hl, heq⟩ := handleResponse_of_waiting hid hw
      have hanswer : s.ledger.answer n response.hasResult = s₁.ledger := by
        rw [hl, Ledger.answer_of_waiting hw, Ledger.settle_configuration]
      have hi₁ : Function.Injective s₁.supply := by
        rw [show s₁.supply = s.supply from congrArg Ledger.supply hl]
        exact hi
      have hsettings := onConfigurationResponse_moves (hanswer ▸ hs.answer n _) hi₁ response
      rw [heq, hanswer]
      refine hsettings.mono fun move hmove => ?_
      rw [hl] at hmove
      exact .settings ⟨n, items, hid, hw⟩ hmove
  · rw [ledger_handleResponse_of_not_waiting hnone, htake]
    exact .refl

/-! ### All operations -/

/-- A register request goes out, or an identifier is drawn for it in vain. -/
theorem registerCapability_moves {kind : Ledger.Move → Prop} (hs : s.ledger.Sound)
    (hi : Function.Injective s.supply) {method : String} {options : Option Json}
    (hregister : kind (.register method options)) (hdraw : s.ledger.Refuses → kind .draw) :
    Moves kind s.ledger (s.registerCapability method options).2.ledger := by
  rcases registerCapability_cases hs hi method options with
    ⟨s', hreg, hl⟩ | ⟨e, s', hreg, hl, hr⟩
  · rw [hreg, hl]
    exact .single hregister
  · rw [hreg, hl]
    exact .single (hdraw hr)

theorem initialised_moves (hs : s.ledger.Sound) (hi : Function.Injective s.supply) :
    Moves (s.ledger.Makes .initialised) s.ledger s.initialised.2.ledger := by
  obtain ⟨log, ⟨-, heq⟩ | heq⟩ := s.initialised_cases
  · rw [heq]
    exact registerCapability_moves (s := { s with log := log }) hs hi .initialised
      (.draw .initialised)
  · rw [heq]
    exact .refl

theorem pullConfiguration_moves (s : Session) (operation : Operation) :
    Moves (s.ledger.Makes operation) s.ledger s.pullConfiguration.2.ledger := by
  rcases s.pullConfiguration_cases with ⟨s', hp, hl⟩ | ⟨e, s', hp, hl, -⟩
  · have hmove : s.ledger.Makes operation (.pull [⟨none, some s.ledger.sectionName⟩]) :=
      .pull operation
    rw [hp, hl]
    exact .single hmove
  · rw [hp, hl]
    exact .refl

theorem changeConfiguration_moves (hs : s.ledger.Sound) (hi : Function.Injective s.supply)
    (settings : Json) :
    Moves (s.ledger.Makes (.change settings)) s.ledger
      (s.changeConfiguration settings).2.ledger := by
  rw [changeConfiguration_eq]
  split_ifs with hnull
  · exact s.pullConfiguration_moves (.change settings)
  · exact (applySettings_moves hs hi settings).mono fun _ => .settings hnull

/-- An operation takes in the answer that it brings, if it does, and then makes only its own moves.
-/
theorem moves_perform (hs : s.ledger.Sound) (hi : Function.Injective s.supply)
    (operation : Operation) :
    Moves (s.ledger.Makes operation) (s.ledger.taking operation)
      (s.perform operation).2.ledger := by
  cases operation with
  | declare capabilities =>
      have hmove := Ledger.Makes.declare (l := s.ledger) capabilities
      exact .single hmove
  | initialised => exact initialised_moves hs hi
  | change settings => exact changeConfiguration_moves hs hi settings
  | register method options =>
      exact registerCapability_moves hs hi (.register method options)
        (.draw (.register method options))
  | unregister method =>
      show Moves _ _ (s.unregisterCapability method).2.ledger
      rcases unregisterCapability_cases hs method with ⟨s', hreg, hl⟩ | ⟨e, s', hreg, hl, -⟩
      · have hmove := Ledger.Makes.unregister (l := s.ledger) method
        rw [hreg, hl]
        exact .single hmove
      · rw [hreg, hl]
        exact .refl
  | pull => exact s.pullConfiguration_moves .pull
  | apply settings =>
      exact (applySettings_moves hs hi settings).mono fun _ => .settings trivial
  | handle response => exact handleResponse_moves hs hi response
  | onRegister response asked =>
      exact onRegisterResponse_moves hs.distinct (fun rs accepted => .onRegister ..) (.pull _)
        response asked
  | onUnregister response asked =>
      show Moves _ _ (s.onUnregisterResponse response asked).2.ledger
      cases asked with
      | unregister entries =>
          have hmove := Ledger.Makes.onUnregister (l := s.ledger) response (.unregister entries)
            (.unregister entries) response.hasResult
          rw [ledger_onUnregisterResponse hs.distinct]
          exact .single hmove
      | register registrations => exact .refl
      | configuration items => exact .refl
  | onConfiguration response =>
      exact (onConfigurationResponse_moves hs hi response).mono fun _ => .settings trivial

end Session

end EditorSession
