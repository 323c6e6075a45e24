import EditorSession.Proofs.Correspondence

/-! # Settings that reach a session

Settings reach a session when they are applied, when the client sends them, and as the answer to a
pull.  `Session.delivery?` says which settings an operation delivers, and whatever the way, the
operation comes down to applying them (`Session.perform_of_delivery`). -/

namespace EditorSession

/-- The first item of the answer to a pull, if the client could answer. -/
def Response.firstItem? (response : Response) : Option Json :=
  if response.error.isSome then none else (response.result.bind Json.items?).bind List.head?

namespace Ledger

/-- The answer to a pull is only dismissed. -/
theorem answer_of_waiting_configuration {l : Ledger} {n : Int} {items : List ConfigurationItem}
    (hw : l.waiting n = some (.configuration items)) (accepted : Bool) :
    l.answer n accepted = l.dismiss n := by
  rw [answer_of_waiting hw, settle_configuration]

/-- The request that an operation answers is no longer waited for. -/
theorem waiting_taking (l : Ledger) (operation : Operation) (n : Int) :
    (l.taking operation).waiting n =
      if operation.number? = some n then none else l.waiting n := by
  cases operation with
  | handle response =>
      show _ = if response.id = some n then none else l.waiting n
      rcases l.taking_handle_cases response with ⟨k, asked, hid, hw, he⟩ | ⟨hnone, he⟩
      · rw [he, answer_of_waiting hw, hid]
        show (l.dismiss k).waiting n = _
        simp only [waiting_dismiss, Option.some.injEq, eq_comm (a := k)]
      · rw [he]
        split_ifs with hn
        · exact hnone n hn
        · rfl
  | _ => exact (if_neg (Option.some_ne_none n).symm).symm

/-- An operation that brings no response takes nothing in. -/
theorem taking_of_number?_eq_none {l : Ledger} {operation : Operation}
    (h : operation.number? = none) : l.taking operation = l := by
  cases operation with
  | handle response =>
      have hid : response.id = none := h
      simp only [taking, hid]
  | _ => rfl

end Ledger

namespace Session
variable {s : Session} {operation : Operation} {settings : Json}

/-! ### Deliveries -/

/-- The settings that the response brings as the answer to a pull. -/
def answered? (s : Session) (response : Response) : Option Json :=
  response.firstItem?.map fun content => .object [(s.sectionName, content)]

/-- The settings that the operation delivers. -/
def delivery? (s : Session) : Operation → Option Json
  | .apply settings => some settings
  | .change settings => if settings = .null then none else some settings
  | .onConfiguration response => s.answered? response
  | .handle response =>
    match response.id.bind s.outstandingRequest with
    | some (.configuration _) => s.answered? response
    | _ => none
  | _ => none

/-- Settings that were delivered by operations, in their order. -/
def deliveries (s : Session) : List Operation → List Json
  | [] => []
  | operation :: rest => (s.delivery? operation).toList ++ (s.perform operation).2.deliveries rest

/-- The answer to a pull is applied if it holds settings, and otherwise noted. -/
theorem onConfigurationResponse_eq (s : Session) (response : Response) : ∃ log,
    s.onConfigurationResponse response =
      match s.answered? response with
      | some settings => s.applySettings settings
      | none => (.ok (), { s with log := log }) := by
  unfold onConfigurationResponse answered? Response.firstItem?
  cases response.error with
  | some error => exact ⟨_, rfl⟩
  | none =>
      dsimp only
      split
      · next content rest hresult => exact ⟨[], by rw [hresult]; rfl⟩
      · next hresult =>
        have hnone : (response.result.bind Json.items?).bind List.head? = none := by
          cases hr : response.result with
          | none => rfl
          | some result =>
              cases result with
              | array items =>
                  cases items with
                  | nil => rfl
                  | cons content rest => exact absurd hr (hresult content rest)
              | _ => rfl
        rw [hnone]
        exact ⟨_, rfl⟩

theorem onConfigurationResponse_of_answered {response : Response}
    (h : s.answered? response = some settings) :
    s.onConfigurationResponse response = s.applySettings settings := by
  obtain ⟨log, heq⟩ := s.onConfigurationResponse_eq response
  rw [heq, h]

/-- A response to a pull is handed over once the pull is no longer waited for. -/
theorem handleResponse_of_pull {response : Response} {n : Int} {items : List ConfigurationItem}
    (hid : response.id = some n) (hw : s.outstandingRequest n = some (.configuration items)) :
    ∃ log, s.handleResponse response = ({ s with
      outstanding := s.outstanding.erase n, log := log } : Session).onConfigurationResponse
        response := handleResponse_of_outstanding hid hw

/-- Only null is no delivery when the client sends its settings. -/
theorem eq_null_of_delivery_change (h : s.delivery? (.change settings) = none) :
    settings = .null := by
  by_contra hne
  rw [delivery?, if_neg hne] at h
  cases h

/-- A response delivers settings as the answer to a pull that waits. -/
theorem exists_of_delivery_handle {response : Response}
    (h : s.delivery? (.handle response) = some settings) : ∃ n items, response.id = some n ∧
      s.outstandingRequest n = some (.configuration items) ∧
      s.answered? response = some settings := by
  simp only [delivery?] at h
  split at h
  · next items hpull =>
    obtain ⟨n, hid, hw⟩ := Option.bind_eq_some_iff.mp hpull
    exact ⟨n, items, hid, hw, h⟩
  · cases h

/-- An operation that delivers settings applies them, after a request that it answers is no longer
waited for. -/
theorem perform_of_delivery (h : s.delivery? operation = some settings) : ∃ outstanding log,
    s.perform operation = replying (fun _ => .done)
      (({ s with outstanding := outstanding, log := log } : Session).applySettings settings) ∧
    ({ s with outstanding := outstanding, log := log } : Session).ledger =
      s.ledger.taking operation := by
  cases operation with
  | apply applied =>
      cases h
      exact ⟨s.outstanding, s.log, rfl, rfl⟩
  | change sent =>
      simp only [delivery?] at h
      split_ifs at h with hnull
      cases h
      refine ⟨s.outstanding, s.log, ?_, rfl⟩
      simp only [perform, changeConfiguration, if_neg hnull]
  | onConfiguration response =>
      refine ⟨s.outstanding, s.log, ?_, rfl⟩
      simp only [perform, onConfigurationResponse_of_answered h]
  | handle response =>
      obtain ⟨n, items, hid, hw, hanswered⟩ := exists_of_delivery_handle h
      obtain ⟨log, heq⟩ := handleResponse_of_pull hid hw
      refine ⟨s.outstanding.erase n, log, ?_, ?_⟩
      · have hsame : ({ s with outstanding := s.outstanding.erase n, log := log } :
            Session).answered? response = some settings := hanswered
        simp only [perform, heq, onConfigurationResponse_of_answered hsame]
      · have htake : s.ledger.taking (.handle response) = s.ledger.dismiss n := by
          simp only [Ledger.taking, hid]
          exact Ledger.answer_of_waiting_configuration hw _
        rw [htake]
        exact s.ledger_erase n log
  | _ => cases h

/-! ### The switch -/

/-- The switch is left at what the settings say, if they say anything. -/
theorem settings_applySettings (s : Session) (settings : Json) :
    (s.applySettings settings).2.settings =
      ⟨(s.requestedFormatOnType settings).getD s.formatOnType⟩ := by
  by_cases h : s.Turns settings
  · have hvalue : (s.requestedFormatOnType settings).getD s.formatOnType = !s.formatOnType := by
      rw [show s.requestedFormatOnType settings = some !s.formatOnType from h, Option.getD_some]
    rw [hvalue]
    by_cases hc : s.ledger.SupportsFormatting
    · obtain ⟨log, heq⟩ := applySettings_of_turns h hc
      rw [heq]
    · obtain ⟨log, heq⟩ := applySettings_of_turns_of_not_supports h hc
      rw [heq]
  · have hvalue : (s.requestedFormatOnType settings).getD s.formatOnType = s.formatOnType := by
      cases hr : s.requestedFormatOnType settings with
      | none => rfl
      | some enable =>
          by_contra hne
          exact h (hr.trans (congrArg some (Bool.eq_not_of_ne hne)))
    obtain ⟨log, heq⟩ := applySettings_of_not_turns h
    rw [heq, hvalue]
    rfl

end Session

end EditorSession
