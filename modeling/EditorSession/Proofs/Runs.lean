import EditorSession.Proofs.Performing

/-! # Runs of a session

`Session.Arises` says which sessions arise from one by operations that are allowed where they are
performed.  What holds of the ledger at the start and is kept by the answers and the moves of
allowed operations holds of every session that arises (`Arises.keeps`); in particular every ledger
is sound.  Hence no attempt is left pending without a request that waits (`pending_attended`). -/

namespace EditorSession

namespace Ledger

/-- The moves leave the supply of identifiers and the schedule of the connection as they are. -/
theorem terms_after (l : Ledger) (move : Move) :
    (l.after move).supply = l.supply ∧ (l.after move).refusal = l.refusal := by
  have hunregister : ∀ method, (l.unregister method).supply = l.supply ∧
      (l.unregister method).refusal = l.refusal := by
    intro method
    unfold unregister
    split_ifs <;> exact ⟨rfl, rfl⟩
  cases move with
  | unregister method => exact hunregister method
  | toggle =>
      simp only [after, toggle]
      split_ifs
      · exact hunregister _
      · exact ⟨rfl, rfl⟩
  | _ => exact ⟨rfl, rfl⟩

/-- What the answers keep, an operation keeps by the answer that it brings. -/
theorem keeps_taking {P : Ledger → Prop} {l : Ledger} {operation : Operation} (hl : P l)
    (hanswer : ∀ response n asked, operation = .handle response → response.id = some n →
      l.waiting n = some asked → P (l.answer n response.hasResult)) : P (l.taking operation) := by
  rcases l.taking_cases operation with he | ⟨response, n, asked, hop, hid, hw, he⟩
  · rw [he]
    exact hl
  · rw [he]
    exact hanswer response n asked hop hid hw

theorem terms_taking (l : Ledger) (operation : Operation) :
    (l.taking operation).supply = l.supply ∧ (l.taking operation).refusal = l.refusal := by
  refine keeps_taking (P := fun l' => l'.supply = l.supply ∧ l'.refusal = l.refusal) ⟨rfl, rfl⟩ ?_
  intro response n asked _ _ hw
  rw [answer_of_waiting hw]
  exact ⟨rfl, rfl⟩

theorem Sound.taking {l : Ledger} (h : l.Sound) (operation : Operation) :
    (l.taking operation).Sound := keeps_taking h fun _ _ _ _ _ _ => h.answer _ _

/-- What each kind of move keeps, all moves keep that take no answer in out of turn. -/
theorem keeps_after {P : Ledger → Prop} {l : Ledger} {move : Move}
    (hmove : ∀ asked accepted, move ≠ .settle asked accepted) (hl : P l) (hdraw : P l.draw)
    (hregister : ∀ method options, P (l.register method options))
    (hunregister : ∀ method, P (l.unregister method))
    (hpull : ∀ items, P (l.dispatch (.configuration items)))
    (hflags : ∀ l' capabilities formatOnType, P l' →
      P { l' with capabilities := capabilities, formatOnType := formatOnType }) :
    P (l.after move) := by
  cases move with
  | declare capabilities => exact hflags l capabilities l.formatOnType hl
  | register method options => exact hregister method options
  | draw => exact hdraw
  | unregister method => exact hunregister method
  | pull items => exact hpull items
  | settle asked accepted => exact absurd rfl (hmove asked accepted)
  | toggle =>
      show P l.toggle
      unfold toggle
      split_ifs
      · exact hflags _ _ _ (hunregister _)
      · exact hflags _ _ _ (hregister _ _)
  | flip => exact hflags l l.capabilities _ hl

end Ledger

/-- The answers to register and unregister requests are only handed over as responses. -/
def Operation.IsMediated : Operation → Prop
  | .onRegister _ _ | .onUnregister _ _ => False
  | _ => True

theorem Ledger.Makes.ne_settle {l : Ledger} {operation : Operation} {move : Move}
    (h : l.Makes operation move) (hop : operation.IsMediated) (asked : ClientRequest)
    (accepted : Bool) : move ≠ .settle asked accepted := by
  rintro rfl
  cases h with
  | onRegister => exact hop
  | onUnregister => exact hop
  | settings _ hf => exact hf

/-- The identifiers of one letter, by their lengths. -/
def RegistrationId.ofLength (i : Nat) : RegistrationId := ⟨String.ofList (List.replicate i 'x')⟩

theorem RegistrationId.ofLength_injective : Function.Injective ofLength := by
  intro i j h
  have hlength := congrArg (fun id => id.text.toList.length) h
  simpa [ofLength] using hlength

namespace Session

/-- The sessions that arise from one by operations that are allowed in the session that performs
them. -/
inductive Arises (allowed : Session → Operation → Prop) (origin : Session) : Session → Prop
  | start : Arises allowed origin origin
  | step {s : Session} (operation : Operation) : Arises allowed origin s →
      allowed s operation → Arises allowed origin (s.perform operation).2

/-- Where every operation is allowed, every run arises. -/
theorem arises_run (s : Session) (operations : List Operation) :
    Arises (fun _ _ => True) s (s.run operations) := by
  induction operations using List.reverseRecOn with
  | nil => exact .start
  | append_singleton operations operation ih =>
      rw [run_append]
      exact ih.step operation trivial

/-- What arises, arises by a run. -/
theorem Arises.exists_run {allowed : Session → Operation → Prop} {origin s : Session}
    (h : Arises allowed origin s) : ∃ operations, s = origin.run operations := by
  induction h with
  | start => exact ⟨[], rfl⟩
  | step operation _ _ ih =>
      obtain ⟨operations, rfl⟩ := ih
      exact ⟨operations ++ [operation], by rw [run_append]; rfl⟩

section invariants
variable {allowed : Session → Operation → Prop} {connection : Connection}
  {supply : Nat → RegistrationId} {config : Config} {s : Session}

/-- Nothing is on record and nothing waits at the start. -/
theorem sound_start (connection : Connection) (supply : Nat → RegistrationId) (config : Config) :
    (start connection supply config).ledger.Sound where
  named := fun _ _ ha => nomatch ha
  distinct := fun _ => List.nodup_nil
  drawn := fun _ _ hm => by
    rcases hm with ⟨_, ha, -⟩ | ⟨_, _, hn, -⟩
    · nomatch ha
    · nomatch hn
  home := fun _ _ _ hm _ => by
    rcases hm with ⟨_, ha, -⟩ | ⟨_, _, hn, -⟩
    · nomatch ha
    · nomatch hn
  single := fun _ _ hn => nomatch hn
  once := fun _ _ _ _ hn => nomatch hn
  numbered := fun _ _ hn => nomatch hn
  attended := fun _ _ ha => nomatch ha

/-- What the answer of an operation and its moves keep, the operation keeps. -/
theorem perform_keeps {P : Ledger → Prop} {operation : Operation} (hs : s.ledger.Sound)
    (hi : Function.Injective s.supply) (htaking : P (s.ledger.taking operation))
    (hafter : ∀ (l : Ledger) (move : Ledger.Move), s.ledger.Makes operation move → l.Sound →
      Function.Injective l.supply → P l → P (l.after move)) :
    (s.perform operation).2.ledger.Sound ∧ (s.perform operation).2.supply = s.supply ∧
      P (s.perform operation).2.ledger := by
  have hmoves := moves_perform hs hi operation
  refine hmoves.keeps (P := fun l => l.Sound ∧ l.supply = s.supply ∧ P l) ?_ ?_
  · rintro l move hmove ⟨hl, hsupply, hP⟩
    have hli : Function.Injective l.supply := hsupply ▸ hi
    exact ⟨hl.after hli move, (l.terms_after move).1.trans hsupply, hafter l move hmove hl hli hP⟩
  · exact ⟨hs.taking operation, (s.ledger.terms_taking operation).1, htaking⟩

/-- What holds of the ledger at the start, and is kept by the answers that allowed operations take
in and by their moves, holds of every session that arises. -/
theorem Arises.keeps {P : Ledger → Prop} (hi : Function.Injective supply)
    (hstart : P (Session.start connection supply config).ledger)
    (htaking : ∀ s operation, allowed s operation → s.ledger.Sound → P s.ledger →
      P (s.ledger.taking operation))
    (hafter : ∀ s operation, allowed s operation → P s.ledger →
      ∀ (l : Ledger) (move : Ledger.Move), s.ledger.Makes operation move → l.Sound →
      Function.Injective l.supply → P l → P (l.after move))
    (h : Arises allowed (Session.start connection supply config) s) :
    s.ledger.Sound ∧ s.supply = supply ∧ P s.ledger := by
  induction h with
  | start => exact ⟨sound_start _ _ _, rfl, hstart⟩
  | @step s operation _ hallowed ih =>
      obtain ⟨hs, hsupply, hP⟩ := ih
      obtain ⟨hs', hsupply', hP'⟩ := perform_keeps hs (hsupply ▸ hi)
        (htaking s operation hallowed hs hP) (hafter s operation hallowed hP)
      exact ⟨hs', hsupply'.trans hsupply, hP'⟩

theorem Arises.sound (hi : Function.Injective supply)
    (h : Arises allowed (Session.start connection supply config) s) : s.ledger.Sound :=
  (h.keeps (P := fun _ => True) hi trivial (fun _ _ _ _ _ => trivial)
    fun _ _ _ _ _ _ _ _ _ _ => trivial).1

theorem sound_run (hi : Function.Injective supply) (operations : List Operation) :
    ((start connection supply config).run operations).ledger.Sound :=
  (arises_run _ operations).sound hi

/-! ### Views of the attempts -/

/-- The public view shows the attempts on record, or the stand-in. -/
theorem mem_attemptsFor {method : String} {a : Attempt} (h : a ∈ s.attemptsFor method) :
    a ∈ s.ledger.recorded method ∨ a = .never := by
  unfold attemptsFor at h
  by_cases hr : s.registry.recorded method = []
  · rw [Registry.attemptsFor_eq_never_of_recorded_eq_nil hr] at h
    exact .inr (List.mem_singleton.mp h)
  · rw [Registry.attemptsFor_of_recorded_ne_nil hr] at h
    exact .inl h

theorem mem_attemptsFor_of_mem {method : String} {a : Attempt}
    (h : a ∈ s.ledger.recorded method) : a ∈ s.attemptsFor method := by
  have hr : s.registry.recorded method ≠ [] := List.ne_nil_of_mem h
  rw [attemptsFor, Registry.attemptsFor_of_recorded_ne_nil hr]
  exact h

/-! ### Pending attempts -/

/-- After every sequence of operations, an attempt that is pending is one that some outstanding
request names.  So nothing is pending where no register or unregister request is outstanding. -/
theorem pending_attended (hi : Function.Injective supply) (operations : List Operation) :
    let s := (start connection supply config).run operations
    (∀ method, ∀ a ∈ s.attemptsFor method, a.isPending = true → ∃ id, a.id = some id ∧
      ∃ n asked, s.outstandingRequest n = some asked ∧ asked.Names method id) ∧
    ((∀ n asked, s.outstandingRequest n = some asked → ¬ asked.IsRegistration) →
      ∀ method, s.registry.hasPending method = false) := by
  intro s
  have hs : s.ledger.Sound := sound_run hi operations
  have hattended : ∀ method, ∀ a ∈ s.ledger.recorded method, a.isPending = true →
      ∃ id, a.id = some id ∧ ∃ n asked, s.outstandingRequest n = some asked ∧
        asked.Names method id := by
    intro method a ha hp
    obtain ⟨n, asked, hw, id, hid, hn⟩ :=
      hs.attended method a ha (Attempt.isPending_eq_true_iff.mp hp)
    exact ⟨id, hid, n, asked, hw, hn⟩
  refine ⟨fun method a ha hp => ?_, fun hquiet method => ?_⟩
  · rcases mem_attemptsFor ha with ha | rfl
    · exact hattended method a ha hp
    · simp [Attempt.never, Attempt.isPending] at hp
  · rw [Registry.hasPending, List.any_eq_false]
    intro a ha hp
    obtain ⟨id, -, n, asked, hw, hn⟩ := hattended method a ha hp
    exact hquiet n asked hw (ClientRequest.isRegistration_of_names hn)

end invariants

/-- An attempt that is to be registered and unregistered, and one that was answered. -/
theorem pending_attended_examples :
    (∃ id, (Attempt.start (.ofLength 0)).id = some id ∧ ∃ n asked,
      ((start .accepting .ofLength .default).run
        [.register "a/b" none, .unregister "a/b"]).outstandingRequest n = some asked ∧
      asked.Names "a/b" id) ∧
    ((start .accepting .ofLength .default).run
      [.register "a/b" none, .handle (.success 1 .null)]).registry.hasPending "a/b" = false := by
  constructor
  · exact (pending_attended RegistrationId.ofLength_injective
      [.register "a/b" none, .unregister "a/b"]).1 "a/b" _ (by decide) (by decide)
  · refine (pending_attended RegistrationId.ofLength_injective
      [.register "a/b" none, .handle (.success 1 .null)]).2 ?_ "a/b"
    intro n asked h
    cases h

end Session

end EditorSession
