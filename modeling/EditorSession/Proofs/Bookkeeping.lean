import EditorSession.Proofs.Ledger
import Mathlib.Tactic

/-! # What holds of every ledger

`Ledger.Sound` collects what every move keeps: attempts bear identifiers that were drawn, each
identifier belongs to one method and one register request, requests that wait have old numbers, and
a pending attempt is one that some waiting request is about.  Each kind of change keeps it
(`Sound.dispatch`, `Sound.record`, `Sound.settle`, `Sound.dismiss`), hence each move does
(`Sound.after`). -/

namespace EditorSession.Ledger

/-! ### What a ledger mentions -/

/-- A request with the property waits for its answer. -/
def Awaits (l : Ledger) (about : Int → ClientRequest → Prop) : Prop :=
  ∃ n asked, l.waiting n = some asked ∧ about n asked

/-- The identifier stands under the method, on record or in a request that waits. -/
def Mentions (l : Ledger) (method : String) (id : RegistrationId) : Prop :=
  (∃ a ∈ l.recorded method, a.id = some id) ∨ l.Awaits fun _ asked => asked.Names method id

/-- The identifier was drawn. -/
def Drawn (l : Ledger) (id : RegistrationId) : Prop := ∃ k < l.drawn, l.supply k = id

/-- The attempts of a method bear distinct identifiers. -/
def Distinct (l : Ledger) : Prop := ∀ m, ((l.recorded m).map Attempt.id).Nodup

/-- What holds of a ledger after every sequence of moves. -/
structure Sound (l : Ledger) : Prop where
  named : ∀ m, ∀ a ∈ l.recorded m, ∃ id, a.id = some id
  distinct : l.Distinct
  drawn : ∀ m id, l.Mentions m id → ∃ i < l.drawn, l.supply i = id
  home : ∀ m m' id, l.Mentions m id → l.Mentions m' id → m = m'
  single : ∀ n rs, l.waiting n = some (.register rs) → ∃ r, rs = [r]
  once : ∀ n k r r', l.waiting n = some (.register [r]) → l.waiting k = some (.register [r']) →
    r.id = r'.id → n = k
  numbered : ∀ n asked, l.waiting n = some asked → n < l.nextRequestId
  attended : ∀ m, ∀ a ∈ l.recorded m, a.state = .pending →
    l.Awaits fun _ asked => asked.Concerns m a

variable {l : Ledger} {asked other : ClientRequest} {method : String} {n k : Int}

/-! ### Views of changed ledgers -/

theorem waiting_dispatch (l : Ledger) (asked : ClientRequest) (n : Int) :
    (l.dispatch asked).waiting n = if n = l.nextRequestId then some asked else l.waiting n :=
  Function.update_apply ..

theorem waiting_dispatch_eq_some (h : (l.dispatch asked).waiting n = some other) :
    (n = l.nextRequestId ∧ other = asked) ∨ (n ≠ l.nextRequestId ∧ l.waiting n = some other) := by
  rw [waiting_dispatch] at h
  split_ifs at h with hn
  · exact .inl ⟨hn, (Option.some.inj h).symm⟩
  · exact .inr ⟨hn, h⟩

theorem waiting_dismiss (l : Ledger) (k n : Int) :
    (l.dismiss k).waiting n = if n = k then none else l.waiting n := Function.update_apply ..

theorem waiting_dismiss_eq_some (h : (l.dismiss k).waiting n = some other) :
    n ≠ k ∧ l.waiting n = some other := by
  rw [waiting_dismiss] at h
  split_ifs at h with hn
  exact ⟨hn, h⟩

section awaits
variable {about : Int → ClientRequest → Prop}

/-- The next number is not in use. -/
theorem awaits_dispatch (h : l.waiting l.nextRequestId = none) :
    (l.dispatch asked).Awaits about ↔ l.Awaits about ∨ about l.nextRequestId asked := by
  constructor
  · rintro ⟨n, other, hn, ha⟩
    rcases waiting_dispatch_eq_some hn with ⟨rfl, rfl⟩ | ⟨-, hw⟩
    · exact .inr ha
    · exact .inl ⟨n, other, hw, ha⟩
  · rintro (⟨n, other, hn, ha⟩ | ha)
    · have hne : n ≠ l.nextRequestId := by
        rintro rfl
        cases h.symm.trans hn
      exact ⟨n, other, by rw [waiting_dispatch, if_neg hne, hn], ha⟩
    · exact ⟨_, asked, (waiting_dispatch ..).trans (if_pos rfl), ha⟩

theorem awaits_iff_of_waiting (hn : l.waiting n = some asked) :
    l.Awaits about ↔ (l.dismiss n).Awaits about ∨ about n asked := by
  constructor
  · rintro ⟨k, other, hk, ha⟩
    by_cases hkn : k = n
    · subst hkn
      cases hn.symm.trans hk
      exact .inr ha
    · exact .inl ⟨k, other, by rw [waiting_dismiss, if_neg hkn, hk], ha⟩
  · rintro (⟨k, other, hk, ha⟩ | ha)
    · exact ⟨k, other, (waiting_dismiss_eq_some hk).2, ha⟩
    · exact ⟨n, asked, hn, ha⟩

theorem awaits_of_awaits_dismiss (h : (l.dismiss n).Awaits about) : l.Awaits about := by
  obtain ⟨k, other, hk, ha⟩ := h
  exact ⟨k, other, (waiting_dismiss_eq_some hk).2, ha⟩

end awaits

@[simp] theorem recorded_record_self (l : Ledger) (method : String) (attempts : List Attempt) :
    (l.record method attempts).recorded method = attempts := Function.update_self ..

theorem recorded_record_of_ne (l : Ledger) {m : String} (h : m ≠ method)
    (attempts : List Attempt) : (l.record method attempts).recorded m = l.recorded m :=
  Function.update_of_ne h ..

theorem mem_recorded_record {m : String} {attempts : List Attempt} {b : Attempt}
    (h : b ∈ (l.record method attempts).recorded m) :
    b ∈ l.recorded m ∨ m = method ∧ b ∈ attempts := by
  by_cases hm : m = method
  · rw [hm, recorded_record_self] at h
    exact .inr ⟨hm, h⟩
  · rw [recorded_record_of_ne _ hm] at h
    exact .inl h

@[simp] theorem record_record (l : Ledger) (method : String) (attempts attempts' : List Attempt) :
    (l.record method attempts).record method attempts' = l.record method attempts' := by
  unfold record
  simp

@[simp] theorem record_recorded (l : Ledger) (method : String) :
    l.record method (l.recorded method) = l := by
  unfold record
  simp

theorem waiting_unregister (h : (l.unregister method).waiting n = some other) :
    l.waiting n = some other ∨ ∃ entries, other = .unregister entries := by
  unfold unregister at h
  split_ifs at h
  · exact .inl h
  · rcases waiting_dispatch_eq_some h with ⟨-, he⟩ | ⟨-, hw⟩
    · exact .inr ⟨_, he⟩
    · exact .inl hw

@[simp] theorem formatOnType_unregister (l : Ledger) (method : String) :
    (l.unregister method).formatOnType = l.formatOnType := by
  unfold unregister
  split_ifs <;> rfl

theorem mem_recorded_unregister {m : String} {b : Attempt}
    (h : b ∈ (l.unregister method).recorded m) :
    ∃ a ∈ l.recorded m, b = a ∨ b = Session.markLive a := by
  unfold unregister at h
  split_ifs at h
  · exact ⟨b, h, .inl rfl⟩
  · rcases mem_recorded_record h with h | ⟨rfl, h⟩
    · exact ⟨b, h, .inl rfl⟩
    · obtain ⟨a, ha, rfl⟩ := List.mem_map.mp h
      exact ⟨a, ha, .inr rfl⟩

theorem mem_recorded_register {m : String} {options : Option Json} {b : Attempt}
    (h : b ∈ (l.register method options).recorded m) :
    b ∈ l.recorded m ∨ m = method ∧ b = .start l.fresh := by
  rcases mem_recorded_record h with h | ⟨rfl, h⟩
  · exact .inl h
  · rcases List.mem_append.mp h with h | h
    · exact .inl h
    · exact .inr ⟨rfl, List.mem_singleton.mp h⟩

theorem mentions_dispatch {m : String} {id : RegistrationId}
    (h : (l.dispatch asked).Mentions m id) : l.Mentions m id ∨ asked.Names m id := by
  rcases h with ⟨a, ha, hid⟩ | ⟨n, other, hn, hid⟩
  · exact .inl (.inl ⟨a, ha, hid⟩)
  · rcases waiting_dispatch_eq_some hn with ⟨-, rfl⟩ | ⟨-, hw⟩
    · exact .inr hid
    · exact .inl (.inr ⟨n, other, hw, hid⟩)

theorem mem_settle_iff {m : String} {accepted : Bool} {b : Attempt} :
    b ∈ (l.settle asked accepted).recorded m ↔
      ∃ a ∈ l.recorded m, asked.settle accepted m a = some b := List.mem_filterMap

theorem exists_of_mem_settle {m : String} {accepted : Bool} {b : Attempt} {id : RegistrationId}
    (hb : b ∈ (l.settle asked accepted).recorded m) (hid : b.id = some id) :
    ∃ a ∈ l.recorded m, a.id = some id ∧ asked.settle accepted m a = some b := by
  obtain ⟨a, ha, hab⟩ := mem_settle_iff.mp hb
  exact ⟨a, ha, (ClientRequest.keepsId_settle asked accepted m a b hab).symm.trans hid, hab⟩

theorem mentions_settle {m : String} {id : RegistrationId} {accepted : Bool}
    (h : (l.settle asked accepted).Mentions m id) : l.Mentions m id := by
  rcases h with ⟨b, hb, hid⟩ | hw
  · obtain ⟨a, ha, hab⟩ := mem_settle_iff.mp hb
    exact .inl ⟨a, ha, by rw [← ClientRequest.keepsId_settle asked accepted m a b hab, hid]⟩
  · exact .inr hw

theorem answer_of_waiting (h : l.waiting n = some asked) (accepted : Bool) :
    l.answer n accepted = (l.settle asked accepted).dismiss n := by
  rw [answer, h]

theorem answer_of_not_waiting (h : l.waiting n = none) (accepted : Bool) :
    l.answer n accepted = l := by
  rw [answer, h]

theorem Distinct.settle (h : l.Distinct) (asked : ClientRequest) (accepted : Bool) :
    (l.settle asked accepted).Distinct := fun m =>
  Attempts.nodup_filterMap (ClientRequest.keepsId_settle asked accepted m) (h m)

theorem mentions_dismiss {m : String} {id : RegistrationId} (h : (l.dismiss n).Mentions m id) :
    l.Mentions m id := by
  rcases h with hr | hw
  · exact .inl hr
  · exact .inr (awaits_of_awaits_dismiss hw)

/-! ### Changes that keep a ledger sound -/

namespace Sound

theorem waiting_nextRequestId (h : l.Sound) : l.waiting l.nextRequestId = none := by
  rw [Option.eq_none_iff_forall_not_mem]
  intro asked hw
  have := h.numbered _ asked hw
  omega

theorem draw (h : l.Sound) : l.draw.Sound where
  named := h.named
  distinct := h.distinct
  drawn := fun m id hm => by
    obtain ⟨i, hi, hid⟩ := h.drawn m id hm
    exact ⟨i, Nat.lt_succ_of_lt hi, hid⟩
  home := h.home
  single := h.single
  once := h.once
  numbered := h.numbered
  attended := h.attended

theorem flip (h : l.Sound) : l.flip.Sound :=
  ⟨h.named, h.distinct, h.drawn, h.home, h.single, h.once, h.numbered, h.attended⟩

theorem declare (h : l.Sound) (capabilities : Capabilities) : (l.declare capabilities).Sound :=
  ⟨h.named, h.distinct, h.drawn, h.home, h.single, h.once, h.numbered, h.attended⟩

/-- A request may go out that names drawn identifiers under their methods, and registers one that
nothing mentions yet. -/
theorem dispatch (h : l.Sound) (hdrawn : ∀ m id, asked.Names m id → ∃ i < l.drawn, l.supply i = id)
    (hhome : ∀ m m' id, asked.Names m id → l.Mentions m' id ∨ asked.Names m' id → m = m')
    (hsingle : ∀ rs, asked = .register rs → ∃ r, rs = [r] ∧ ∀ m, ¬ l.Mentions m r.id) :
    (l.dispatch asked).Sound where
  named := h.named
  distinct := h.distinct
  drawn := fun m id hm => (mentions_dispatch hm).elim (h.drawn m id) (hdrawn m id)
  home := fun m m' id hm hm' => by
    rcases mentions_dispatch hm with hl | ha
    · rcases mentions_dispatch hm' with hl' | ha'
      · exact h.home m m' id hl hl'
      · exact (hhome m' m id ha' (.inl hl)).symm
    · exact hhome m m' id ha (mentions_dispatch hm')
  single := fun n rs hn => by
    rcases waiting_dispatch_eq_some hn with ⟨-, he⟩ | ⟨-, hw⟩
    · obtain ⟨r, hr, -⟩ := hsingle rs he.symm
      exact ⟨r, hr⟩
    · exact h.single n rs hw
  once := fun n k r r' hn hk hid => by
    have names : ∀ {j : Int} {q : Registration}, l.waiting j = some (.register [q]) →
        l.Mentions q.method q.id := fun hw =>
      .inr ⟨_, _, hw, ClientRequest.names_register_singleton.mpr ⟨rfl, rfl⟩⟩
    rcases waiting_dispatch_eq_some hn with ⟨rfl, he⟩ | ⟨-, hw⟩
    · rcases waiting_dispatch_eq_some hk with ⟨rfl, -⟩ | ⟨-, hw'⟩
      · rfl
      · obtain ⟨q, hq, hfree⟩ := hsingle _ he.symm
        cases hq
        exact absurd (hid ▸ names hw') (hfree _)
    · rcases waiting_dispatch_eq_some hk with ⟨rfl, he⟩ | ⟨-, hw'⟩
      · obtain ⟨q, hq, hfree⟩ := hsingle _ he.symm
        cases hq
        exact absurd (hid ▸ names hw) (hfree _)
      · exact h.once n k r r' hw hw' hid
  numbered := fun n other hn => by
    show n < l.nextRequestId + 1
    rcases waiting_dispatch_eq_some hn with ⟨rfl, -⟩ | ⟨-, hw⟩
    · omega
    · have := h.numbered n other hw
      omega
  attended := fun m a ha hp =>
    (awaits_dispatch h.waiting_nextRequestId).mpr (.inl (h.attended m a ha hp))

/-- The attempts of a method may be replaced by others whose identifiers stand under the method
already, if the pending ones are still attended to. -/
theorem record (h : l.Sound) {attempts : List Attempt}
    (hd : (attempts.map Attempt.id).Nodup)
    (hid : ∀ a ∈ attempts, ∃ id, a.id = some id ∧ l.Mentions method id)
    (hp : ∀ a ∈ attempts, a.state = .pending →
      l.Awaits fun _ asked => asked.Concerns method a) :
    (l.record method attempts).Sound := by
  have hrec : ∀ m, (m = method ∧ (l.record method attempts).recorded m = attempts) ∨
      (l.record method attempts).recorded m = l.recorded m := fun m => by
    by_cases hm : m = method
    · exact .inl ⟨hm, hm ▸ recorded_record_self l m attempts⟩
    · exact .inr (recorded_record_of_ne l hm attempts)
  have hmen : ∀ m id, (l.record method attempts).Mentions m id → l.Mentions m id := by
    rintro m id (⟨a, ha, hia⟩ | hw)
    · rcases hrec m with ⟨rfl, he⟩ | he
      · rw [he] at ha
        obtain ⟨id', hid', hl⟩ := hid a ha
        exact Option.some.inj (hia.symm.trans hid') ▸ hl
      · exact .inl ⟨a, he ▸ ha, hia⟩
    · exact .inr hw
  constructor
  case named =>
    intro m a ha
    rcases hrec m with ⟨rfl, he⟩ | he
    · obtain ⟨id, hia, -⟩ := hid a (he ▸ ha)
      exact ⟨id, hia⟩
    · exact h.named m a (he ▸ ha)
  case distinct =>
    intro m
    rcases hrec m with ⟨-, he⟩ | he
    · rw [he]
      exact hd
    · rw [he]
      exact h.distinct m
  case drawn => exact fun m id hm => h.drawn m id (hmen m id hm)
  case home => exact fun m m' id hm hm' => h.home m m' id (hmen m id hm) (hmen m' id hm')
  case single => exact h.single
  case once => exact h.once
  case numbered => exact h.numbered
  case attended =>
    intro m a ha hs
    rcases hrec m with ⟨rfl, he⟩ | he
    · exact hp a (he ▸ ha) hs
    · exact h.attended m a (he ▸ ha) hs

theorem settle (h : l.Sound) (asked : ClientRequest) (accepted : Bool) :
    (l.settle asked accepted).Sound where
  named := fun m b hb => by
    obtain ⟨a, ha, hab⟩ := mem_settle_iff.mp hb
    rw [ClientRequest.keepsId_settle asked accepted m a b hab]
    exact h.named m a ha
  distinct := h.distinct.settle asked accepted
  drawn := fun m id hm => h.drawn m id (mentions_settle hm)
  home := fun m m' id hm hm' => h.home m m' id (mentions_settle hm) (mentions_settle hm')
  single := h.single
  once := h.once
  numbered := h.numbered
  attended := fun m b hb hp => by
    obtain ⟨a, ha, hab⟩ := mem_settle_iff.mp hb
    obtain ⟨rfl, -⟩ := ClientRequest.eq_of_settle_of_pending hab hp
    exact h.attended m b ha hp

/-- A request that no pending attempt needs may be dismissed. -/
theorem dismiss (h : l.Sound)
    (hfree : ∀ m, ∀ a ∈ l.recorded m, a.state = .pending →
      ∀ asked, l.waiting n = some asked → ¬ asked.Concerns m a) :
    (l.dismiss n).Sound where
  named := h.named
  distinct := h.distinct
  drawn := fun m id hm => h.drawn m id (mentions_dismiss hm)
  home := fun m m' id hm hm' => h.home m m' id (mentions_dismiss hm) (mentions_dismiss hm')
  single := fun k rs hk => h.single k rs (waiting_dismiss_eq_some hk).2
  once := fun i j r r' hi hj =>
    h.once i j r r' (waiting_dismiss_eq_some hi).2 (waiting_dismiss_eq_some hj).2
  numbered := fun k other hk => h.numbered k other (waiting_dismiss_eq_some hk).2
  attended := fun m a ha hp => by
    obtain ⟨k, other, hk, hc⟩ := h.attended m a ha hp
    have hne : k ≠ n := by
      rintro rfl
      exact hfree m a ha hp other hk hc
    exact ⟨k, other, by rw [waiting_dismiss, if_neg hne, hk], hc⟩

theorem answer (h : l.Sound) (n : Int) (accepted : Bool) : (l.answer n accepted).Sound := by
  cases hw : l.waiting n with
  | none =>
      rw [answer_of_not_waiting hw]
      exact h
  | some asked =>
      rw [answer_of_waiting hw]
      refine (h.settle asked accepted).dismiss ?_
      intro m b hb hp other hother
      obtain ⟨a, -, hab⟩ := mem_settle_iff.mp hb
      obtain ⟨rfl, hc⟩ := ClientRequest.eq_of_settle_of_pending hab hp
      have he : asked = other := Option.some.inj (hw.symm.trans hother)
      exact he ▸ hc

/-! ### Moves keep a ledger sound -/

theorem not_mentions_fresh (h : l.Sound) (hs : Function.Injective l.supply) (m : String) :
    ¬ l.Mentions m l.fresh := by
  intro hm
  obtain ⟨i, hi, hid⟩ := h.drawn m _ hm
  have := hs hid
  omega

theorem register (h : l.Sound) (hs : Function.Injective l.supply) (method : String)
    (options : Option Json) : (l.register method options).Sound := by
  have hfree := h.not_mentions_fresh hs
  have hsent : (l.draw.dispatch (.register [⟨l.fresh, method, options⟩])).Sound := by
    refine h.draw.dispatch ?_ ?_ ?_
    · intro m id hn
      obtain ⟨-, rfl⟩ := ClientRequest.names_register_singleton.mp hn
      exact ⟨l.drawn, Nat.lt_succ_self _, rfl⟩
    · intro m m' id hn hm'
      obtain ⟨rfl, rfl⟩ := ClientRequest.names_register_singleton.mp hn
      rcases hm' with hm' | hn'
      · exact absurd hm' (hfree m')
      · exact (ClientRequest.names_register_singleton.mp hn').1
    · intro rs hrs
      cases hrs
      exact ⟨_, rfl, hfree⟩
  have hwait : (l.draw.dispatch (.register [⟨l.fresh, method, options⟩])).waiting
      l.nextRequestId = some (.register [⟨l.fresh, method, options⟩]) := by
    rw [waiting_dispatch]
    exact if_pos rfl
  have hname : (ClientRequest.register [⟨l.fresh, method, options⟩]).Names method l.fresh :=
    ClientRequest.names_register_singleton.mpr ⟨rfl, rfl⟩
  refine hsent.record ?_ ?_ ?_
  · rw [List.map_append, List.nodup_append]
    refine ⟨h.distinct method, List.nodup_singleton _, ?_⟩
    intro id hid id' hid' he
    obtain ⟨a, ha, rfl⟩ := List.mem_map.mp hid
    cases List.mem_singleton.mp hid'
    exact hfree method (.inl ⟨a, ha, he⟩)
  · intro a ha
    rcases List.mem_append.mp ha with ha | ha
    · obtain ⟨id, hid⟩ := h.named method a ha
      exact ⟨id, hid, .inl ⟨a, ha, hid⟩⟩
    · cases List.mem_singleton.mp ha
      exact ⟨l.fresh, rfl, .inr ⟨_, _, hwait, hname⟩⟩
  · intro a ha hp
    rcases List.mem_append.mp ha with ha | ha
    · exact hsent.attended method a ha hp
    · cases List.mem_singleton.mp ha
      exact ⟨_, _, hwait, l.fresh, rfl, hname⟩

theorem unregister (h : l.Sound) (method : String) : (l.unregister method).Sound := by
  unfold Ledger.unregister
  split_ifs with hlive
  · exact h
  have hsent : (l.dispatch (.unregister ((l.live method).map fun id => ⟨id, method⟩))).Sound := by
    have hmen : ∀ m id,
        (ClientRequest.unregister ((l.live method).map fun id => ⟨id, method⟩)).Names m id →
        m = method ∧ l.Mentions m id := by
      intro m id hn
      obtain ⟨rfl, hid⟩ := names_unregister_live.mp hn
      obtain ⟨a, ha, hai, -⟩ := mem_live_iff.mp hid
      exact ⟨rfl, .inl ⟨a, ha, hai⟩⟩
    refine h.dispatch (fun m id hn => h.drawn m id (hmen m id hn).2) ?_ (fun rs he => nomatch he)
    rintro m m' id hn (hm' | hn')
    · exact h.home m m' id (hmen m id hn).2 hm'
    · exact (hmen m id hn).1.trans (hmen m' id hn').1.symm
  refine hsent.record ?_ ?_ ?_
  · rw [List.map_map, show Attempt.id ∘ Session.markLive = Attempt.id from
      funext Session.id_markLive]
    exact h.distinct method
  · intro b hb
    obtain ⟨a, ha, rfl⟩ := List.mem_map.mp hb
    obtain ⟨id, hid⟩ := h.named method a ha
    exact ⟨id, by rw [Session.id_markLive, hid], .inl ⟨a, ha, hid⟩⟩
  · intro b hb hp
    obtain ⟨a, ha, rfl⟩ := List.mem_map.mp hb
    obtain ⟨id, hid⟩ := h.named method a ha
    by_cases hr : a.isRejected = true
    · rw [Session.markLive_of_isRejected hr] at hp
      rw [Attempt.isRejected_eq_true_iff, hp] at hr
      cases hr.1
    · have hin : id ∈ l.live method := mem_live_iff.mpr ⟨a, ha, hid, by simpa using hr⟩
      refine ⟨_, _, (waiting_dispatch ..).trans (if_pos rfl), id, ?_, ?_⟩
      · rw [Session.id_markLive, hid]
      · exact names_unregister_live.mpr ⟨rfl, hin⟩

theorem pull (h : l.Sound) (items : List ConfigurationItem) :
    (l.dispatch (.configuration items)).Sound :=
  h.dispatch (fun _ _ hn => hn.elim) (fun _ _ _ hn => hn.elim) (fun _ he => nomatch he)

theorem after (h : l.Sound) (hs : Function.Injective l.supply) (move : Move) :
    (l.after move).Sound := by
  cases move with
  | declare capabilities => exact h.declare capabilities
  | register method options => exact h.register hs method options
  | draw => exact h.draw
  | unregister method => exact h.unregister method
  | pull items => exact h.pull items
  | settle asked accepted => exact h.settle asked accepted
  | toggle =>
      show l.toggle.Sound
      unfold toggle
      split_ifs
      · exact (h.unregister _).flip
      · exact (h.register hs _ _).flip
  | flip => exact h.flip

end Sound

end EditorSession.Ledger
