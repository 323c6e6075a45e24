import EditorSession.Proofs.Attempts
import Mathlib.Data.List.Induction

/-! # Settlements of a registry

An answer settles the attempts that bear an identifier: it removes those that it does not spare, and
changes the first of the others (`Attempts.settle`).  A settlement looks at no attempt with another
identifier, so two of them commute, and one that is repeated finds nothing more to do, also where
identifiers repeat (`Registry.settlements_commute`).  Attempts are only ever removed or changed in
place, hence the view of a method shows what was recorded for it and was not removed
(`Registry.view_consistent`). -/

namespace EditorSession

/-! ### Settlements of a list -/

/-- What an answer does to the attempts with an identifier. -/
inductive Settlement where
  /-- The client answered the registration. -/
  | complete (succeeded : Bool)
  /-- The client unregistered the attempt. -/
  | remove
  /-- The client refused to unregister the attempt. -/
  | retain
deriving DecidableEq, Repr

namespace Settlement

/-- The attempt is not removed. -/
def spares : Settlement → Attempt → Bool
  | complete _, _ => true
  | remove, _ => false
  | retain, a => a.registered

/-- What becomes of the first attempt that is not removed. -/
def change : Settlement → Attempt → Attempt
  | complete succeeded, a => a.settle succeeded
  | remove, a => a
  | retain, a => a.withState .complete

variable {x : Settlement} {a : Attempt}

@[simp] theorem id_change (x : Settlement) (a : Attempt) : (x.change a).id = a.id := by
  cases x <;> rfl

theorem hasId_change (x : Settlement) (a : Attempt) (id : RegistrationId) :
    (x.change a).hasId id = a.hasId id := by
  simp [Attempt.hasId]

theorem spares_change (h : x.spares a = true) : x.spares (x.change a) = true := by
  cases x with
  | complete succeeded => rfl
  | remove => cases h
  | retain => exact h

theorem change_change (x : Settlement) (a : Attempt) : x.change (x.change a) = x.change a := by
  cases x <;> rfl

/-- A settlement leaves no attempt registered that still waits for an answer. -/
theorem state_change (h : a.registered = true → a.state = .complete)
    (hr : (x.change a).registered = true) : (x.change a).state = .complete := by
  cases x with
  | complete succeeded => rfl
  | remove => exact h hr
  | retain => rfl

end Settlement

namespace Attempts
variable {x : Settlement} {id id' : RegistrationId} {change change' : Attempt → Attempt}
  {a b : Attempt}

/-- Settles the attempts with the identifier. -/
def settle (x : Settlement) (id : RegistrationId) (attempts : List Attempt) : List Attempt :=
  update id x.change (attempts.filter fun a => !a.hasId id || x.spares a)

theorem settle_complete (succeeded : Bool) (id : RegistrationId) (attempts : List Attempt) :
    settle (.complete succeeded) id attempts = update id (Attempt.settle succeeded) attempts := by
  have hall : attempts.filter (fun a => !a.hasId id || Settlement.spares (.complete succeeded) a) =
      attempts := List.filter_eq_self.mpr fun a _ => Bool.or_true _
  unfold settle
  rw [hall]
  rfl

theorem settle_remove (id : RegistrationId) (attempts : List Attempt) :
    settle .remove id attempts = drop id attempts := by
  have hdrop : attempts.filter (fun a => !a.hasId id || Settlement.remove.spares a) =
      drop id attempts := List.filter_congr fun a _ => Bool.or_false _
  unfold settle
  rw [hdrop]
  refine update_of_forall_not fun a ha => ?_
  simpa using (List.mem_filter.mp ha).2

theorem settle_retain (id : RegistrationId) (attempts : List Attempt) :
    settle .retain id attempts = restore id attempts := by
  have hdrop : attempts.filter (fun a => !a.hasId id || Settlement.retain.spares a) =
      dropUnregistered id attempts :=
    List.filter_congr fun a _ => by simp [Settlement.spares, Bool.not_and]
  unfold settle
  rw [hdrop]
  rfl

/-! ### Two settlements -/

theorem mem_update (h : b ∈ update id change attempts) :
    b ∈ attempts ∨ ∃ a ∈ attempts, a.hasId id = true ∧ b = change a := by
  induction attempts with
  | nil => exact .inl h
  | cons a rest ih =>
      by_cases ha : a.hasId id = true
      · rw [update, if_pos ha] at h
        rcases List.mem_cons.mp h with rfl | h
        · exact .inr ⟨a, List.mem_cons_self, ha, rfl⟩
        · exact .inl (List.mem_cons_of_mem _ h)
      · rw [update, if_neg ha] at h
        rcases List.mem_cons.mp h with rfl | h
        · exact .inl List.mem_cons_self
        · rcases ih h with h | ⟨c, hc, hid, rfl⟩
          · exact .inl (List.mem_cons_of_mem _ h)
          · exact .inr ⟨c, List.mem_cons_of_mem _ hc, hid, rfl⟩

/-- A filter that spares what bears the identifier can be applied before or after the change. -/
theorem filter_update {p : Attempt → Bool}
    (h : ∀ a, a.hasId id = true → p a = true ∧ p (change a) = true) (attempts : List Attempt) :
    (update id change attempts).filter p = update id change (attempts.filter p) := by
  induction attempts with
  | nil => rfl
  | cons a rest ih =>
      by_cases ha : a.hasId id = true
      · obtain ⟨hp, hchange⟩ := h a ha
        rw [update, if_pos ha, List.filter_cons_of_pos hchange, List.filter_cons_of_pos hp, update,
          if_pos ha]
      · rw [update, if_neg ha]
        by_cases hp : p a = true
        · rw [List.filter_cons_of_pos hp, List.filter_cons_of_pos hp, update, if_neg ha, ih]
        · rw [List.filter_cons_of_neg hp, List.filter_cons_of_neg hp, ih]

theorem hasId_eq_false_of_ne (h : id ≠ id') (ha : a.hasId id = true) : a.hasId id' = false := by
  rw [hasId_eq_false_iff, Attempt.hasId_eq_true_iff.mp ha]
  exact fun he => h (Option.some.inj he)

theorem update_update_comm (h : id ≠ id') (hc : ∀ a, (change a).id = a.id)
    (hc' : ∀ a, (change' a).id = a.id) (attempts : List Attempt) :
    update id change (update id' change' attempts) =
      update id' change' (update id change attempts) := by
  induction attempts with
  | nil => rfl
  | cons a rest ih =>
      have hkeeps : (change a).hasId id' = a.hasId id' := by simp [Attempt.hasId, hc]
      have hkeeps' : (change' a).hasId id = a.hasId id := by simp [Attempt.hasId, hc']
      cases ha : a.hasId id with
      | true =>
          have ha' := hasId_eq_false_of_ne h ha
          simp [update, ha, ha', hkeeps]
      | false =>
          cases ha' : a.hasId id' with
          | true => simp [update, ha, ha', hkeeps']
          | false => simp [update, ha, ha', ih]

theorem update_update_self (hc : ∀ a, (change a).id = a.id)
    (hchange : ∀ a, change (change a) = change a) (attempts : List Attempt) :
    update id change (update id change attempts) = update id change attempts := by
  induction attempts with
  | nil => rfl
  | cons a rest ih =>
      have hkeeps : (change a).hasId id = a.hasId id := by simp [Attempt.hasId, hc]
      cases ha : a.hasId id with
      | true => simp [update, ha, hkeeps, hchange]
      | false => simp [update, ha, ih]

/-- Settlements of different identifiers can be made in either order. -/
theorem settle_comm (h : id ≠ id') (x y : Settlement) (attempts : List Attempt) :
    settle x id (settle y id' attempts) = settle y id' (settle x id attempts) := by
  -- neither filter removes what bears the other identifier
  have hspared : ∀ {i j : RegistrationId} (z w : Settlement), i ≠ j → ∀ a : Attempt,
      a.hasId j = true → (!a.hasId i || z.spares a) = true ∧
        (!(w.change a).hasId i || z.spares (w.change a)) = true := by
    intro i j z w hne a ha
    have hother := hasId_eq_false_of_ne hne.symm ha
    rw [Settlement.hasId_change, hother]
    exact ⟨rfl, rfl⟩
  unfold settle
  rw [filter_update (hspared x y h), filter_update (hspared y x h.symm),
    update_update_comm h x.id_change y.id_change, List.filter_filter, List.filter_filter]
  simp only [Bool.and_comm]

/-- A settlement that is repeated changes nothing more. -/
theorem settle_settle (x : Settlement) (id : RegistrationId) (attempts : List Attempt) :
    settle x id (settle x id attempts) = settle x id attempts := by
  have hspared : ∀ b ∈ settle x id attempts, (!b.hasId id || x.spares b) = true := by
    intro b hb
    rcases mem_update hb with hb | ⟨a, ha, hid, rfl⟩
    · exact (List.mem_filter.mp hb).2
    · have hspares := (List.mem_filter.mp ha).2
      rw [hid, Bool.not_true, Bool.false_or] at hspares
      rw [x.spares_change hspares, Bool.or_true]
  rw [settle, List.filter_eq_self.mpr hspared]
  exact update_update_self x.id_change x.change_change _

/-! ### What a settlement leaves -/

theorem ids_settle_sublist (x : Settlement) (id : RegistrationId) (attempts : List Attempt) :
    ((settle x id attempts).map Attempt.id).Sublist (attempts.map Attempt.id) := by
  unfold settle
  rw [ids_update x.id_change]
  exact List.filter_sublist.map _

/-- A settlement leaves attempts as they are or changes them, and spares those that it leaves with
its identifier. -/
theorem exists_of_mem_settle (h : b ∈ settle x id attempts) :
    ∃ a ∈ attempts, (b = a ∨ b = x.change a) ∧ (b.hasId id = true → x.spares a = true) := by
  have hmem : ∀ a ∈ attempts.filter fun a => !a.hasId id || x.spares a,
      a ∈ attempts ∧ (a.hasId id = true → x.spares a = true) := by
    intro a ha
    obtain ⟨ha, hspares⟩ := List.mem_filter.mp ha
    exact ⟨ha, fun hid => by simpa [hid] using hspares⟩
  rcases mem_update h with hb | ⟨a, ha, -, rfl⟩
  · exact ⟨b, (hmem b hb).1, .inl rfl, (hmem b hb).2⟩
  · rw [Settlement.hasId_change]
    exact ⟨a, (hmem a ha).1, .inr rfl, (hmem a ha).2⟩

end Attempts

/-! ### Settlements of a registry -/

namespace Registry
variable {r r' : Registry} {method : String}

/-- Settles the attempts of a method with the identifier. -/
def settle (r : Registry) (method : String) (id : RegistrationId) : Settlement → Registry
  | .complete succeeded => r.markComplete method id succeeded
  | .remove => r.remove method id
  | .retain => r.settleFailedUnregistration method id

theorem recorded_settle (r : Registry) (method other : String) (id : RegistrationId)
    (x : Settlement) :
    (r.settle method id x).recorded other =
      if other = method then Attempts.settle x id (r.recorded method) else r.recorded other := by
  cases x with
  | complete succeeded =>
      rw [Attempts.settle_complete]
      exact r.recorded_markComplete method other id succeeded
  | remove =>
      rw [Attempts.settle_remove]
      exact r.recorded_remove method other id
  | retain =>
      rw [Attempts.settle_retain]
      exact r.recorded_settleFailedUnregistration method other id

theorem view_congr (h : r.recorded method = r'.recorded method) :
    r.attemptsFor method = r'.attemptsFor method ∧ r.hasPending method = r'.hasPending method := by
  unfold attemptsFor hasPending
  rw [h]
  exact ⟨rfl, rfl⟩

theorem recorded_settle_comm {id id' : RegistrationId} {other : String}
    (h : (method, id) ≠ (other, id')) (x y : Settlement) (m : String) :
    ((r.settle method id x).settle other id' y).recorded m =
      ((r.settle other id' y).settle method id x).recorded m := by
  simp only [recorded_settle]
  by_cases hm : m = method
  · by_cases ho : m = other
    · obtain rfl := hm
      obtain rfl := ho
      have hid : id' ≠ id := fun he => h (by rw [he])
      simp only [if_true]
      exact Attempts.settle_comm hid y x _
    · have hmethod : method ≠ other := fun he => ho (hm.trans he)
      simp only [if_neg ho, if_pos hm, if_neg hmethod]
  · by_cases ho : m = other
    · have hmethod : other ≠ method := fun he => hm (ho.trans he)
      simp only [if_neg hm, if_pos ho, if_neg hmethod]
    · simp only [if_neg hm, if_neg ho]

theorem recorded_settle_settle (r : Registry) (method : String) (id : RegistrationId)
    (x : Settlement) (m : String) :
    ((r.settle method id x).settle method id x).recorded m =
      (r.settle method id x).recorded m := by
  by_cases hm : m = method
  · rw [hm, recorded_settle (r.settle method id x), if_pos rfl, recorded_settle, if_pos rfl,
      Attempts.settle_settle]
  · rw [recorded_settle (r.settle method id x), if_neg hm]

/-- In every registry, also where identifiers repeat, settlements of different attempts show the
same in either order, and a settlement shows the same when it is repeated. -/
theorem settlements_commute (r : Registry) :
    (∀ method id method' id', (method, id) ≠ (method', id') → ∀ x y m,
      ((r.settle method id x).settle method' id' y).attemptsFor m =
          ((r.settle method' id' y).settle method id x).attemptsFor m ∧
        ((r.settle method id x).settle method' id' y).hasPending m =
          ((r.settle method' id' y).settle method id x).hasPending m) ∧
    ∀ method id x m,
      ((r.settle method id x).settle method id x).attemptsFor m =
          (r.settle method id x).attemptsFor m ∧
        ((r.settle method id x).settle method id x).hasPending m =
          (r.settle method id x).hasPending m :=
  ⟨fun _ _ _ _ h x y m => view_congr (recorded_settle_comm h x y m),
    fun method id x m => view_congr (r.recorded_settle_settle method id x m)⟩

/-- Of two attempts with one identifier the client holds the first; it refuses to unregister them,
and confirms that a third one is gone. -/
theorem settlements_commute_of_repeated :
    let r := (((empty.recordAttempt "a/b" ⟨"x"⟩).recordAttempt "a/b" ⟨"x"⟩).recordAttempt
      "a/b" ⟨"y"⟩).markComplete "a/b" ⟨"x"⟩ true
    r.attemptsFor "a/b" =
      [⟨some ⟨"x"⟩, true, .complete⟩, .start ⟨"x"⟩, .start ⟨"y"⟩] ∧
    ("a/b", (⟨"x"⟩ : RegistrationId)) ≠ ("a/b", ⟨"y"⟩) ∧
    ((r.settle "a/b" ⟨"x"⟩ .retain).settle "a/b" ⟨"y"⟩ .remove).attemptsFor "a/b" =
      [⟨some ⟨"x"⟩, true, .complete⟩] ∧
    ((r.settle "a/b" ⟨"y"⟩ .remove).settle "a/b" ⟨"x"⟩ .retain).attemptsFor "a/b" =
      [⟨some ⟨"x"⟩, true, .complete⟩] := by
  intro r
  have hne : ("a/b", (⟨"x"⟩ : RegistrationId)) ≠ ("a/b", ⟨"y"⟩) := by decide
  have hfirst : ((r.settle "a/b" ⟨"x"⟩ .retain).settle "a/b" ⟨"y"⟩ .remove).attemptsFor "a/b" =
      [⟨some ⟨"x"⟩, true, .complete⟩] := by decide
  have hsame := ((settlements_commute r).1 _ _ _ _ hne .retain .remove "a/b").1
  exact ⟨by decide, hne, hfirst, hsame ▸ hfirst⟩

/-! ### Registries that arise -/

/-- What a registry can be asked to do. -/
inductive Edit where
  | record (method : String) (id : RegistrationId)
  | settle (method : String) (id : RegistrationId) (x : Settlement)
deriving DecidableEq, Repr

/-- Does what it is asked to do. -/
def edit (r : Registry) : Edit → Registry
  | .record method id => r.recordAttempt method id
  | .settle method id x => r.settle method id x

/-- The registry after edits, one after the other. -/
def edited (edits : List Edit) : Registry := edits.foldl edit .empty

/-- The identifiers that were recorded for the method, in their order. -/
def Edit.idsFor (method : String) (edits : List Edit) : List RegistrationId :=
  edits.filterMap fun
    | .record other id => if other = method then some id else none
    | .settle _ _ _ => none

/-- What the record of a registry owes to the edits that made it. -/
structure Reflects (r : Registry) (edits : List Edit) : Prop where
  ids : ∀ m, ((r.recorded m).map Attempt.id).Sublist ((Edit.idsFor m edits).map some)
  complete : ∀ m, ∀ a ∈ r.recorded m, a.registered = true → a.state = .complete

section edits
variable {edits : List Edit} {id : RegistrationId}

theorem edited_concat (edits : List Edit) (e : Edit) :
    edited (edits ++ [e]) = (edited edits).edit e := by
  unfold edited
  rw [List.foldl_append]
  rfl

theorem Reflects.record (h : r.Reflects edits) (method : String) (id : RegistrationId) :
    (r.recordAttempt method id).Reflects (edits ++ [.record method id]) where
  ids := fun m => by
    rw [recorded_recordAttempt, Edit.idsFor, List.filterMap_append, List.map_append]
    by_cases hm : m = method
    · rw [if_pos hm, List.map_append, hm]
      refine (h.ids method).append ?_
      simp [Attempt.start]
    · rw [if_neg hm]
      exact (h.ids m).trans (List.sublist_append_left _ _)
  complete := fun m a ha hr => by
    rw [recorded_recordAttempt] at ha
    split_ifs at ha
    · rcases List.mem_append.mp ha with ha | ha
      · exact h.complete method a ha hr
      · rw [List.mem_singleton.mp ha] at hr
        cases hr
    · exact h.complete m a ha hr

theorem Reflects.settle (h : r.Reflects edits) (method : String) (id : RegistrationId)
    (x : Settlement) : (r.settle method id x).Reflects (edits ++ [.settle method id x]) where
  ids := fun m => by
    have hsame : Edit.idsFor m (edits ++ [.settle method id x]) = Edit.idsFor m edits := by
      simp [Edit.idsFor]
    rw [recorded_settle, hsame]
    split_ifs with hm
    · rw [hm]
      exact (Attempts.ids_settle_sublist x id _).trans (h.ids method)
    · exact h.ids m
  complete := fun m b hb hr => by
    rw [recorded_settle] at hb
    split_ifs at hb
    · obtain ⟨a, ha, rfl | rfl, -⟩ := Attempts.exists_of_mem_settle hb
      · exact h.complete method b ha hr
      · exact Settlement.state_change (h.complete method a ha) hr
    · exact h.complete m b hb hr

theorem reflects_edited (edits : List Edit) : (edited edits).Reflects edits := by
  induction edits using List.reverseRecOn with
  | nil => exact ⟨fun _ => List.nil_sublist _, fun _ _ ha => nomatch ha⟩
  | append_singleton edits e ih =>
      rw [edited_concat]
      cases e with
      | record method id => exact ih.record method id
      | settle method id x => exact ih.settle method id x

theorem Reflects.exists_id (h : r.Reflects edits) {a : Attempt} (ha : a ∈ r.recorded method) :
    ∃ id, a.id = some id := by
  obtain ⟨id, -, hid⟩ := List.mem_map.mp ((h.ids method).subset (List.mem_map_of_mem ha))
  exact ⟨id, hid.symm⟩

/-- Where the refusal to unregister an identifier was taken in, the client holds what is left of
it. -/
theorem registered_of_retained {a : Attempt}
    (ha : a ∈ (r.settle method id .retain).recorded method) (hid : a.hasId id = true) :
    a.registered = true := by
  rw [recorded_settle, if_pos rfl] at ha
  obtain ⟨b, -, rfl | rfl, hspares⟩ := Attempts.exists_of_mem_settle ha
  · exact hspares hid
  · exact hspares hid

/-- Whatever a registry was asked to do, also with identifiers that repeat, its view of a method is
consistent.  It is never empty, and it is the stand-in exactly where it shows an attempt without an
identifier; otherwise its identifiers were recorded for the method, in this order.  Something is
pending exactly where an attempt that it shows is, and no registered attempt is.  Once a refusal to
unregister is taken in, every attempt with that identifier is registered and complete. -/
theorem view_consistent (edits : List Edit) (method : String) :
    let r := edited edits
    r.attemptsFor method ≠ [] ∧
    ((∃ a ∈ r.attemptsFor method, a.id = none) ↔ r.attemptsFor method = [.never]) ∧
    (r.attemptsFor method ≠ [.never] → ((r.attemptsFor method).map Attempt.id).Sublist
      ((Edit.idsFor method edits).map some)) ∧
    (r.hasPending method = true ↔ ∃ a ∈ r.attemptsFor method, a.isPending = true) ∧
    (∀ a ∈ r.attemptsFor method, a.registered = true → a.state = .complete) ∧
    ∀ id, ∀ a ∈ (r.settleFailedUnregistration method id).attemptsFor method, a.id = some id →
      a.isPending = false ∧ a.registered = true := by
  intro r
  have hr : r.Reflects edits := reflects_edited edits
  have hretained : ∀ id, ∀ a ∈ (r.settle method id .retain).attemptsFor method, a.id = some id →
      a.isPending = false ∧ a.registered = true := by
    intro id a ha hid
    by_cases hnil : (r.settle method id .retain).recorded method = []
    · rw [attemptsFor_eq_never_of_recorded_eq_nil hnil] at ha
      rw [List.mem_singleton.mp ha] at hid
      cases hid
    · rw [attemptsFor_of_recorded_ne_nil hnil] at ha
      have hregistered := registered_of_retained ha (Attempt.hasId_eq_true_iff.mpr hid)
      have hcomplete := (hr.settle method id .retain).complete method a ha hregistered
      exact ⟨by simp [Attempt.isPending, hcomplete], hregistered⟩
  by_cases hnil : r.recorded method = []
  · rw [attemptsFor_eq_never_of_recorded_eq_nil hnil]
    refine ⟨List.cons_ne_nil _ _, ?_, fun h => absurd rfl h, ?_, ?_, hretained⟩
    · exact iff_of_true ⟨_, List.mem_singleton_self _, rfl⟩ rfl
    · simp [hasPending, hnil, Attempt.isPending, Attempt.never]
    · intro a ha h
      rw [List.mem_singleton.mp ha] at h
      cases h
  · rw [attemptsFor_of_recorded_ne_nil hnil]
    have hnamed : ∀ a ∈ r.recorded method, a.id ≠ none := by
      intro a ha
      obtain ⟨id, hid⟩ := hr.exists_id ha
      exact hid ▸ Option.some_ne_none id
    refine ⟨hnil, ?_, fun _ => hr.ids method, ?_, hr.complete method, hretained⟩
    · constructor
      · rintro ⟨a, ha, hid⟩
        exact absurd hid (hnamed a ha)
      · intro h
        exact absurd rfl (hnamed .never (by rw [h]; exact List.mem_singleton_self _))
    · exact List.any_eq_true

/-- An identifier is recorded twice for one method and once for another, and the client holds the
first of its attempts. -/
def repeatedly : List Edit :=
  [.record "a/b" ⟨"x"⟩, .record "a/c" ⟨"x"⟩, .record "a/b" ⟨"y"⟩, .record "a/b" ⟨"x"⟩,
    .settle "a/b" ⟨"x"⟩ (.complete true), .settle "a/b" ⟨"y"⟩ .remove]

/-- What is left of an identifier that was removed in between, and of one that is retained. -/
theorem view_consistent_of_repeatedly :
    let r := edited repeatedly
    r.attemptsFor "a/b" = [⟨some ⟨"x"⟩, true, .complete⟩, .start ⟨"x"⟩] ∧
    r.attemptsFor "a/b" ≠ [.never] ∧
    ((r.attemptsFor "a/b").map Attempt.id).Sublist [some ⟨"x"⟩, some ⟨"y"⟩, some ⟨"x"⟩] ∧
    (∃ a ∈ r.attemptsFor "a/b", a.registered = true ∧ a.state = .complete) ∧
    ∃ a ∈ (r.settleFailedUnregistration "a/b" ⟨"x"⟩).attemptsFor "a/b",
      a.id = some ⟨"x"⟩ ∧ a.isPending = false ∧ a.registered = true := by
  intro r
  obtain ⟨-, -, hids, -, hcomplete, hretained⟩ := view_consistent repeatedly "a/b"
  have hshown : r.attemptsFor "a/b" ≠ [.never] := by decide
  have hheld : ⟨some ⟨"x"⟩, true, .complete⟩ ∈ r.attemptsFor "a/b" := by decide
  have hleft : ⟨some ⟨"x"⟩, true, .complete⟩ ∈
      (r.settleFailedUnregistration "a/b" ⟨"x"⟩).attemptsFor "a/b" := by decide
  exact ⟨by decide, hshown, hids hshown, ⟨_, hheld, rfl, hcomplete _ hheld rfl⟩,
    ⟨_, hleft, rfl, hretained ⟨"x"⟩ _ hleft rfl⟩⟩

end edits

end Registry

end EditorSession
