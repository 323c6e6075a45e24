import EditorSession.Proofs.Messages
import Mathlib.Logic.Function.Basic
import Mathlib.Tactic

/-! # Mail

The mail of a session is what went out, what waits for an answer, and the next number.  `Mail.Tidy`
says how its parts belong together: the messages are numbered in their order, and those wait that no
response arrived for.  It is kept by each response that is taken in (`Tidy.taking`) and each request
that goes out (`Tidy.extend`). -/

namespace EditorSession

/-- What went out, what waits for an answer, and the next number. -/
structure Mail where
  sent : List Request
  waiting : Int → Option ClientRequest
  next : Int

namespace Mail

/-- A request goes out under the next number. -/
def dispatch (m : Mail) (asked : ClientRequest) : Mail where
  sent := m.sent ++ [asked.toRequest m.next]
  waiting := Function.update m.waiting m.next (some asked)
  next := m.next + 1

/-- The request of that number no longer waits for an answer. -/
def dismiss (m : Mail) (n : Int) : Mail := { m with waiting := Function.update m.waiting n none }

/-- A response with that number, if there is one, is taken in. -/
def taking (m : Mail) : Option Int → Mail
  | none => m
  | some n => m.dismiss n

/-- Requests went out. -/
inductive Extends (m : Mail) : Mail → Prop
  | refl : Extends m m
  | dispatch {m' : Mail} (asked : ClientRequest) : Extends m m' → Extends m (m'.dispatch asked)

theorem Extends.trans {m m' m'' : Mail} (h : m.Extends m') (h' : m'.Extends m'') :
    m.Extends m'' := by
  induction h' with
  | refl => exact h
  | dispatch asked _ ih => exact ih.dispatch asked

/-- The numbers of the messages. -/
def numbers (m : Mail) : List Int := m.sent.map Request.id

section views
variable {m : Mail} {asked : ClientRequest} {n : Int}

theorem waiting_dispatch (m : Mail) (asked : ClientRequest) (n : Int) :
    (m.dispatch asked).waiting n = if n = m.next then some asked else m.waiting n :=
  Function.update_apply ..

theorem numbers_dispatch (m : Mail) (asked : ClientRequest) :
    (m.dispatch asked).numbers = m.numbers ++ [m.next] := by
  simp [numbers, dispatch, ClientRequest.toRequest]

theorem mem_numbers_of_mem (h : asked.toRequest n ∈ m.sent) : n ∈ m.numbers :=
  List.mem_map_of_mem (f := Request.id) h

theorem waiting_dismiss (m : Mail) (k n : Int) :
    (m.dismiss k).waiting n = if n = k then none else m.waiting n := Function.update_apply ..

theorem dismiss_of_not_waiting (h : m.waiting n = none) : m.dismiss n = m := by
  unfold dismiss
  rw [← h, Function.update_eq_self]

end views

/-! ### Tidy mail -/

/-- The messages are numbered in their order, and those wait that no response arrived for. -/
structure Tidy (responded : Int → Prop) (m : Mail) : Prop where
  numbered : m.numbers = (List.range m.sent.length).map fun i : Nat => (i : Int) + 1
  next : m.next = m.sent.length + 1
  encoded : ∀ message ∈ m.sent, ∃ asked n, message = ClientRequest.toRequest asked n
  carried : ∀ n asked, m.waiting n = some asked → asked.toRequest n ∈ m.sent
  waits : ∀ n, m.waiting n ≠ none ↔ n ∈ m.numbers ∧ ¬ responded n
  earlier : ∀ n, responded n → n ∈ m.numbers

namespace Tidy
variable {m : Mail} {responded : Int → Prop} {asked : ClientRequest} {n : Int}

theorem mem_numbers_iff (h : m.Tidy responded) : n ∈ m.numbers ↔ 0 < n ∧ n < m.next := by
  rw [h.numbered, h.next, List.mem_map]
  simp only [List.mem_range]
  constructor
  · rintro ⟨i, hi, rfl⟩
    omega
  · rintro ⟨hpos, hlt⟩
    exact ⟨(n - 1).toNat, by omega, by omega⟩

theorem nodup_numbers (h : m.Tidy responded) : m.numbers.Nodup := by
  rw [h.numbered]
  refine List.nodup_range.map fun i j hij => ?_
  simpa using hij

/-- A number belongs to one message. -/
theorem eq_of_id_eq (h : m.Tidy responded) {message message' : Request} (hm : message ∈ m.sent)
    (hm' : message' ∈ m.sent) (hid : message.id = message'.id) : message = message' :=
  List.inj_on_of_nodup_map h.nodup_numbers hm hm' hid

/-- A request waits exactly when its message went out and no response arrived for it. -/
theorem waiting_iff (h : m.Tidy responded) :
    m.waiting n = some asked ↔ asked.toRequest n ∈ m.sent ∧ ¬ responded n := by
  constructor
  · intro hw
    have hsome : m.waiting n ≠ none := by
      rw [hw]
      exact Option.some_ne_none asked
    exact ⟨h.carried n asked hw, ((h.waits n).mp hsome).2⟩
  · rintro ⟨hmem, hnot⟩
    have hsome : m.waiting n ≠ none := (h.waits n).mpr ⟨mem_numbers_of_mem hmem, hnot⟩
    obtain ⟨other, hw⟩ := Option.ne_none_iff_exists'.mp hsome
    have hsame := h.eq_of_id_eq hmem (h.carried n other hw) rfl
    rw [hw, (ClientRequest.toRequest_inj.mp hsame).1]

theorem dispatch (h : m.Tidy responded) (asked : ClientRequest) :
    (m.dispatch asked).Tidy responded := by
  have hold : m.next ∉ m.numbers := fun hmem => lt_irrefl _ (h.mem_numbers_iff.mp hmem).2
  have hlength : (m.dispatch asked).sent.length = m.sent.length + 1 := by simp [Mail.dispatch]
  constructor
  case numbered =>
    rw [numbers_dispatch, hlength, h.numbered, h.next, List.range_succ, List.map_append,
      List.map_singleton]
  case next =>
    rw [hlength, Nat.cast_succ, ← h.next]
    rfl
  case encoded =>
    intro message hmem
    rcases List.mem_append.mp hmem with hmem | hmem
    · exact h.encoded message hmem
    · exact ⟨asked, m.next, List.mem_singleton.mp hmem⟩
  case carried =>
    intro n other hw
    rw [waiting_dispatch] at hw
    split_ifs at hw with hn
    · cases hw
      exact List.mem_append_right _ (List.mem_singleton.mpr (hn ▸ rfl))
    · exact List.mem_append_left _ (h.carried n other hw)
  case waits =>
    intro n
    rw [waiting_dispatch, numbers_dispatch, List.mem_append, List.mem_singleton]
    split_ifs with hn
    · have hnot : ¬ responded n := fun hr => hold (hn ▸ h.earlier n hr)
      exact iff_of_true (Option.some_ne_none asked) ⟨.inr hn, hnot⟩
    · rw [h.waits n, or_iff_left hn]
  case earlier =>
    intro n hr
    rw [numbers_dispatch]
    exact List.mem_append_left _ (h.earlier n hr)

theorem dismiss (h : m.Tidy responded) (n : Int) :
    (m.dismiss n).Tidy fun k => responded k ∨ k = n ∧ k ∈ m.numbers where
  numbered := h.numbered
  next := h.next
  encoded := h.encoded
  carried := fun k other hw => by
    rw [waiting_dismiss] at hw
    split_ifs at hw
    exact h.carried k other hw
  waits := fun k => by
    rw [waiting_dismiss, show (m.dismiss n).numbers = m.numbers from rfl]
    split_ifs with hk
    · refine iff_of_false (fun hne => hne rfl) ?_
      rintro ⟨hmem, hnot⟩
      exact hnot (.inr ⟨hk, hmem⟩)
    · rw [h.waits k, or_iff_left fun hr => hk hr.1]
  earlier := fun k hr => hr.elim (h.earlier k) And.right

theorem taking (h : m.Tidy responded) (number : Option Int) :
    (m.taking number).Tidy fun k => responded k ∨ number = some k ∧ k ∈ m.numbers := by
  cases number with
  | none => simpa [Mail.taking] using h
  | some n => simpa [Mail.taking, eq_comm] using h.dismiss n

theorem extend {m' : Mail} (h : m.Tidy responded) (he : m.Extends m') : m'.Tidy responded := by
  induction he with
  | refl => exact h
  | dispatch asked _ ih => exact ih.dispatch asked

end Tidy

end Mail

end EditorSession
