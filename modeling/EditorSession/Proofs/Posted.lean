import EditorSession.Proofs.Messages
import EditorSession.Proofs.Runs

/-! # What went out

Every message that went out bears an old number of its own and names identifiers that were drawn,
and every request that waits for an answer is among the messages (`Ledger.Posted`). -/

namespace EditorSession.Ledger

/-- What holds of the messages that went out. -/
structure Posted (l : Ledger) : Prop where
  carried : ∀ n asked, l.waiting n = some asked → asked.toRequest n ∈ l.sent
  old : ∀ n asked, ClientRequest.toRequest asked n ∈ l.sent → n < l.nextRequestId
  agree : ∀ n asked other, ClientRequest.toRequest asked n ∈ l.sent →
    ClientRequest.toRequest other n ∈ l.sent → asked = other
  drawn : ∀ n asked m id, ClientRequest.toRequest asked n ∈ l.sent → asked.Names m id → l.Drawn id

variable {l : Ledger} {asked other : ClientRequest} {method : String} {n : Int}

theorem mem_sent_dispatch (h : other.toRequest n ∈ (l.dispatch asked).sent) :
    other.toRequest n ∈ l.sent ∨ n = l.nextRequestId ∧ other = asked := by
  rcases List.mem_append.mp h with h | h
  · exact .inl h
  · obtain ⟨rfl, rfl⟩ := ClientRequest.toRequest_inj.mp (List.mem_singleton.mp h)
    exact .inr ⟨rfl, rfl⟩

theorem drawn_of_mem_live (hs : l.Sound) {id : RegistrationId} (hid : id ∈ l.live method) :
    l.Drawn id := by
  obtain ⟨a, ha, hida, -⟩ := mem_live_iff.mp hid
  exact hs.drawn method id (.inl ⟨a, ha, hida⟩)

theorem drawn_of_names_register {m : String} {options : Option Json} {id : RegistrationId}
    (h : (ClientRequest.register [⟨l.fresh, method, options⟩]).Names m id) : l.draw.Drawn id := by
  obtain ⟨-, rfl⟩ := ClientRequest.names_register_singleton.mp h
  exact ⟨l.drawn, Nat.lt_succ_self _, rfl⟩

theorem drawn_of_names_unregister (hs : l.Sound) {m : String} {id : RegistrationId}
    (h : (ClientRequest.unregister ((l.live method).map fun id => ⟨id, method⟩)).Names m id) :
    l.Drawn id := drawn_of_mem_live hs (names_unregister_live.mp h).2

namespace Posted

theorem draw (h : l.Posted) : l.draw.Posted where
  carried := h.carried
  old := h.old
  agree := h.agree
  drawn := fun n asked m id hmem hname => by
    obtain ⟨k, hk, hid⟩ := h.drawn n asked m id hmem hname
    exact ⟨k, Nat.lt_succ_of_lt hk, hid⟩

theorem dispatch (h : l.Posted) (hdrawn : ∀ m id, asked.Names m id → l.Drawn id) :
    (l.dispatch asked).Posted where
  carried := fun k other hw => by
    rcases waiting_dispatch_eq_some hw with ⟨rfl, rfl⟩ | ⟨-, hw⟩
    · exact List.mem_append_right _ (List.mem_singleton_self _)
    · exact List.mem_append_left _ (h.carried k other hw)
  old := fun k other hmem => by
    show k < l.nextRequestId + 1
    rcases mem_sent_dispatch hmem with hmem | ⟨rfl, -⟩
    · have := h.old k other hmem
      omega
    · omega
  agree := fun k first second hfirst hsecond => by
    rcases mem_sent_dispatch hfirst with hf | ⟨rfl, rfl⟩
    · rcases mem_sent_dispatch hsecond with hs | ⟨rfl, rfl⟩
      · exact h.agree k first second hf hs
      · exact absurd (h.old _ first hf) (lt_irrefl _)
    · rcases mem_sent_dispatch hsecond with hs | ⟨-, rfl⟩
      · exact absurd (h.old _ second hs) (lt_irrefl _)
      · rfl
  drawn := fun k other m id hmem hname => by
    rcases mem_sent_dispatch hmem with hmem | ⟨-, rfl⟩
    · exact h.drawn k other m id hmem hname
    · exact hdrawn m id hname

theorem record (h : l.Posted) (method : String) (attempts : List Attempt) :
    (l.record method attempts).Posted := ⟨h.carried, h.old, h.agree, h.drawn⟩

theorem answer (h : l.Posted) (hn : l.waiting n = some asked) (accepted : Bool) :
    (l.answer n accepted).Posted := by
  rw [answer_of_waiting hn]
  exact ⟨fun k other hk => h.carried k other (waiting_dismiss_eq_some hk).2, h.old, h.agree,
    h.drawn⟩

end Posted

end EditorSession.Ledger

namespace EditorSession.Session

theorem posted_start (refusal : Nat → Option TransportError) (supply : Nat → RegistrationId)
    (config : Config) : (start ⟨refusal, []⟩ supply config).ledger.Posted where
  carried := nofun
  old := nofun
  agree := nofun
  drawn := nofun

end EditorSession.Session
