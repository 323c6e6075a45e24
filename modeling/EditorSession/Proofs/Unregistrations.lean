import EditorSession.Proofs.Agreement
import EditorSession.Proofs.Correspondence
import EditorSession.Proofs.LifeCycle
import EditorSession.Proofs.Posted

/-! # What may be unregistered

An unregister request lists attempts that the client may hold.  `Ledger.Enrolled` says how the
messages belong together: each attempt on record was registered by one message, the numbers of these
messages grow with the identifiers, and every unregister message lists attempts of one method in the
order in which they were registered.  An attempt that an answer ended is not live any more
(`Ledger.gone_answer`) and does not become so again, and only live attempts are listed
(`Ledger.mem_sent_after`).  Hence no message lists an attempt that an answer had ended before the
message went out (`Session.unregistrations_justified`). -/

namespace EditorSession

/-! ### Messages -/

/-- The identifiers were each registered for the method by one message, in this order. -/
structure Listed (before : List Request) (method : String) (ids : List RegistrationId) : Prop where
  ne_nil : ids ≠ []
  nodup : ids.Nodup
  once : ∀ id ∈ ids, ∃ options n,
    (ClientRequest.register [⟨id, method, options⟩]).toRequest n ∈ before ∧
      ∀ asked k, ClientRequest.toRequest asked k ∈ before → asked.Adds id →
        asked = .register [⟨id, method, options⟩] ∧ k = n
  ordered : ids.Pairwise fun id id' => ∀ asked asked' n k,
    ClientRequest.toRequest asked n ∈ before → ClientRequest.toRequest asked' k ∈ before →
      asked.Adds id → asked'.Adds id' → n < k

/-- The answer ends a registration: it refuses it, or it confirms that it is gone. -/
def ClientRequest.Ends (asked : ClientRequest) (accepted : Bool) (id : RegistrationId) : Prop :=
  asked.Adds id ∧ accepted = false ∨ asked.Removes id ∧ accepted = true

theorem ClientRequest.exists_names_of_ends {asked : ClientRequest} {accepted : Bool}
    {id : RegistrationId} (h : asked.Ends accepted id) : ∃ method, asked.Names method id := by
  rcases h with ⟨⟨rs, rfl, r, hr, rfl⟩, -⟩ | ⟨⟨us, rfl, u, hu, rfl⟩, -⟩
  · exact ⟨r.method, r, hr, rfl, rfl⟩
  · exact ⟨u.method, hu⟩

/-- An element of a list with one more at the end is the last one, or stands in the list. -/
theorem split_concat {α : Type} {list before after : List α} {last x : α}
    (h : list ++ [last] = before ++ x :: after) :
    (before = list ∧ x = last) ∨ ∃ rest, list = before ++ x :: rest := by
  rcases List.eq_nil_or_concat after with rfl | ⟨rest, y, rfl⟩
  · obtain ⟨hlist, hlast⟩ := List.append_inj' h rfl
    exact .inl ⟨hlist.symm, (List.singleton_inj.mp hlast).symm⟩
  · have hassoc : list ++ [last] = (before ++ x :: rest) ++ [y] := by simpa using h
    exact .inr ⟨rest, (List.append_inj' hassoc rfl).1⟩

namespace Ledger

/-- How the messages and the attempts belong together. -/
structure Enrolled (l : Ledger) : Prop extends l.Posted where
  single : ∀ n rs, (ClientRequest.register rs).toRequest n ∈ l.sent → ∃ r, rs = [r]
  /-- Registrations go out in the order in which their identifiers are drawn. -/
  ascending : ∀ n k asked asked' i j, ClientRequest.toRequest asked n ∈ l.sent →
    ClientRequest.toRequest asked' k ∈ l.sent → asked.Adds (l.supply i) → asked'.Adds (l.supply j) →
      (i < j ↔ n < k)
  enlisted : ∀ m, ∀ a ∈ l.recorded m, ∀ id, a.id = some id →
    ∃ options n, (ClientRequest.register [⟨id, m, options⟩]).toRequest n ∈ l.sent
  listed : ∀ before after n us,
    l.sent = before ++ (ClientRequest.unregister us).toRequest n :: after → ∃ method ids,
      us = ids.map (fun id => ⟨id, method⟩) ∧ Listed before method ids

variable {l l' : Ledger} {asked : ClientRequest} {n : Int} {method : String} {accepted : Bool}

theorem ids_live_sublist (l : Ledger) (method : String) :
    ((l.live method).map some).Sublist ((l.recorded method).map Attempt.id) := by
  unfold live
  induction l.recorded method with
  | nil => exact List.Sublist.refl _
  | cons a rest ih =>
      cases hlive : Session.liveId? a with
      | none =>
          rw [List.filterMap_cons_none hlive, List.map_cons]
          exact ih.cons _
      | some id =>
          rw [List.filterMap_cons_some hlive, List.map_cons, List.map_cons,
            (Session.liveId?_eq_some_iff.mp hlive).1]
          exact ih.cons_cons _

/-- A message that registers under an identifier went out after the identifier was drawn. -/
theorem Posted.lt_drawn (h : l.Posted) (hi : Function.Injective l.supply) {i : Nat}
    (hmem : asked.toRequest n ∈ l.sent) (hadds : asked.Adds (l.supply i)) : i < l.drawn := by
  obtain ⟨rs, rfl, r, hr, hid⟩ := hadds
  obtain ⟨k, hk, hsupply⟩ := h.drawn n _ r.method r.id hmem ⟨r, hr, rfl, rfl⟩
  rwa [← hi (hsupply.trans hid)]

namespace Enrolled

/-- What is live may be listed. -/
theorem listed_live (h : l.Enrolled) (hs : l.Sound) (ho : l.Orderly) (hne : l.live method ≠ []) :
    Listed l.sent method (l.live method) := by
  have hsub := l.ids_live_sublist method
  constructor
  case ne_nil => exact hne
  case nodup => exact ((hs.distinct method).sublist hsub).of_map
  case once =>
    intro id hid
    obtain ⟨a, ha, hida, -⟩ := mem_live_iff.mp hid
    obtain ⟨options, n, hmem⟩ := h.enlisted method a ha id hida
    obtain ⟨i, -, hsupply⟩ := drawn_of_mem_live hs hid
    refine ⟨options, n, hmem, fun other k hother hadds => ?_⟩
    have hadds' : (ClientRequest.register [⟨id, method, options⟩]).Adds (l.supply i) :=
      ClientRequest.adds_register_singleton.mpr hsupply.symm
    have hnk := h.ascending n k _ other i i hmem hother hadds' (hsupply ▸ hadds)
    have hkn := h.ascending k n other _ i i hother hmem (hsupply ▸ hadds) hadds'
    obtain rfl : k = n := by omega
    exact ⟨h.agree k other _ hother hmem, rfl⟩
  case ordered =>
    have hrange : ((List.range l.drawn).map fun k => some (l.supply k)).Pairwise fun x y =>
        ∃ i j, i < j ∧ x = some (l.supply i) ∧ y = some (l.supply j) := by
      rw [List.pairwise_map]
      exact List.pairwise_lt_range.imp fun {i j} hij => ⟨i, j, hij, rfl, rfl⟩
    have hpairs := hrange.sublist (hsub.trans (ho.ordered method))
    rw [List.pairwise_map] at hpairs
    refine hpairs.imp ?_
    rintro id id' ⟨i, j, hij, hid, hid'⟩ asked asked' n k hmem hmem' hadds hadds'
    cases hid
    cases hid'
    exact (h.ascending n k asked asked' i j hmem hmem' hadds hadds').mp hij

theorem draw (h : l.Enrolled) : l.draw.Enrolled where
  toPosted := h.toPosted.draw
  single := h.single
  ascending := h.ascending
  enlisted := h.enlisted
  listed := h.listed

/-- A request may go out that registers nothing, and lists what may be listed. -/
theorem dispatch (h : l.Enrolled) (hdrawn : ∀ m id, asked.Names m id → l.Drawn id)
    (hother : ∀ rs, asked ≠ .register rs)
    (hlisted : ∀ us, asked = .unregister us → ∃ method ids,
      us = ids.map (fun id => ⟨id, method⟩) ∧ Listed l.sent method ids) :
    (l.dispatch asked).Enrolled where
  toPosted := h.toPosted.dispatch hdrawn
  single := fun n rs hmem => by
    rcases mem_sent_dispatch hmem with hmem | ⟨-, he⟩
    · exact h.single n rs hmem
    · exact absurd he.symm (hother rs)
  ascending := fun n k first second i j hfirst hsecond hadds hadds' => by
    have hold : ∀ {other : ClientRequest} {n : Int} {id : RegistrationId},
        other.toRequest n ∈ (l.dispatch asked).sent → other.Adds id →
        other.toRequest n ∈ l.sent := by
      rintro other n id hmem ⟨rs, rfl, -⟩
      exact (mem_sent_dispatch hmem).resolve_right fun he => hother rs he.2.symm
    exact h.ascending n k first second i j (hold hfirst hadds) (hold hsecond hadds') hadds hadds'
  enlisted := fun m a ha id hid => by
    obtain ⟨options, n, hmem⟩ := h.enlisted m a ha id hid
    exact ⟨options, n, List.mem_append_left _ hmem⟩
  listed := fun before after n us hsplit => by
    rcases split_concat hsplit with ⟨rfl, he⟩ | ⟨rest, hold⟩
    · exact hlisted us (ClientRequest.toRequest_inj.mp he).1.symm
    · exact h.listed before rest n us hold

/-- The attempts of a method may be replaced by such as messages registered. -/
theorem record (h : l.Enrolled) {attempts : List Attempt}
    (hattempts : ∀ a ∈ attempts, ∀ id, a.id = some id →
      ∃ options n, (ClientRequest.register [⟨id, method, options⟩]).toRequest n ∈ l.sent) :
    (l.record method attempts).Enrolled where
  toPosted := h.toPosted.record method attempts
  single := h.single
  ascending := h.ascending
  enlisted := fun m a ha => by
    rcases mem_recorded_record ha with hold | ⟨rfl, hnew⟩
    · exact h.enlisted m a hold
    · exact hattempts a hnew
  listed := h.listed

theorem register (h : l.Enrolled) (hi : Function.Injective l.supply) (method : String)
    (options : Option Json) : (l.register method options).Enrolled := by
  have hsent : (l.draw.dispatch (.register [⟨l.fresh, method, options⟩])).Enrolled := by
    constructor
    case toPosted => exact h.toPosted.draw.dispatch fun _ _ => drawn_of_names_register
    case single =>
      intro n rs hmem
      rcases mem_sent_dispatch hmem with hmem | ⟨-, he⟩
      · exact h.single n rs hmem
      · cases he
        exact ⟨_, rfl⟩
    case ascending =>
      intro n k first second i j hfirst hsecond hadds hadds'
      have hlast : ∀ {i : Nat}, (ClientRequest.register [⟨l.fresh, method, options⟩]).Adds
          (l.supply i) → i = l.drawn := fun hadds =>
        hi (ClientRequest.adds_register_singleton.mp hadds).symm
      rcases mem_sent_dispatch hfirst with hold | ⟨rfl, rfl⟩
      · rcases mem_sent_dispatch hsecond with hold' | ⟨rfl, rfl⟩
        · exact h.ascending n k first second i j hold hold' hadds hadds'
        · obtain rfl := hlast hadds'
          exact iff_of_true (h.lt_drawn hi hold hadds) (h.old n first hold)
      · obtain rfl := hlast hadds
        rcases mem_sent_dispatch hsecond with hold' | ⟨rfl, rfl⟩
        · exact iff_of_false (h.lt_drawn hi hold' hadds').asymm
            (h.old k second hold').asymm
        · obtain rfl := hlast hadds'
          exact iff_of_false (lt_irrefl _) (lt_irrefl _)
    case enlisted =>
      intro m a ha id hid
      obtain ⟨options, n, hmem⟩ := h.enlisted m a ha id hid
      exact ⟨options, n, List.mem_append_left _ hmem⟩
    case listed =>
      intro before after n us hsplit
      rcases split_concat hsplit with ⟨-, he⟩ | ⟨rest, hold⟩
      · cases (ClientRequest.toRequest_inj.mp he).1
      · exact h.listed before rest n us hold
  refine hsent.record fun a ha id hid => ?_
  rcases List.mem_append.mp ha with ha | ha
  · exact hsent.enlisted method a ha id hid
  · cases List.mem_singleton.mp ha
    cases hid
    exact ⟨options, _, List.mem_append_right _ (List.mem_singleton_self _)⟩

theorem unregister (h : l.Enrolled) (hs : l.Sound) (ho : l.Orderly) (method : String) :
    (l.unregister method).Enrolled := by
  unfold Ledger.unregister
  split_ifs with hlive
  · exact h
  · have hsent := h.dispatch (fun _ _ => drawn_of_names_unregister hs) nofun fun us he => by
      cases he
      exact ⟨method, l.live method, rfl, h.listed_live hs ho hlive⟩
    refine hsent.record fun b hb id hid => ?_
    obtain ⟨a, ha, rfl⟩ := List.mem_map.mp hb
    exact hsent.enlisted method a ha id ((Session.id_markLive a).symm.trans hid)

theorem pull (h : l.Enrolled) (items : List ConfigurationItem) :
    (l.dispatch (.configuration items)).Enrolled :=
  h.dispatch (fun _ _ hname => hname.elim) nofun nofun

theorem answer (h : l.Enrolled) (hn : l.waiting n = some asked) :
    (l.answer n accepted).Enrolled := by
  have hposted := h.toPosted.answer hn accepted
  rw [answer_of_waiting hn] at hposted ⊢
  refine ⟨hposted, h.single, h.ascending, fun m b hb id hid => ?_, h.listed⟩
  obtain ⟨a, ha, hida, -⟩ := exists_of_mem_settle hb hid
  exact h.enlisted m a ha id hida

theorem taking (h : l.Enrolled) (operation : Operation) : (l.taking operation).Enrolled :=
  keeps_taking h fun _ _ _ _ _ hw => h.answer hw

theorem after (h : l.Enrolled) (hs : l.Sound) (ho : l.Orderly) (hi : Function.Injective l.supply)
    {move : Move} (hmove : ∀ asked accepted, move ≠ .settle asked accepted) :
    (l.after move).Enrolled := by
  refine keeps_after hmove h h.draw ?_ ?_ ?_ ?_
  · exact fun method options => h.register hi method options
  · exact fun method => h.unregister hs ho method
  · exact h.pull
  · exact fun l' capabilities formatOnType hl => ⟨⟨hl.carried, hl.old, hl.agree, hl.drawn⟩,
      hl.single, hl.ascending, hl.enlisted, hl.listed⟩

end Enrolled

/-! ### Attempts that are gone -/

/-- The identifier was drawn, and no attempt with it is live. -/
def Gone (l : Ledger) (id : RegistrationId) : Prop := l.Drawn id ∧ ∀ m, id ∉ l.live m

/-- What is gone does not come back. -/
theorem Later.gone (h : l.Later l') {id : RegistrationId} (hgone : l.Gone id) : l'.Gone id := by
  refine ⟨h.drawn_of_drawn hgone.1, fun m hlive => ?_⟩
  obtain ⟨b, hb, hid, hlive⟩ := mem_live_iff.mp hlive
  obtain ⟨a, ha, hab⟩ := h.recorded m b hb id hid hgone.1
  refine hgone.2 m (mem_live_iff.mpr ⟨a, ha, hab.id.symm.trans hid, ?_⟩)
  by_contra hrej
  have hrejected := hab.rejected (by simpa using hrej)
  cases hlive.symm.trans hrejected

/-- An attempt that an answer ends is gone. -/
theorem gone_answer (hs : l.Sound) (hn : l.waiting n = some asked) {id : RegistrationId}
    (hends : asked.Ends accepted id) : (l.answer n accepted).Gone id := by
  obtain ⟨method, hname⟩ := ClientRequest.exists_names_of_ends hends
  have hmentions : l.Mentions method id := .inr ⟨n, asked, hn, hname⟩
  rw [answer_of_waiting hn]
  refine ⟨hs.drawn method id hmentions, fun m hlive => ?_⟩
  obtain ⟨b, hb, hid, hlive⟩ := mem_live_iff.mp hlive
  obtain ⟨a, ha, hida, hab⟩ := exists_of_mem_settle hb hid
  obtain rfl := hs.home m method id (.inl ⟨a, ha, hida⟩) hmentions
  rw [ClientRequest.settle_of_concerns ⟨id, hida, hname⟩] at hab
  rcases hends with ⟨⟨rs, rfl, -⟩, rfl⟩ | ⟨⟨us, rfl, -⟩, rfl⟩
  · cases hab
    cases hlive
  · cases hab

/-- A request that unregisters goes out only about live attempts. -/
theorem mem_sent_after {move : Move} (hmove : ∀ asked accepted, move ≠ .settle asked accepted)
    {us : List Unregistration}
    (h : (ClientRequest.unregister us).toRequest n ∈ (l.after move).sent) :
    (ClientRequest.unregister us).toRequest n ∈ l.sent ∨ ∀ u ∈ us, ∃ m, u.id ∈ l.live m := by
  revert h
  refine keeps_after (P := fun l' => (ClientRequest.unregister us).toRequest n ∈ l'.sent → _) hmove
    .inl .inl ?_ ?_ ?_ fun l' _ _ h => h
  · intro method options hmem
    exact .inl ((mem_sent_dispatch hmem).resolve_right fun he => nomatch he.2)
  · intro method hmem
    unfold Ledger.unregister at hmem
    split_ifs at hmem
    · exact .inl hmem
    · rcases mem_sent_dispatch hmem with hmem | ⟨-, he⟩
      · exact .inl hmem
      · cases he
        refine .inr fun u hu => ?_
        obtain ⟨id, hid, rfl⟩ := List.mem_map.mp hu
        exact ⟨method, hid⟩
  · intro items hmem
    exact .inl ((mem_sent_dispatch hmem).resolve_right fun he => nomatch he.2)

theorem sent_taking (l : Ledger) (operation : Operation) : (l.taking operation).sent = l.sent := by
  refine keeps_taking (P := fun l' => l'.sent = l.sent) rfl ?_
  intro response n asked _ _ hw
  rw [answer_of_waiting hw]
  rfl

/-- What counts as gone is gone, and only old messages unregister it. -/
structure Spares (counts : RegistrationId → Prop) (old : List Request) (l : Ledger) : Prop where
  gone : ∀ id, counts id → l.Gone id
  spared : ∀ n us, (ClientRequest.unregister us).toRequest n ∈ l.sent →
    (ClientRequest.unregister us).toRequest n ∈ old ∨ ∀ u ∈ us, ¬ counts u.id

theorem Spares.after {counts : RegistrationId → Prop} {old : List Request} {move : Move}
    (h : l.Spares counts old) (hlater : l.Later (l.after move))
    (hmove : ∀ asked accepted, move ≠ .settle asked accepted) :
    (l.after move).Spares counts old where
  gone := fun id hid => hlater.gone (h.gone id hid)
  spared := fun n us hmem => by
    rcases mem_sent_after hmove hmem with hmem | hlive
    · exact h.spared n us hmem
    · refine .inr fun u hu hu' => ?_
      obtain ⟨m, hm⟩ := hlive u hu
      exact (h.gone u.id hu').2 m hm

end Ledger

/-! ### Runs -/

namespace Session

/-- A response that its request waited for ended the registration under the identifier. -/
def Ended (origin : Session) (operations : List Operation) (id : RegistrationId) : Prop :=
  ∃ earlier response n asked, earlier ++ [.handle response] <+: operations ∧
    response.id = some n ∧ (origin.run earlier).outstandingRequest n = some asked ∧
    asked.Ends response.hasResult id

variable {origin s : Session} {operations : List Operation} {operation : Operation}
  {id : RegistrationId} {refusal : Nat → Option TransportError} {supply : Nat → RegistrationId}
  {config : Config}

theorem Ended.mono {later : List Operation} (h : origin.Ended operations id)
    (hpre : operations <+: later) : origin.Ended later id := by
  obtain ⟨earlier, response, n, asked, hprefix, hrest⟩ := h
  exact ⟨earlier, response, n, asked, hprefix.trans hpre, hrest⟩

theorem ended_concat (h : origin.Ended (operations ++ [operation]) id) :
    origin.Ended operations id ∨ ∃ response n asked, operation = .handle response ∧
      response.id = some n ∧ (origin.run operations).outstandingRequest n = some asked ∧
      asked.Ends response.hasResult id := by
  obtain ⟨earlier, response, n, asked, hprefix, hid, hw, hends⟩ := h
  rcases List.prefix_concat_iff.mp hprefix with he | hprefix
  · obtain ⟨rfl, hlast⟩ := List.append_inj' he rfl
    exact .inr ⟨response, n, asked, (List.singleton_inj.mp hlast).symm, hid, hw, hends⟩
  · exact .inl ⟨earlier, response, n, asked, hprefix, hid, hw, hends⟩

theorem enrolled_start : (start ⟨refusal, []⟩ supply config).ledger.Enrolled where
  toPosted := posted_start refusal supply config
  single := nofun
  ascending := nofun
  enlisted := nofun
  listed := fun before after n us h => by
    have hnil : [] = before ++ (ClientRequest.unregister us).toRequest n :: after := h
    simp at hnil

/-- Once its answer is taken in, an operation sends no request to unregister what is gone. -/
theorem perform_spares {counts : RegistrationId → Prop} (hs : s.ledger.Sound)
    (hi : Function.Injective s.supply) (ho : s.ledger.Orderly) (he : s.ledger.Enrolled)
    (hmediated : operation.IsMediated)
    (hgone : ∀ id, counts id → (s.ledger.taking operation).Gone id) :
    (s.perform operation).2.ledger.Enrolled ∧
      (s.perform operation).2.ledger.Spares counts s.connection.sent := by
  refine (perform_keeps (P := fun l => l.Orderly ∧ l.Enrolled ∧ l.Spares counts s.connection.sent)
    hs hi ⟨(ho.taking hs operation).1, he.taking operation, hgone, ?_⟩ ?_).2.2.2
  · intro n us hmem
    rw [Ledger.sent_taking] at hmem
    exact .inl hmem
  · rintro l move hmakes hl hli ⟨ho, he, hspares⟩
    have hmove := hmakes.ne_settle hmediated
    obtain ⟨ho', hlater⟩ := ho.after hl hli hmove
    exact ⟨ho', he.after hl ho hli hmove, hspares.after hlater hmove⟩

/-- The messages to unregister came before what ended the registrations that they list. -/
def Timely (origin : Session) (operations : List Operation) : Prop :=
  ∀ n us, (ClientRequest.unregister us).toRequest n ∈ (origin.run operations).connection.sent →
    ∀ u ∈ us, ∀ prior operation, prior ++ [operation] <+: operations →
      (ClientRequest.unregister us).toRequest n ∉ (origin.run prior).connection.sent →
      ¬ origin.Ended (prior ++ [operation]) u.id

/-- Along a run in which answers are only handed over as responses, the messages belong together,
what an answer ended is gone, and messages to unregister are timely. -/
theorem timely_run (refusal : Nat → Option TransportError) (config : Config)
    (hi : Function.Injective supply) (hmediated : ∀ operation ∈ operations, operation.IsMediated) :
    let origin := start ⟨refusal, []⟩ supply config
    (origin.run operations).ledger.Enrolled ∧
      (∀ id, origin.Ended operations id → (origin.run operations).ledger.Gone id) ∧
      origin.Timely operations := by
  intro origin
  induction operations using List.reverseRecOn with
  | nil =>
      refine ⟨enrolled_start, ?_, nofun⟩
      rintro id ⟨earlier, response, n, asked, hprefix, -⟩
      simp at hprefix
  | append_singleton operations operation ih =>
      rw [List.forall_mem_append, List.forall_mem_singleton] at hmediated
      obtain ⟨hs, hsupply, ho⟩ := orderly_run ⟨refusal, []⟩ config hi hmediated.1
      obtain ⟨he, hgone, htimely⟩ := ih hmediated.1
      have hended : ∀ id, origin.Ended (operations ++ [operation]) id →
          ((origin.run operations).ledger.taking operation).Gone id := by
        intro id hended
        rcases ended_concat hended with hended | ⟨response, n, asked, rfl, hid, hw, hends⟩
        · exact (ho.taking hs operation).2.gone (hgone id hended)
        · simp only [Ledger.taking, hid]
          exact Ledger.gone_answer hs hw hends
      have hrun : ((origin.run operations).perform operation).2 =
          origin.run (operations ++ [operation]) := (run_append origin operations [operation]).symm
      obtain ⟨he', hspares⟩ := perform_spares hs (hsupply.symm ▸ hi) ho he hmediated.2 hended
      rw [hrun] at he' hspares
      refine ⟨he', hspares.gone, ?_⟩
      intro n us hmem u hu prior last hprefix hnew hlast
      -- a message that this operation sent names nothing that any answer so far ended
      rcases hspares.spared n us hmem with hold | hspared
      · rcases List.prefix_concat_iff.mp hprefix with heq | hprefix
        · obtain ⟨rfl, -⟩ := List.append_inj' heq rfl
          exact hnew hold
        · exact htimely n us hold u hu prior last hprefix hnew hlast
      · exact hspared u hu (hlast.mono hprefix)

/-- Only legitimate requests go out: where answers are only handed over as responses, each message
that registers carries one registration, and each that unregisters lists attempts of one method in
the order in which they were registered, each by one message before, and none of which any response
had ended that arrived before the message went out. -/
theorem unregistrations_justified (hi : Function.Injective supply)
    (hmediated : ∀ operation ∈ operations, operation.IsMediated) :
    let origin := start ⟨refusal, []⟩ supply config
    let s := origin.run operations
    (s.connection.sent.map Request.id).Pairwise (· < ·) ∧
    ∀ before message after, s.connection.sent = before ++ message :: after →
      (message.method = Method.registerCapability →
        ∃ r, message = (ClientRequest.register [r]).toRequest message.id) ∧
      (message.method = Method.unregisterCapability → ∃ method ids,
        message = (ClientRequest.unregister (ids.map fun id => ⟨id, method⟩)).toRequest message.id ∧
        Listed before method ids ∧
        ∀ id ∈ ids, ∀ prior operation, prior ++ [operation] <+: operations →
          message ∉ (origin.run prior).connection.sent →
          ¬ origin.Ended (prior ++ [operation]) id) := by
  intro origin s
  have htidy : s.ledger.mail.Tidy (origin.Responded operations) := tidy_run operations
  obtain ⟨henrolled, -, htimely⟩ := timely_run refusal config hi hmediated
  constructor
  · have hnumbers : s.connection.sent.map Request.id = _ := htidy.numbered
    rw [hnumbers, List.pairwise_map]
    exact List.pairwise_lt_range.imp fun {i j} hij => by omega
  · intro before message after hsplit
    have hmem : message ∈ s.connection.sent := by simp [hsplit]
    obtain ⟨asked, n, rfl⟩ := htidy.encoded message hmem
    constructor
    · intro hmethod
      obtain ⟨rs, rfl⟩ := ClientRequest.exists_eq_register_of_method hmethod
      obtain ⟨r, rfl⟩ := henrolled.single n rs hmem
      exact ⟨r, rfl⟩
    · intro hmethod
      obtain ⟨us, rfl⟩ := ClientRequest.exists_eq_unregister_of_method hmethod
      obtain ⟨method, ids, rfl, hlisted⟩ := henrolled.listed before after n us hsplit
      refine ⟨method, ids, rfl, hlisted, fun id hid => ?_⟩
      exact htimely n _ hmem ⟨id, method⟩ (List.mem_map_of_mem hid)

/-- Of two attempts, one of which the client refused, only the other is unregistered. -/
theorem unregistrations_justified_of_halfAccepted :
    let origin := start .accepting .ofLength .default
    let operations := halfAccepted ++ [.unregister "a/b"]
    let message := (ClientRequest.unregister [⟨.ofLength 0, "a/b"⟩]).toRequest 3
    (origin.run operations).connection.sent =
        (origin.run halfAccepted).connection.sent ++ [message] ∧
      Listed (origin.run halfAccepted).connection.sent "a/b" [.ofLength 0] ∧
      ¬ origin.Ended operations (.ofLength 0) := by
  intro origin operations message
  have hsent : (origin.run operations).connection.sent =
      (origin.run halfAccepted).connection.sent ++ [message] := by decide
  have hmediated : ∀ operation ∈ operations, operation.IsMediated := by
    simp [operations, halfAccepted, Operation.IsMediated]
  obtain ⟨method, ids, heq, hlisted, htimely⟩ := ((unregistrations_justified
    RegistrationId.ofLength_injective hmediated).2 _ message [] hsent).2 rfl
  have hentries := ClientRequest.unregister.inj (ClientRequest.toRequest_inj.mp heq).1
  obtain ⟨id, rfl, hid⟩ := List.map_eq_singleton_iff.mp hentries.symm
  cases hid
  exact ⟨hsent, hlisted, htimely _ (List.mem_singleton_self _) halfAccepted (.unregister "a/b")
    (List.prefix_refl _) (by decide)⟩

end Session

end EditorSession
