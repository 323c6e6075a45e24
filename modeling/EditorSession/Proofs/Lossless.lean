import EditorSession.Proofs.Filling
import EditorSession.Proofs.Messages
import EditorSession.Proofs.Standing

/-! # Texts from which nothing is lost

A value whose numbers are integers of 64 bits is written so that its text shows that value and no
other (`readsAs_text`, `text_injective`).  If its objects hold their members in order and its
brackets are not nested too deeply, the text is read back as the value (`parse_render`).  So the
text of a request tells its number, its method and its parameters, absent ones from null ones, and
requests to the client with the same text are the same (`Request.text_lossless`). -/

namespace EditorSession

namespace Json

/-! ### Values that keep their numbers and their order -/

/-- All numbers of the value are integers of 64 bits, with or without a sign. -/
inductive Integral : Json → Prop
  | null : Integral null
  | boolean (b : Bool) : Integral (boolean b)
  | string (s : String) : Integral (string s)
  | int {n : Int} : -Int.pow 2 63 ≤ n ∧ n < Int.pow 2 64 → Integral (int n)
  | array {items : List Json} : (∀ v ∈ items, Integral v) → Integral (array items)
  | object {members : List (String × Json)} : (∀ m ∈ members, Integral m.2) →
      Integral (object members)

/-- All objects of the value hold their members in the order of their names. -/
inductive Sorted : Json → Prop
  | null : Sorted null
  | boolean (b : Bool) : Sorted (boolean b)
  | number (n : Json.Number) : Sorted (number n)
  | string (s : String) : Sorted (string s)
  | array {items : List Json} : (∀ v ∈ items, Sorted v) → Sorted (array items)
  | object {members : List (String × Json)} : Ordered members → (∀ m ∈ members, Sorted m.2) →
      Sorted (object members)

/-! ### Texts -/

/-- The text of a member. -/
def memberText (m : String × Json) : List Char := quote m.1 ++ ':' :: m.2.text

theorem text_append_restText (item : Json) (rest : List Json) :
    item.text ++ restText rest = [','].intercalate ((item :: rest).map text) ++ [']'] := by
  induction rest generalizing item with
  | nil => simp [restText]
  | cons next rest ih => simp [restText, ih]

theorem text_array (items : List Json) :
    (array items).text = '[' :: [] ++ [','].intercalate (items.map text) ++ [']'] := by
  cases items with
  | nil => simp [text]
  | cons item rest =>
      rw [text, List.cons_append, text_append_restText]
      rfl

theorem memberText_append_membersText (m : String × Json) (rest : List (String × Json)) :
    memberText m ++ membersText rest =
      [','].intercalate ((m :: rest).map memberText) ++ ['\x7d'] := by
  induction rest generalizing m with
  | nil => simp [membersText]
  | cons next rest ih =>
      have hnext : membersText (next :: rest) = ',' :: (memberText next ++ membersText rest) := by
        simp [membersText, memberText]
      rw [hnext, ih]
      simp

theorem text_object (members : List (String × Json)) :
    (object members).text = '\x7b' :: [] ++ [','].intercalate (members.map memberText) ++
      ['\x7d'] := by
  cases members with
  | nil => simp [text]
  | cons m rest =>
      have htext : (object (m :: rest)).text = '\x7b' :: (memberText m ++ membersText rest) := by
        simp [text, memberText]
      rw [htext, memberText_append_membersText]
      rfl

namespace Outline

theorem ofItems_eq_map (items : List Json) : ofItems items = items.map ofValue := by
  induction items with
  | nil => rfl
  | cons item rest ih => rw [ofItems, ih, List.map_cons]

/-- The text of a value shows the value, wherever it stands. -/
theorem readsAs_text {v : Json} (h : Integral v) : ReadsAs v.text (ofValue v) := by
  induction h with
  | null => exact readsAs_null
  | boolean b =>
      cases b with
      | true => exact readsAs_true
      | false => exact readsAs_false
  | string s => exact readsAs_quote s
  | int hn => exact readsAs_integer hn
  | array _ ih =>
      rw [text_array, ofValue, ofItems_eq_map]
      refine readsAs_array rfl ?_
      rw [List.forall₂_map_left_iff, List.forall₂_map_right_iff]
      exact List.forall₂_same.mpr ih
  | object _ ih =>
      rw [text_object, ofValue, ofMembers_eq_named]
      refine readsAs_object rfl ?_
      rw [named, contents, List.map_map, List.forall₂_map_left_iff, List.forall₂_map_right_iff]
      exact List.forall₂_same.mpr fun m hm => .intro (readsAs_quote m.1) (ih m hm)

mutual
/-- Different values have different outlines. -/
theorem ofValue_injective : ∀ v w : Json, ofValue v = ofValue w → v = w
  | .null, w, h => by cases w <;> simp_all [ofValue]
  | .boolean _, w, h => by cases w <;> simp_all [ofValue]
  | .number _, w, h => by cases w <;> simp_all [ofValue]
  | .string _, w, h => by cases w <;> simp_all [ofValue]
  | .array items, w, h => by
      cases w with
      | array items' =>
          rw [ofValue, ofValue, Outline.array.injEq] at h
          rw [ofItems_injective items items' h.1]
      | _ => simp [ofValue] at h
  | .object members, w, h => by
      cases w with
      | object members' =>
          rw [ofValue, ofValue, Outline.object.injEq] at h
          rw [ofMembers_injective members members' h.1]
      | _ => simp [ofValue] at h

theorem ofItems_injective : ∀ items items' : List Json, ofItems items = ofItems items' →
    items = items'
  | [], [], _ => rfl
  | [], _ :: _, h => by simp [ofItems] at h
  | _ :: _, [], h => by simp [ofItems] at h
  | item :: rest, item' :: rest', h => by
      rw [ofItems, ofItems, List.cons.injEq] at h
      rw [ofValue_injective item item' h.1, ofItems_injective rest rest' h.2]

theorem ofMembers_injective : ∀ members members' : List (String × Json),
    ofMembers members = ofMembers members' → members = members'
  | [], [], _ => rfl
  | [], _ :: _, h => by simp [ofMembers] at h
  | _ :: _, [], h => by simp [ofMembers] at h
  | (name, value) :: rest, (name', value') :: rest', h => by
      rw [ofMembers, ofMembers, List.cons.injEq, Prod.mk.injEq, Option.some.injEq] at h
      rw [h.1.1, ofValue_injective value value' h.1.2, ofMembers_injective rest rest' h.2]
end

end Outline

/-- Values with the same text are the same. -/
theorem text_injective {v w : Json} (hv : Integral v) (hw : Integral w) (h : v.text = w.text) :
    v = w :=
  Outline.ofValue_injective v w
    ((Outline.readsAs_text hv).unique (h ▸ Outline.readsAs_text hw))

/-! ### Values read back -/

namespace Outline

variable {room : Nat}

theorem itemValues_ofItems {items : List Json}
    (h : ∀ v ∈ items, (ofValue v).value? room = .ok v) :
    itemValues room (ofItems items) .closed = .ok items := by
  induction items with
  | nil => rfl
  | cons item rest ih =>
      rw [List.forall_mem_cons] at h
      rw [ofItems, itemValues, h.1, ih h.2]
      rfl

theorem memberValues_ofMembers {members : List (String × Json)} (base : List (String × Json))
    (h : ∀ m ∈ members, (ofValue m.2).value? room = .ok m.2) :
    memberValues room (ofMembers members) .closed base =
      .ok (members.foldl (fun acc m => insert m.1 m.2 acc) base) := by
  induction members generalizing base with
  | nil => rfl
  | cons m rest ih =>
      rw [List.forall_mem_cons] at h
      rw [ofMembers, memberValues, h.1]
      exact ih (insert m.1 m.2 base) h.2

/-- An object is read as that of its members, whatever their order. -/
theorem value?_object {members : List (String × Json)}
    (h : ∀ m ∈ members, (ofValue m.2).value? room = .ok m.2) :
    (ofValue (.object members)).value? (room + 1) = .ok (Json.ofMembers members) := by
  rw [ofValue, value?, memberValues_ofMembers [] h]
  rfl

theorem depth_le_itemsDepth {items : List Json} {v : Json} (h : v ∈ items) :
    (ofValue v).depth ≤ itemsDepth (ofItems items) := by
  induction items with
  | nil => exact absurd h List.not_mem_nil
  | cons item rest ih =>
      rw [ofItems, itemsDepth]
      rcases List.mem_cons.mp h with rfl | h
      · exact Nat.le_max_left _ _
      · exact Nat.le_trans (ih h) (Nat.le_max_right _ _)

theorem depth_le_membersDepth {members : List (String × Json)} {m : String × Json}
    (h : m ∈ members) : (ofValue m.2).depth ≤ membersDepth (ofMembers members) := by
  induction members with
  | nil => exact absurd h List.not_mem_nil
  | cons first rest ih =>
      rw [ofMembers, membersDepth]
      rcases List.mem_cons.mp h with rfl | h
      · exact Nat.le_max_left _ _
      · exact Nat.le_trans (ih h) (Nat.le_max_right _ _)

/-- A value in order is the value of its outline, where there is room for its brackets. -/
theorem value?_ofValue {v : Json} (h : Sorted v) (hroom : (ofValue v).depth ≤ room) :
    (ofValue v).value? room = .ok v := by
  induction h generalizing room with
  | null | boolean | number | string => rfl
  | @array items _ ih =>
      rw [ofValue, depth] at hroom
      obtain ⟨room, rfl⟩ : ∃ k, room = k + 1 := ⟨room - 1, by omega⟩
      have hitems : itemValues room (ofItems items) .closed = .ok items :=
        itemValues_ofItems fun v hv => ih v hv
          (Nat.le_trans (depth_le_itemsDepth hv) (Nat.le_of_succ_le_succ hroom))
      rw [ofValue, value?, hitems]
      rfl
  | @object members hordered _ ih =>
      rw [ofValue, depth] at hroom
      obtain ⟨room, rfl⟩ : ∃ k, room = k + 1 := ⟨room - 1, by omega⟩
      rw [value?_object fun m hm => ih m hm
        (Nat.le_trans (depth_le_membersDepth hm) (Nat.le_of_succ_le_succ hroom)),
        hordered.ofMembers_eq]

end Outline

/-- What is written is read back. -/
theorem parse_render {v : Json} (hv : Integral v) (hsorted : Sorted v)
    (hdepth : (Outline.ofValue v).depth ≤ 127) : parse v.render = .ok v :=
  (Outline.readsAs_text hv).parse (Outline.value?_ofValue hsorted hdepth)

end Json

/-! ### Requests -/

open Json (Integral Sorted Outline)

namespace Request

/-- The number of the request has 64 bits with a sign, and so have the integers in its parameters,
with or without one; they hold no other numbers. -/
structure Integral (r : Request) : Prop where
  id : -Int.pow 2 63 ≤ r.id ∧ r.id < Int.pow 2 63
  params : ∀ p, r.params = some p → p.Integral

theorem Integral.toJson {r : Request} (h : r.Integral) : r.toJson.Integral := by
  have hpow : Int.pow 2 63 < Int.pow 2 64 := by decide
  refine .object fun m hm => ?_
  simp only [members, List.mem_append, List.mem_cons, List.not_mem_nil, or_false,
    Option.mem_toList, Option.map_eq_some_iff] at hm
  rcases hm with (rfl | rfl | rfl) | ⟨p, hp, rfl⟩
  · exact .string _
  · exact .int ⟨h.id.1, Int.lt_trans h.id.2 hpow⟩
  · exact .string _
  · exact h.params p hp

theorem toJson_injective : Function.Injective toJson := by
  rintro ⟨id, method, params⟩ ⟨id', method', params'⟩ h
  have hmembers : id = id' ∧ method = method' ∧
      optionalMember "params" (fun p => p) params =
        optionalMember "params" (fun p => p) params' := by
    simpa [toJson, members, Json.int, optionalMember] using h
  obtain ⟨rfl, rfl, hparams⟩ := hmembers
  rw [optionalMember_injective Function.injective_id hparams]

/-- Requests with the same text are the same. -/
theorem text_injective {r r' : Request} (h : r.Integral) (h' : r'.Integral)
    (htext : r.text = r'.text) : r = r' :=
  toJson_injective (Json.text_injective h.toJson h'.toJson (String.ofList_injective htext))

theorem ofMembers_members (r : Request) : Json.ofMembers r.members = .object
    ([("id", .int r.id), ("jsonrpc", .string "2.0"), ("method", .string r.method)] ++
      (r.params.map fun p => ("params", p)).toList) := by
  obtain ⟨id, method, params⟩ := r
  cases params <;> simp [Json.ofMembers, members, Json.insert, Json.precedes, version]

end Request

namespace ClientRequest

/-- The options in the request hold no numbers but integers of 64 bits. -/
def Integral (asked : ClientRequest) : Prop :=
  ∀ registrations, asked = .register registrations →
    ∀ r ∈ registrations, ∀ options, r.options = some options → options.Integral

variable {asked other : ClientRequest}

theorem integral_of_forall_mem {name : String} {items : List Json}
    (h : ∀ v ∈ items, v.Integral) : (Json.object [(name, .array items)]).Integral := by
  refine .object fun m hm => ?_
  rw [List.mem_singleton.mp hm]
  exact .array h

theorem integral_optionalMember {α : Type} {name : String} {write : α → Json} {content : Option α}
    (h : ∀ a, content = some a → (write a).Integral) {m : String × Json}
    (hm : m ∈ optionalMember name write content) : m.2.Integral := by
  obtain ⟨a, ha, rfl⟩ := Option.map_eq_some_iff.mp (Option.mem_toList.mp hm)
  exact h a ha

theorem integral_registration {r : Registration}
    (h : ∀ options, r.options = some options → options.Integral) : r.toJson.Integral := by
  refine .object fun m hm => ?_
  rcases List.mem_append.mp hm with hm | hm
  · simp only [List.mem_cons, List.not_mem_nil, or_false] at hm
    rcases hm with rfl | rfl
    · exact .string _
    · exact .string _
  · exact integral_optionalMember h hm

theorem integral_unregistration (u : Unregistration) : u.toJson.Integral := by
  refine .object fun m hm => ?_
  simp only [List.mem_cons, List.not_mem_nil, or_false] at hm
  rcases hm with rfl | rfl
  · exact .string _
  · exact .string _

theorem integral_item (i : ConfigurationItem) : i.toJson.Integral := by
  refine .object fun m hm => ?_
  rcases List.mem_append.mp hm with hm | hm
  · exact integral_optionalMember (fun _ _ => .string _) hm
  · exact integral_optionalMember (fun _ _ => .string _) hm

theorem Integral.params (h : asked.Integral) : asked.params.Integral := by
  cases asked with
  | register registrations =>
      exact integral_of_forall_mem (List.forall_mem_map.mpr fun r hr =>
        integral_registration (h registrations rfl r hr))
  | unregister entries =>
      exact integral_of_forall_mem (List.forall_mem_map.mpr fun u _ => integral_unregistration u)
  | configuration items =>
      exact integral_of_forall_mem (List.forall_mem_map.mpr fun i _ => integral_item i)

theorem Integral.toRequest (h : asked.Integral) {n : Int}
    (hn : -Int.pow 2 63 ≤ n ∧ n < Int.pow 2 63) : (asked.toRequest n).Integral :=
  ⟨hn, fun _ hp => Option.some.inj hp ▸ h.params⟩

end ClientRequest

namespace Request

/-- A request whose parameters are in order and leave room for one more bracket is read back. -/
theorem parse_text {r : Request} (h : r.Integral)
    (hparams : ∀ p, r.params = some p → p.Sorted ∧ (Outline.ofValue p).depth < 127) :
    Json.parse r.text = .ok (Json.ofMembers r.members) := by
  refine (Outline.readsAs_text h.toJson).parse (Outline.value?_object fun m hm => ?_)
  simp only [members, List.mem_append, List.mem_cons, List.not_mem_nil, or_false,
    Option.mem_toList, Option.map_eq_some_iff] at hm
  rcases hm with (rfl | rfl | rfl) | ⟨p, hp, rfl⟩
  · rfl
  · rfl
  · rfl
  · obtain ⟨hsorted, hdepth⟩ := hparams p hp
    exact Outline.value?_ofValue hsorted (Nat.le_of_lt_succ hdepth)

/-- The text of a request is read back as the object of its version, its number, its method and, if
there are any, its parameters, as long as these have room for their brackets.  So requests with the
same text are the same, absent parameters told from null ones, and so are the requests to the client
that are written in the same text, however long their lists and however deep their options. -/
theorem text_lossless :
    (∀ r : Request, r.Integral →
      (∀ p, r.params = some p → p.Sorted ∧ (Outline.ofValue p).depth < 127) →
      Json.parse r.text = .ok (.object
        ([("id", .int r.id), ("jsonrpc", .string "2.0"), ("method", .string r.method)] ++
          (r.params.map fun p => ("params", p)).toList))) ∧
    (∀ r r' : Request, r.Integral → r'.Integral → r.text = r'.text → r = r') ∧
    ∀ (asked other : ClientRequest) (n k : Int), asked.Integral → other.Integral →
      (-Int.pow 2 63 ≤ n ∧ n < Int.pow 2 63) → (-Int.pow 2 63 ≤ k ∧ k < Int.pow 2 63) →
      (asked.toRequest n).text = (other.toRequest k).text → asked = other ∧ n = k := by
  refine ⟨fun r h hparams => ?_, fun r r' => text_injective,
    fun asked other n k hasked hother hn hk htext => ?_⟩
  · rw [parse_text h hparams, ofMembers_members]
  · have hrequest := text_injective (hasked.toRequest hn) (hother.toRequest hk) htext
    exact ClientRequest.toRequest_inj.mp hrequest

/-- A request at the limits: its number is the least of its kind, its method has a control and a
quote in it, and its parameters hold the greatest integer. -/
def atLimits : Request :=
  ⟨-9223372036854775808, "a\x01\"\\é", some (.object [("", .array [.int 18446744073709551615]),
    ("b", .null)])⟩

theorem integral_atLimits : atLimits.Integral := by
  refine ⟨by decide, fun p hp => ?_⟩
  obtain rfl := Option.some.inj hp
  refine .object ?_
  rw [List.forall_mem_cons, List.forall_mem_singleton]
  refine ⟨.array ?_, .null⟩
  rw [List.forall_mem_singleton]
  exact .int (by decide)

theorem text_lossless_of_atLimits :
    Json.parse atLimits.text = .ok (.object [("id", .int (-9223372036854775808)),
      ("jsonrpc", .string "2.0"), ("method", .string "a\x01\"\\é"),
      ("params", .object [("", .array [.int 18446744073709551615]), ("b", .null)])]) ∧
    (⟨1, "m", none⟩ : Request).text ≠ (⟨1, "m", some .null⟩ : Request).text ∧
    ((ClientRequest.register [⟨⟨"i"⟩, "m", none⟩]).toRequest 1).text ≠
      ((ClientRequest.register [⟨⟨"i"⟩, "m", some .null⟩]).toRequest 1).text := by
  obtain ⟨hparse, hrequest, hclient⟩ := text_lossless
  refine ⟨hparse atLimits integral_atLimits fun p hp => ?_, fun h => ?_, fun h => ?_⟩
  · obtain rfl := Option.some.inj hp
    refine ⟨.object (by simp [Json.Ordered, Json.precedes]) ?_, by decide⟩
    rw [List.forall_mem_cons, List.forall_mem_singleton]
    exact ⟨.array (List.forall_mem_singleton.mpr (.number _)), .null⟩
  · have hnone : (⟨1, "m", none⟩ : Request).Integral := ⟨by decide, fun p hp => by cases hp⟩
    have hnull : (⟨1, "m", some .null⟩ : Request).Integral :=
      ⟨by decide, fun p hp => Option.some.inj hp ▸ .null⟩
    cases congrArg params (hrequest _ _ hnone hnull h)
  · have hnone : (ClientRequest.register [⟨⟨"i"⟩, "m", none⟩]).Integral := by
      intro registrations hr r hmem options hoptions
      obtain rfl := ClientRequest.register.inj hr
      rw [List.mem_singleton.mp hmem] at hoptions
      cases hoptions
    have hnull : (ClientRequest.register [⟨⟨"i"⟩, "m", some .null⟩]).Integral := by
      intro registrations hr r hmem options hoptions
      obtain rfl := ClientRequest.register.inj hr
      rw [List.mem_singleton.mp hmem] at hoptions
      obtain rfl := Option.some.inj hoptions
      exact .null
    have hsame := (hclient _ _ 1 1 hnone hnull (by decide) (by decide) h).1
    simp at hsame

end Request

end EditorSession
