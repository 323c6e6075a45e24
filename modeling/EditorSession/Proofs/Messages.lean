import EditorSession.Message.ClientRequest
import Mathlib.Data.List.Basic

/-! # Messages tell requests apart

A message is written from a request and a number, and both can be told from it
(`ClientRequest.toRequest_inj`): the three kinds of requests name their lists differently, and an
option that is left out is no member at all. -/

namespace EditorSession

/-! ### Members -/

section members
variable {α : Type} {name : String} {write : α → Json}

theorem optionalMember_injective (h : Function.Injective write) :
    Function.Injective (optionalMember name write) := by
  intro content content' he
  cases content <;> cases content' <;> simp [optionalMember, h.eq_iff] at he ⊢
  exact he

theorem listMember_injective (h : Function.Injective write) :
    Function.Injective fun items : List α => Json.object [(name, .array (items.map write))] := by
  intro items items' he
  have hmapped : items.map write = items'.map write := by simpa using he
  exact List.map_injective_iff.mpr h hmapped

end members

theorem Registration.toJson_injective : Function.Injective Registration.toJson := by
  rintro ⟨⟨id⟩, method, options⟩ ⟨⟨id'⟩, method', options'⟩ h
  have hmembers : id = id' ∧ method = method' ∧
      optionalMember "registerOptions" (fun o => o) options =
        optionalMember "registerOptions" (fun o => o) options' := by
    simpa [toJson] using h
  obtain ⟨rfl, rfl, hoptions⟩ := hmembers
  rw [optionalMember_injective Function.injective_id hoptions]

theorem Unregistration.toJson_injective : Function.Injective Unregistration.toJson := by
  rintro ⟨⟨id⟩, method⟩ ⟨⟨id'⟩, method'⟩ h
  simpa [toJson] using h

theorem Uri.text_injective : Function.Injective Uri.text := by
  rintro ⟨text, _⟩ ⟨text', _⟩ h
  cases h
  rfl

theorem ConfigurationItem.toJson_injective : Function.Injective ConfigurationItem.toJson := by
  have hscope : Function.Injective fun uri : Uri => Json.string uri.text := fun uri uri' h =>
    Uri.text_injective (Json.string.inj h)
  have hsection : Function.Injective Json.string := fun _ _ => Json.string.inj
  rintro ⟨scope, sectionName⟩ ⟨scope', sectionName'⟩ h
  have hmembers := Json.object.inj h
  -- the members have different names, so the scope is there on both sides or on neither
  cases scope with
  | none =>
      cases scope' with
      | none =>
          obtain rfl : sectionName = sectionName' := optionalMember_injective hsection hmembers
          rfl
      | some uri' => cases sectionName <;> simp [optionalMember] at hmembers
  | some uri =>
      cases scope' with
      | none => cases sectionName' <;> simp [optionalMember] at hmembers
      | some uri' =>
          obtain ⟨hfirst, hrest⟩ := List.cons.inj hmembers
          obtain rfl : uri = uri' := hscope (Prod.mk.inj hfirst).2
          obtain rfl : sectionName = sectionName' := optionalMember_injective hsection hrest
          rfl

/-! ### Requests -/

namespace ClientRequest
variable {first second : ClientRequest} {n k : Int}

theorem exists_eq_register_of_method (h : first.method = Method.registerCapability) :
    ∃ registrations, first = register registrations := by
  cases first with
  | register registrations => exact ⟨registrations, rfl⟩
  | _ => simp [method, Method.registerCapability, Method.unregisterCapability,
      Method.configuration] at h

theorem exists_eq_unregister_of_method (h : first.method = Method.unregisterCapability) :
    ∃ entries, first = unregister entries := by
  cases first with
  | unregister entries => exact ⟨entries, rfl⟩
  | _ => simp [method, Method.registerCapability, Method.unregisterCapability,
      Method.configuration] at h

theorem params_injective : Function.Injective params := by
  intro first second h
  cases first with
  | register registrations =>
      cases second with
      | register _ => rw [listMember_injective Registration.toJson_injective h]
      | _ => simp [params] at h
  | unregister entries =>
      cases second with
      | unregister _ => rw [listMember_injective Unregistration.toJson_injective h]
      | _ => simp [params] at h
  | configuration items =>
      cases second with
      | configuration _ => rw [listMember_injective ConfigurationItem.toJson_injective h]
      | _ => simp [params] at h

/-- A message tells the request and its number. -/
theorem toRequest_inj : first.toRequest n = second.toRequest k ↔ first = second ∧ n = k := by
  constructor
  · intro h
    have hparams : first.params = second.params := Option.some.inj (congrArg Request.params h)
    exact ⟨params_injective hparams, congrArg Request.id h⟩
  · rintro ⟨rfl, rfl⟩
    rfl

end ClientRequest

end EditorSession
