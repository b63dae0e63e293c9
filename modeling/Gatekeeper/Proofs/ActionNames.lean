/-
This file proves that a name is all there is to an action. Names are given to the standard actions
by one table and read back by another; the two are inverse to each other, and what neither of them
knows is custom. Whatever compares actions compares their names: as equal, by what is hashed of
them, and in the order of their bytes, so a custom action that carries the name of a standard one
cannot be told from it.
-/
import Gatekeeper.Action.Document
import Gatekeeper.Proofs.JsonRoundTrip
import Gatekeeper.Proofs.TextOrder

namespace Gatekeeper

namespace Action

/-! ### Names that are read -/

theorem ofName_standard_name (standard : StandardAction) :
    ofName standard.name = .standard standard := by
  rw [ofName, StandardAction.ofName?_name]

/-- A name is that of a custom action exactly when no standard action has it. -/
theorem ofName_eq_custom_iff (text : String) :
    (∃ name, ofName text = .custom name) ↔ ∀ standard : StandardAction, standard.name ≠ text := by
  constructor
  · rintro ⟨name, custom⟩ standard rfl
    rw [ofName_standard_name] at custom
    cases custom
  · intro unknown
    cases found : StandardAction.ofName? text with
    | some standard => exact absurd (StandardAction.name_of_ofName? found) (unknown standard)
    | none => exact ⟨text, by rw [ofName, found]⟩

theorem read_toJson (action : Action) : read (.ofJson action.toJson) = .ok (ofName action.name) :=
  rfl

/-- The JSON text of an action is read as its name, whatever characters are in it. -/
theorem document_render (action : Action) :
    JsonText.document action.toJson.render.toList = (.ofJson action.toJson, true) := by
  rw [Json.render, String.toList_ofList]
  exact JsonText.document_characters trivial

/-! ### Actions that are compared -/

theorem hashInput_eq_iff (first second : Action) :
    first.hashInput = second.hashInput ↔ first.name = second.name := by
  constructor
  · intro same
    exact Fingerprint.eq_of_bytes (List.append_cancel_right same)
  · intro same
    rw [hashInput, hashInput, same]

theorem compare_eq_iff (first second : Action) :
    compare first second = .eq ↔ first.name = second.name := by
  show compare first.name second.name = .eq ↔ _
  exact Std.compare_eq_iff_eq

instance : EquivBEq Action where
  rfl := (beq_iff _ _).mpr rfl
  symm same := (beq_iff _ _).mpr ((beq_iff _ _).mp same).symm
  trans same next := (beq_iff _ _).mpr (((beq_iff _ _).mp same).trans ((beq_iff _ _).mp next))

instance : LawfulHashable Action where
  hash_eq first second same := by
    show hash first.hashInput = hash second.hashInput
    rw [(hashInput_eq_iff first second).mpr ((beq_iff first second).mp same)]

instance : Std.TransOrd Action where
  eq_swap := Std.OrientedOrd.eq_swap (α := String)
  isLE_trans := Std.TransOrd.isLE_trans (α := String)

instance : Std.LawfulBEqOrd Action where
  compare_eq_iff_beq {first second} :=
    (compare_eq_iff first second).trans (beq_iff first second).symm

/-- A name says which action it is. Whatever text is read as an action, that text is the name of the
action and all that is written of it; the action is the standard one of that name, and custom
exactly when there is none. An action that is read from its own name, or from the JSON text it is
written to, is the same action again. Two actions are equal, have the same bytes hashed, and come in
no order exactly when their names are the same; otherwise they are in the order of the bytes of
their names, and this order is total. -/
theorem name_identifies :
    (∀ text, (ofName text).name = text ∧ (ofName text).toJson = .text text ∧
      ((∃ name, ofName text = .custom name) ↔
        ∀ standard : StandardAction, standard.name ≠ text)) ∧
    (∀ standard : StandardAction, ofName standard.name = .standard standard) ∧
    (∀ action : Action, (ofName action.name == action) = true ∧
      ∃ document again, JsonText.document action.toJson.render.toList = (document, true) ∧
        read document = .ok again ∧ (again == action) = true) ∧
    (∀ first second : Action,
      ((first == second) = true ↔ first.name = second.name) ∧
      (first.hashInput = second.hashInput ↔ first.name = second.name) ∧
      (compare first second = .eq ↔ first.name = second.name) ∧
      (compare first second = .lt ↔ first.name.toUTF8.toList < second.name.toUTF8.toList)) ∧
    Std.TransOrd Action ∧ Std.LawfulBEqOrd Action ∧ LawfulHashable Action := by
  have again (action : Action) : (ofName action.name == action) = true :=
    (beq_iff _ _).mpr (name_ofName action.name)
  refine ⟨fun text => ?_, ofName_standard_name, fun action => ⟨again action, ?_⟩,
    fun first second => ⟨beq_iff first second, hashInput_eq_iff first second,
      compare_eq_iff first second, ?_⟩, inferInstance, inferInstance, inferInstance⟩
  · exact ⟨name_ofName text, congrArg Json.text (name_ofName text), ofName_eq_custom_iff text⟩
  · exact ⟨_, _, document_render action, read_toJson action, again action⟩
  · exact compare_eq_lt_iff_bytes_lt first.name second.name

end Action

end Gatekeeper
