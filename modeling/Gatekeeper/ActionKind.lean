/-
This file lists the kinds of action that a challenge protects. Attempts are counted for each kind
on its own. Kinds are ordered as they are listed here, not as their names are.
-/
import Std.Data.TreeMap

namespace Gatekeeper

/-- A kind of action that may ask its user for a solved captcha. -/
inductive ActionKind where
  | email
  | password
  | editUserInfo
  | question
  | answer
  | comment
  | edit
  | invitationAnswer
  | search
  | report
  | delete
  | vote
  deriving DecidableEq

namespace ActionKind

/-- Every kind, in order. -/
def all : List ActionKind :=
  [email, password, editUserInfo, question, answer, comment, edit, invitationAnswer, search,
    report, delete, vote]

/-- The name a configuration uses. -/
def name : ActionKind → String
  | email => "email"
  | password => "password"
  | editUserInfo => "edit_userinfo"
  | question => "question"
  | answer => "answer"
  | comment => "comment"
  | edit => "edit"
  | invitationAnswer => "invitation_answer"
  | search => "search"
  | report => "report"
  | delete => "delete"
  | vote => "vote"

/-- The kind of a name, if there is one. -/
def ofName? (name : String) : Option ActionKind :=
  all.find? fun kind => kind.name == name

/-- What is said of a name that no kind has. -/
def unknownMessage (name : String) : String :=
  s!"unknown captcha action kind `{name}`"

theorem ofName?_name (kind : ActionKind) : ofName? kind.name = some kind := by
  cases kind <;> decide

/-- The place of a kind in the list of all kinds. -/
def place (kind : ActionKind) : Nat :=
  all.idxOf kind

theorem place_injective {first second : ActionKind} (same : first.place = second.place) :
    first = second := by
  cases first <;> cases second <;> first | rfl | exact absurd same (by decide)

instance : Ord ActionKind := ⟨fun first second => compare first.place second.place⟩

instance : Std.TransOrd ActionKind where
  eq_swap := Std.OrientedOrd.eq_swap (α := Nat)
  isLE_trans := Std.TransOrd.isLE_trans (α := Nat)

instance : Std.LawfulEqOrd ActionKind where
  eq_of_compare equal :=
    place_injective (Std.LawfulEqOrd.eq_of_compare (α := Nat) equal)

end ActionKind

end Gatekeeper
