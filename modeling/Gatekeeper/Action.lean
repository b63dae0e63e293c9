/-
This file names the actions a rank rule may speak of. An action is one of the standard ones or a
custom one, and what identifies it is its dotted name alone: two actions are the same exactly when
their names are the same string, and actions are ordered as their names are.
-/

namespace Gatekeeper

/-! ### Standard actions -/

/-- The actions every deployment knows. -/
inductive StandardAction where
  | questionAdd
  | questionEdit
  | questionEditWithoutReview
  | questionDelete
  | questionUndelete
  | questionClose
  | questionReopen
  | questionVoteUp
  | questionVoteDown
  | questionPin
  | questionHide
  | answerAdd
  | answerEdit
  | answerEditWithoutReview
  | answerDelete
  | answerUndelete
  | answerAccept
  | answerVoteUp
  | answerVoteDown
  | answerInvite
  | commentAdd
  | commentEdit
  | commentDelete
  | commentVoteUp
  | reportAdd
  | tagAdd
  | tagEdit
  | tagDelete
  | tagSynonym
  | linkUrlLimit
  deriving DecidableEq

namespace StandardAction

/-- The dotted name under which rules are configured. -/
def name : StandardAction → String
  | questionAdd => "question.add"
  | questionEdit => "question.edit"
  | questionEditWithoutReview => "question.edit_without_review"
  | questionDelete => "question.delete"
  | questionUndelete => "question.undelete"
  | questionClose => "question.close"
  | questionReopen => "question.reopen"
  | questionVoteUp => "question.vote_up"
  | questionVoteDown => "question.vote_down"
  | questionPin => "question.pin"
  | questionHide => "question.hide"
  | answerAdd => "answer.add"
  | answerEdit => "answer.edit"
  | answerEditWithoutReview => "answer.edit_without_review"
  | answerDelete => "answer.delete"
  | answerUndelete => "answer.undelete"
  | answerAccept => "answer.accept"
  | answerVoteUp => "answer.vote_up"
  | answerVoteDown => "answer.vote_down"
  | answerInvite => "answer.invite_someone_to_answer"
  | commentAdd => "comment.add"
  | commentEdit => "comment.edit"
  | commentDelete => "comment.delete"
  | commentVoteUp => "comment.vote_up"
  | reportAdd => "report.add"
  | tagAdd => "tag.add"
  | tagEdit => "tag.edit"
  | tagDelete => "tag.delete"
  | tagSynonym => "tag.synonym"
  | linkUrlLimit => "link.url_limit"

/-- The standard action of a name, if there is one. -/
def ofName? : String → Option StandardAction
  | "question.add" => some questionAdd
  | "question.edit" => some questionEdit
  | "question.edit_without_review" => some questionEditWithoutReview
  | "question.delete" => some questionDelete
  | "question.undelete" => some questionUndelete
  | "question.close" => some questionClose
  | "question.reopen" => some questionReopen
  | "question.vote_up" => some questionVoteUp
  | "question.vote_down" => some questionVoteDown
  | "question.pin" => some questionPin
  | "question.hide" => some questionHide
  | "answer.add" => some answerAdd
  | "answer.edit" => some answerEdit
  | "answer.edit_without_review" => some answerEditWithoutReview
  | "answer.delete" => some answerDelete
  | "answer.undelete" => some answerUndelete
  | "answer.accept" => some answerAccept
  | "answer.vote_up" => some answerVoteUp
  | "answer.vote_down" => some answerVoteDown
  | "answer.invite_someone_to_answer" => some answerInvite
  | "comment.add" => some commentAdd
  | "comment.edit" => some commentEdit
  | "comment.delete" => some commentDelete
  | "comment.vote_up" => some commentVoteUp
  | "report.add" => some reportAdd
  | "tag.add" => some tagAdd
  | "tag.edit" => some tagEdit
  | "tag.delete" => some tagDelete
  | "tag.synonym" => some tagSynonym
  | "link.url_limit" => some linkUrlLimit
  | _ => none

theorem ofName?_name (action : StandardAction) : ofName? action.name = some action := by
  cases action <;> rfl

theorem name_of_ofName? {text : String} {action : StandardAction}
    (found : ofName? text = some action) : action.name = text := by
  unfold ofName? at found
  split at found <;> cases found <;> rfl

end StandardAction

/-! ### Actions -/

/-- An action a request asks for: a standard one, or one that only its configuration names. A
custom action may carry the name of a standard one; it is then the same action. -/
inductive Action where
  | standard (action : StandardAction)
  | custom (name : String)

namespace Action

/-- The dotted name, which is what identifies an action. -/
def name : Action → String
  | standard action => action.name
  | custom name => name

/-- The action of a name: the standard one if the name is a standard name. -/
def ofName (name : String) : Action :=
  match StandardAction.ofName? name with
  | some action => standard action
  | none => custom name

theorem name_ofName (text : String) : (ofName text).name = text := by
  unfold ofName
  split
  · next found => exact StandardAction.name_of_ofName? found
  · rfl

/-- Actions are equal when their names are. -/
instance : BEq Action := ⟨fun first second => first.name == second.name⟩

/-- Actions are ordered as their names are. -/
instance : Ord Action := ⟨fun first second => compare first.name second.name⟩

/-- The bytes that stand for an action in a hash: those of its name, and one that is in no text. -/
def hashInput (action : Action) : List UInt8 :=
  action.name.toUTF8.toList ++ [0xff]

instance : Hashable Action := ⟨fun action => hash action.hashInput⟩

theorem beq_iff (first second : Action) : (first == second) = true ↔ first.name = second.name :=
  beq_iff_eq (a := first.name) (b := second.name)

/-- The actions that handle an answer. Unless told otherwise a configuration requires a rule for
each of them. -/
def answerHandling : List StandardAction :=
  [.answerAdd, .answerEdit, .answerEditWithoutReview, .answerDelete, .answerUndelete,
    .answerAccept, .linkUrlLimit]

end Action

end Gatekeeper
