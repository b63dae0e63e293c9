/-
This file writes actions as JSON and reads them from documents. An action is written as its name,
and since any text is the name of an action, any text is read as one.
-/
import Gatekeeper.Action
import Gatekeeper.Document.Decode

namespace Gatekeeper

namespace Action

def toJson (action : Action) : Json :=
  .text action.name

def read (document : Document) : Except ReadError Action :=
  document.readText.map ofName

end Action

end Gatekeeper
