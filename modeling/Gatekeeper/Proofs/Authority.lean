/-
This file proves that authority never costs a request anything. Rank, ownership and being an admin
are looked at in four places: when duplicates are let past, when a permission is checked, when the
rank for the exemption action is checked, and when an exemption is decided. In each of them more
authority can only turn a no into a yes, whatever the rules, the exemption and the stores are. So if
the action of a request is carried out, it is also carried out for the same request of an actor with
more authority who finds the gate in the same state.
-/
import Gatekeeper.Proofs.Mediation
import Gatekeeper.Proofs.Upkeep

namespace Gatekeeper

variable {δ κ ν α ε : Type}

/-! ### Requests with more authority -/

namespace Request

/-- The same request, of the same user, with this authority. -/
def withAuthority (request : Request) (rank : Rank) (isAdmin isOwner : Bool) : Request :=
  { request with
    actor := { request.actor with rank := rank, isAdmin := isAdmin }
    isOwner := isOwner }

/-- The authority of a request does not go beyond this. -/
structure Within (request : Request) (rank : Rank) (isAdmin isOwner : Bool) : Prop where
  rank : request.actor.rank ≤ rank
  admin : request.actor.isAdmin = true → isAdmin = true
  owner : request.isOwner = true → isOwner = true

end Request

namespace Gate

variable {request : Request} {gate : Gate δ κ ν} {rank : Rank} {isAdmin isOwner : Bool}

/-! ### What more authority does to each demand -/

/-- Admins are let past the duplicates at most more often, and the store is asked the same. -/
theorem Unrepeated.withAuthority [DuplicateStore δ] (unrepeated : gate.Unrepeated request)
    (within : request.Within rank isAdmin isOwner) :
    gate.Unrepeated (request.withAuthority rank isAdmin isOwner) := by
  rcases unrepeated with unmarked | ⟨admin, bypass⟩ | entered
  · exact .inl unmarked
  · exact .inr (.inl ⟨within.admin admin, bypass⟩)
  · exact .inr (.inr entered)

theorem Permitted.withAuthority (permitted : gate.Permitted request)
    (within : request.Within rank isAdmin isOwner) :
    gate.Permitted (request.withAuthority rank isAdmin isOwner) := by
  rcases permitted with admin | ⟨rule, found, enough | ⟨owner, threshold, owned, enough⟩⟩
  · exact .inl (within.admin admin)
  · exact .inr ⟨rule, found, .inl (UInt64.le_trans enough within.rank)⟩
  · exact .inr ⟨rule, found,
      .inr ⟨within.owner owner, threshold, owned, UInt64.le_trans enough within.rank⟩⟩

theorem RankExempts.of_le {actor stronger : Actor} (exempts : gate.RankExempts actor)
    (more : actor.rank ≤ stronger.rank) : gate.RankExempts stronger := by
  obtain ⟨rule, found, enough⟩ := exempts
  exact ⟨rule, found, UInt64.le_trans enough more⟩

/-- Under each exemption an actor stays exempt. -/
theorem Exempt.of_le {actor stronger : Actor} (exempt : gate.Exempt actor)
    (more : actor.rank ≤ stronger.rank)
    (admin : actor.isAdmin = true → stronger.isAdmin = true) : gate.Exempt stronger := by
  unfold Exempt at exempt ⊢
  cases exemption : gate.challenges.settings.exemption with
  | nobody =>
    rw [exemption] at exempt
    exact exempt
  | admins =>
    rw [exemption] at exempt
    exact admin exempt
  | adminsOrRank =>
    rw [exemption] at exempt
    exact exempt.imp admin fun exempts => exempts.of_le more
  | adminsWithRank =>
    rw [exemption] at exempt
    exact ⟨admin exempt.1, exempt.2.of_le more⟩

/-- An actor who becomes exempt is cleared without being challenged; any other finds the same
counter and the same verifier. -/
theorem Cleared.withAuthority [AttemptStore κ] [CaptchaVerifier ν] (cleared : gate.Cleared request)
    (within : request.Within rank isAdmin isOwner) :
    gate.Cleared (request.withAuthority rank isAdmin isOwner) := by
  rcases cleared with unchallenged | exempt | checked
  · exact .inl unchallenged
  · exact .inr (.inl (exempt.of_le within.rank within.admin))
  · exact .inr (.inr checked)

/-- Whatever state the gate is in, and whatever its rules and its exemption are: if the action of a
request is carried out, then it is carried out too where the request has more authority and is
otherwise the same. -/
theorem executes_withAuthority (gate : MemoryGate) (request : Request)
    (action : Activity MemoryGate (Except ε α)) (rank : Rank) (isAdmin isOwner : Bool)
    (within : request.Within rank isAdmin isOwner)
    (executed :
      ((runRequest request (counting action)).run (gate.counted 0)).state.executions = 1) :
    ((runRequest (request.withAuthority rank isAdmin isOwner) (counting action)).run
      (gate.counted 0)).state.executions = 1 := by
  rw [executions_eq_one_iff, screen_eq_ok_iff _ _ AttemptRecords.replies] at executed ⊢
  obtain ⟨unrepeated, permitted, cleared⟩ := executed
  exact ⟨unrepeated.withAuthority within, permitted.withAuthority within,
    cleared.withAuthority within⟩

/-- A member who has solved her captcha may ask her question, and so she may once she is an admin of
a higher rank. -/
theorem executes_question_of_admin :
    let action : Activity MemoryGate (Except Unit Unit) := pure (.ok ())
    question.Within 20 true true ∧
      ((runRequest question (counting action)).run (questionGate.counted 0)).state.executions = 1 ∧
      ((runRequest (question.withAuthority 20 true true) (counting action)).run
        (questionGate.counted 0)).state.executions = 1 := by
  intro action
  have within : question.Within 20 true true := ⟨by decide, fun _ => rfl, fun _ => rfl⟩
  have executed : ((runRequest question (counting action)).run
      (questionGate.counted 0)).state.executions = 1 := by decide +kernel
  exact ⟨within, executed,
    executes_withAuthority questionGate question action 20 true true within executed⟩

end Gate

end Gatekeeper
