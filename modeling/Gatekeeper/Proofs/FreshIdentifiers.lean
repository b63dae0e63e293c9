/-
This file proves that a desk builds no identifier twice. Every captcha that is asked for takes the
next running number, also where nothing is issued in the end, and the digits of that number end the
identifier. They make identifiers differ all by themselves: where the salt gives two numbers the
same hash, and where a number has grown longer than the eight digits that shorter ones are filled
up to. As long as the numbers have not come round, a new captcha therefore never takes the place of
one that is still held.
-/
import Gatekeeper.Proofs.RightAnswer
import Mathlib.Data.List.Nodup

namespace Gatekeeper

namespace CaptchaDesk

namespace History

variable {history : History} {id : String}

/-! ### The identifiers of a history -/

/-- The identifiers that are built while these questions are asked. There is one for each captcha
that is asked for, also where the end of its life cannot be represented. -/
def built (history : History) : List (Instant × Question) → List String
  | [] => []
  | (now, question) :: rest =>
    let later := (history.ask now question).built rest
    if question.isIssue then identifier history.desk.salt history.desk.sequence :: later
    else later

theorem built_append (history : History) (first second : List (Instant × Question)) :
    history.built (first ++ second) =
      history.built first ++ (history.after first).built second := by
  induction first generalizing history with
  | nil => rfl
  | cons question rest inductionHypothesis =>
    have later := inductionHypothesis (history.ask question.1 question.2)
    rw [List.cons_append, built, built, later]
    split <;> rfl

/-- Identifiers are built from running numbers in a row. -/
theorem built_eq_map (history : History) (questions : List (Instant × Question)) :
    history.built questions =
      (List.range (questions.countP fun question => question.2.isIssue)).map fun before =>
        identifier history.desk.salt (history.desk.sequence + UInt64.ofNat before) := by
  induction questions generalizing history with
  | nil => rfl
  | cons question rest inductionHypothesis =>
    rw [built, inductionHypothesis, salt_ask, number_ask, List.countP_cons]
    cases question.2.isIssue with
    | false => simp
    | true =>
      simp [List.range_succ_eq_map, Function.comp_def, UInt64.ofNat_add, UInt64.add_assoc,
        UInt64.add_comm 1]

/-- No two of them are the same unless the running numbers come round. -/
theorem built_nodup (history : History) {questions : List (Instant × Question)}
    (few : questions.countP (fun question => question.2.isIssue) ≤ UInt64.size) :
    (history.built questions).Nodup := by
  rw [built_eq_map]
  refine List.Nodup.map_on (fun first firstBefore second secondBefore same => ?_) List.nodup_range
  have numbers := (UInt64.add_right_inj _).mp (identifier_injective history.desk.salt same)
  have values := congrArg UInt64.toNat numbers
  have firstSmall := Nat.lt_of_lt_of_le (List.mem_range.mp firstBefore) few
  have secondSmall := Nat.lt_of_lt_of_le (List.mem_range.mp secondBefore) few
  rwa [UInt64.toNat_ofNat_of_lt' firstSmall, UInt64.toNat_ofNat_of_lt' secondSmall] at values

/-- The identifier that comes next has not been built before. -/
theorem next_not_mem_built (history : History) {questions : List (Instant × Question)}
    (few : questions.countP (fun question => question.2.isIssue) < UInt64.size) :
    identifier (history.after questions).desk.salt (history.after questions).desk.sequence ∉
      history.built questions := by
  -- One more captcha makes that identifier the last one that is built.
  let next : List (Instant × Question) := [(⟨0⟩, .issue "" .question "")]
  have enough : (questions ++ next).countP (fun question => question.2.isIssue) ≤ UInt64.size := by
    rw [List.countP_append]
    exact few
  have different := history.built_nodup enough
  rw [built_append] at different
  exact fun member => List.disjoint_of_nodup_append different member List.mem_cons_self

/-! ### The captchas that are held -/

/-- A desk holds what it held before, and what it has built an identifier for. -/
theorem ask_held {now : Instant} {question : Question} {captcha : IssuedCaptcha}
    (held : (history.ask now question).desk.issued.get? id = some captcha) :
    history.desk.issued.get? id = some captcha ∨ id ∈ history.built [(now, question)] := by
  cases question with
  | issue user kind answer =>
    dsimp only [ask] at held
    cases within : now.after? history.desk.life with
    | none =>
      rw [issue_of_none within] at held
      exact .inl held
    | some expiresAt =>
      rw [issue_of_some within, KeyedStore.get?_insert] at held
      by_cases same : id = identifier history.desk.salt history.desk.sequence
      · exact .inr (List.mem_singleton.mpr same)
      · rw [if_neg same] at held
        exact .inl held
  | verify user kind token =>
    have left : (history.desk.issued.erase token.id).get? id = some captcha := held
    rw [KeyedStore.get?_erase] at left
    by_cases same : id = token.id
    · rw [if_pos same] at left
      cases left
    · rw [if_neg same] at left
      exact .inl left
  | purge =>
    have left := (KeyedStore.get?_purge history.desk.issued _ id).symm.trans held
    exact .inl (Option.filter_eq_some_iff.mp left).1

theorem after_held {questions : List (Instant × Question)} {captcha : IssuedCaptcha}
    (held : (history.after questions).desk.issued.get? id = some captcha) :
    history.desk.issued.get? id = some captcha ∨ id ∈ history.built questions := by
  induction questions generalizing history with
  | nil => exact .inl held
  | cons question rest inductionHypothesis =>
    rw [show question :: rest = [question] ++ rest from rfl, built_append, List.mem_append]
    rcases inductionHypothesis held with asked | later
    · exact (ask_held asked).imp_right .inl
    · exact .inr (.inr later)

/-! ### Captchas that are issued -/

/-- An identifier is never built twice. Let fewer captchas be asked for than there are running
numbers, whatever else is asked of the desk and in whatever order of time. Then all identifiers that
are built on the way are different, and so is the one of the captcha that is asked for next. Where
nothing was held at the start, no captcha is held under that one yet: issuing it takes nobody's
place and makes the desk hold exactly one captcha more. Where nothing is issued because the end of
its life cannot be represented, the desk holds what it held. -/
theorem identifiers_never_repeat (desk : CaptchaDesk) (questions : List (Instant × Question))
    (few : questions.countP (fun question => question.2.isIssue) < UInt64.size) :
    let start : History := ⟨desk, []⟩
    let held := (start.after questions).desk.issued
    (∀ salt first second, identifier salt first = identifier salt second ↔ first = second) ∧
      (start.built questions).Nodup ∧
      ∀ now user kind answer,
        let reply := (start.after questions).desk.issue now user kind answer
        (∀ fault, reply.1 = .error fault → reply.2.issued = held) ∧
        ∀ id, reply.1 = .ok id →
          start.built (questions ++ [(now, .issue user kind answer)]) =
              start.built questions ++ [id] ∧
            id ∉ start.built questions ∧
            (∃ expiresAt, reply.2.issued.get? id = some ⟨user, kind, answer, expiresAt⟩) ∧
            (∀ other, other ≠ id → reply.2.issued.get? other = held.get? other) ∧
            (desk.issued = .empty →
              held.get? id = none ∧ reply.2.issued.size = held.size + 1) := by
  intro start held
  refine ⟨fun salt first second => ⟨identifier_injective salt, congrArg _⟩,
    built_nodup start few.le, fun now user kind answer => ?_⟩
  cases within : now.after? (start.after questions).desk.life with
  | none =>
    rw [issue_of_none within]
    exact ⟨fun _ _ => rfl, nofun⟩
  | some expiresAt =>
    rw [issue_of_some within]
    refine ⟨nofun, fun id issued => ?_⟩
    cases issued
    have unbuilt := start.next_not_mem_built few
    refine ⟨start.built_append questions _, unbuilt,
      ⟨expiresAt, KeyedStore.get?_insert_self _ _ _⟩,
      fun other apart => KeyedStore.get?_insert_of_ne _ _ apart, fun empty => ?_⟩
    have absent : held.get? (identifier (start.after questions).desk.salt
        (start.after questions).desk.sequence) = none := by
      refine Option.eq_none_iff_forall_ne_some.mpr fun captcha found => ?_
      rcases after_held found with before | member
      · rw [show start.desk.issued = .empty from empty] at before
        cases before
      · exact unbuilt member
    exact ⟨absent, KeyedStore.size_insert_of_absent absent _⟩

/-- Where the digits grow to nine and the hashes are all the same, three captchas still have three
identifiers. -/
theorem identifiers_never_repeat_nine_digits :
    let desk : CaptchaDesk := ⟨⟨10⟩, fun _ => 7, 0xfffffffe, .empty⟩
    let questions : List (Instant × Question) :=
      [(⟨0⟩, .issue "ada" .question "Xy7k"), (⟨1⟩, .purge), (⟨1⟩, .issue "bob" .vote "42")]
    let start : History := ⟨desk, []⟩
    let reply := (start.after questions).desk.issue ⟨2⟩ "ada" .question "Xy7k"
    questions.countP (fun question => question.2.isIssue) < UInt64.size ∧
      start.built questions = ["0000000000000007fffffffe", "0000000000000007ffffffff"] ∧
      (start.built questions).Nodup ∧
      reply.1 = .ok "0000000000000007100000000" ∧
      "0000000000000007100000000" ∉ start.built questions ∧
      reply.2.issued.size = 3 := by
  intro desk questions start reply
  have few : questions.countP (fun question => question.2.isIssue) < UInt64.size := by decide
  have issued : reply.1 = .ok "0000000000000007100000000" := by decide +kernel
  have built : start.built questions =
      ["0000000000000007fffffffe", "0000000000000007ffffffff"] := by decide +kernel
  have two : (start.after questions).desk.issued.size = 2 := by decide +kernel
  obtain ⟨_, different, asked⟩ := identifiers_never_repeat desk questions few
  obtain ⟨_, unbuilt, _, _, grows⟩ := (asked ⟨2⟩ "ada" .question "Xy7k").2 _ issued
  refine ⟨few, built, different, issued, unbuilt, ?_⟩
  rw [(grows rfl).2, two]

end History

end CaptchaDesk

end Gatekeeper
