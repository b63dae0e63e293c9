/-
This file proves what a rule table says. A table is put together from pairs of an action and a rule,
in one go or one pair after another, and what counts of an action is its name: the table has one
entry for each name, in the order of their bytes, with the rule of the last pair of that name. A
query then has one of three verdicts, and all that the permissions of a gate can be asked is a
reading of it: whether the answer is yes, what a request is told, the answers to many queries, and
what has been counted.
-/
import Gatekeeper.Proofs.Parts
import Gatekeeper.Proofs.SortedMaps
import Gatekeeper.Proofs.TextOrder
import Mathlib.Data.List.Forall2

namespace Gatekeeper

/-! ### The last rule of a name -/

/-- Of the pairs whose action has this name the last one gives it this rule. -/
def LastRule (pairs : List (Action × Rule)) (name : String) (rule : Rule) : Prop :=
  ∃ earlier action later, pairs = earlier ++ (action, rule) :: later ∧ action.name = name ∧
    ∀ pair ∈ later, pair.1.name ≠ name

theorem exists_lastRule_iff (pairs : List (Action × Rule)) (name : String) :
    (∃ rule, LastRule pairs name rule) ↔ ∃ pair ∈ pairs, pair.1.name = name := by
  constructor
  · rintro ⟨rule, earlier, action, later, rfl, named, -⟩
    exact ⟨(action, rule), List.mem_append_right _ List.mem_cons_self, named⟩
  · intro present
    induction pairs with
    | nil => simp at present
    | cons head rest inductionHypothesis =>
      by_cases again : ∃ pair ∈ rest, pair.1.name = name
      · obtain ⟨rule, earlier, action, later, rfl, last⟩ := inductionHypothesis again
        exact ⟨rule, head :: earlier, action, later, rfl, last⟩
      · obtain ⟨pair, member, named⟩ := present
        rcases List.mem_cons.mp member with rfl | later
        · exact ⟨pair.2, [], pair.1, rest, rfl, named,
            fun other present same => again ⟨other, present, same⟩⟩
        · exact absurd ⟨pair, later, named⟩ again

namespace RuleTable

theorem ofRules_append (collected added : List (Action × Rule)) :
    ofRules (collected ++ added) =
      added.foldl (fun table pair => table.withRule pair.1 pair.2) (ofRules collected) :=
  List.foldl_append

/-- A table shows for each name the rule of the last pair of that name. -/
theorem get?_ofRules_eq_some_iff (pairs : List (Action × Rule)) (name : String) (rule : Rule) :
    (ofRules pairs).get? name = some rule ↔ LastRule pairs name rule := by
  let entry (pair : Action × Rule) : String × Rule := (pair.1.name, pair.2)
  have table : ofRules pairs = SortedMap.ofList (pairs.map entry) := by
    rw [SortedMap.ofList, List.foldl_map]
    rfl
  rw [table, SortedMap.get?_ofList, List.lookup_eq_some_iff]
  constructor
  · rintro ⟨later, earlier, split, apart⟩
    rw [List.reverse_eq_append_iff, List.reverse_cons, List.append_assoc, List.singleton_append]
      at split
    obtain ⟨before, remaining, rfl, -, split⟩ := List.map_eq_append_iff.mp split
    obtain ⟨⟨action, given⟩, after, rfl, same, split⟩ := List.map_eq_cons_iff.mp split
    cases same
    refine ⟨before, action, after, rfl, rfl, fun pair member same => ?_⟩
    have listed : entry pair ∈ later := by
      rw [← List.mem_reverse, ← (List.cons.inj split).2]
      exact List.mem_map_of_mem member
    exact absurd same.symm (by simpa using apart _ listed)
  · rintro ⟨earlier, action, later, rfl, rfl, last⟩
    refine ⟨(later.map entry).reverse, (earlier.map entry).reverse, by simp [entry], ?_⟩
    intro pair member
    obtain ⟨other, present, rfl⟩ := List.mem_map.mp (List.mem_reverse.mp member)
    simpa using (last other present).symm

/-- A table lists the rules that pairs give: one entry for each of their names, in the order of
their bytes, with the rule of the last pair of that name. -/
structure Lists (table : RuleTable) (pairs : List (Action × Rule)) : Prop where
  names : ∀ name, name ∈ table.keys ↔ ∃ pair ∈ pairs, pair.1.name = name
  ordered : table.keys.Pairwise fun first second => first.toUTF8.toList < second.toUTF8.toList
  last : ∀ name rule, (name, rule) ∈ table.entries ↔ LastRule pairs name rule

theorem lists_ofRules (pairs : List (Action × Rule)) : (ofRules pairs).Lists pairs := by
  have last : ∀ name rule, (name, rule) ∈ (ofRules pairs).entries ↔ LastRule pairs name rule := by
    intro name rule
    rw [← SortedMap.get?_eq_some_iff, get?_ofRules_eq_some_iff]
  refine ⟨fun name => ?_, ?_, last⟩
  · rw [← exists_lastRule_iff]
    simp only [SortedMap.keys, List.mem_map, Prod.exists, exists_and_right, exists_eq_right, last]
  · refine List.pairwise_map.mpr ((ofRules pairs).increasing.imp fun before => ?_)
    exact (compare_eq_lt_iff_bytes_lt _ _).mp before

end RuleTable

/-! ### Verdicts -/

/-- What a rule table says to a query. -/
inductive Verdict where
  | permitted
  | denied
  | missing
  deriving DecidableEq

namespace Verdict

def isPermitted (verdict : Verdict) : Bool :=
  verdict = permitted

/-- What a request is told. -/
def authorization (action : String) : Verdict → Except Rejection Unit
  | permitted => .ok ()
  | denied => .error (.permissionDenied action)
  | missing => .error (.configurationMissing action)

/-- Counts verdicts. -/
def counted (tally : PermissionTally) (verdicts : List Verdict) : PermissionTally where
  permits := tally.permits + UInt64.ofNat (verdicts.count permitted)
  denials := tally.denials + UInt64.ofNat (verdicts.count denied)
  configurationMissing := tally.configurationMissing + UInt64.ofNat (verdicts.count missing)

theorem counted_nil (tally : PermissionTally) : counted tally [] = tally := by
  simp [counted]

theorem counted_cons (tally : PermissionTally) (verdict : Verdict) (verdicts : List Verdict) :
    counted tally (verdict :: verdicts) = counted (counted tally [verdict]) verdicts := by
  simp only [counted, List.count_cons, List.count_nil, UInt64.ofNat_add, Nat.zero_add,
    UInt64.add_assoc, UInt64.add_comm (UInt64.ofNat (verdicts.count _))]

end Verdict

/-- Who is granted a query by the last of the rules: admins, whoever has the rank that the rule asks
of anyone, and an owner with the rank that it asks of owners. -/
def Granted (pairs : List (Action × Rule)) (query : PermissionQuery) : Prop :=
  query.isAdmin = true ∨ ∃ rule, LastRule pairs query.action.name rule ∧
    (rule.others ≤ query.rank ∨
      query.isOwner = true ∧ ∃ enough, rule.owner = some enough ∧ enough ≤ query.rank)

namespace RuleTable

/-- What the table says to a query. -/
def verdict (table : RuleTable) (query : PermissionQuery) : Verdict :=
  if query.isAdmin then .permitted
  else
    match table.rule? query.action with
    | none => .missing
    | some rule =>
      match rule.decide query.rank query.isOwner with
      | .permit => .permitted
      | .deny => .denied

/-- What the table tells a request for this action that it turns away. -/
def refusal (table : RuleTable) (action : Action) : Rejection :=
  match table.rule? action with
  | none => .configurationMissing action.name
  | some _ => .permissionDenied action.name

theorem eq_refusal_of_authorization {table : RuleTable} {query : PermissionQuery}
    {rejection : Rejection}
    (refused : (table.verdict query).authorization query.action.name = .error rejection) :
    rejection = table.refusal query.action := by
  unfold verdict at refused
  unfold refusal
  by_cases admin : query.isAdmin = true
  · rw [if_pos admin] at refused
    cases refused
  · rw [if_neg admin] at refused
    generalize table.rule? query.action = rule at refused ⊢
    cases rule with
    | none => exact (Except.error.inj refused).symm
    | some rule =>
      dsimp only at refused ⊢
      split at refused
      · cases refused
      · exact (Except.error.inj refused).symm

section Pairs

variable (pairs : List (Action × Rule)) (query : PermissionQuery)

theorem verdict_eq_permitted_iff :
    (ofRules pairs).verdict query = .permitted ↔ Granted pairs query := by
  unfold verdict Granted
  simp only [← get?_ofRules_eq_some_iff, ← Rule.decide_eq_permit_iff, rule?]
  by_cases admin : query.isAdmin = true
  · simp [admin]
  · cases (ofRules pairs).get? query.action.name with
    | none => simp [admin]
    | some rule => cases decided : rule.decide query.rank query.isOwner <;> simp [admin, decided]

theorem verdict_eq_missing_iff :
    (ofRules pairs).verdict query = .missing ↔
      ¬ Granted pairs query ∧ ∀ rule, ¬ LastRule pairs query.action.name rule := by
  rw [← verdict_eq_permitted_iff]
  simp only [← get?_ofRules_eq_some_iff, ← Option.eq_none_iff_forall_ne_some, verdict, rule?]
  by_cases admin : query.isAdmin = true
  · simp [admin]
  · cases (ofRules pairs).get? query.action.name with
    | none => simp [admin]
    | some rule => cases decided : rule.decide query.rank query.isOwner <;> simp [admin, decided]

theorem verdict_eq_denied_iff :
    (ofRules pairs).verdict query = .denied ↔
      ¬ Granted pairs query ∧ ∃ rule, LastRule pairs query.action.name rule := by
  have permitted := verdict_eq_permitted_iff pairs query
  have missing := verdict_eq_missing_iff pairs query
  rw [← not_exists] at missing
  cases said : (ofRules pairs).verdict query <;> simp_all

end Pairs

end RuleTable

/-! ### What the permissions answer -/

namespace Permissions

variable (query : PermissionQuery) (permissions : Permissions)

/-- The permissions after these verdicts. -/
def counting (verdicts : List Verdict) : Permissions :=
  { permissions with tally := Verdict.counted permissions.tally verdicts }

theorem evaluate_spec :
    ((evaluate query).run permissions).result = .ok (match permissions.rules.verdict query with
      | .permitted => .ok .permit
      | .denied => .ok .deny
      | .missing => .error (.configurationMissing query.action.name)) ∧
    ((evaluate query).run permissions).state =
      permissions.counting [permissions.rules.verdict query] := by
  rw [evaluate, Activity.run_state_bind, RuleTable.verdict]
  by_cases admin : query.isAdmin = true
  · simp only [if_pos admin]
    exact ⟨rfl, by simp [counting, Verdict.counted, Activity.run_bind, count, Activity.run_change,
      Activity.run_pure]⟩
  · simp only [if_neg admin]
    cases permissions.rules.rule? query.action with
    | none =>
      exact ⟨rfl, by simp [counting, Verdict.counted, Activity.run_bind, Activity.run_change,
        Activity.run_log, Activity.run_pure]⟩
    | some rule =>
      cases decided : rule.decide query.rank query.isOwner <;>
        simp [counting, Verdict.counted, Activity.run_bind, count, Activity.run_change,
          Activity.run_log, Activity.run_pure, decided]

/-- The answer is yes exactly when the verdict is, and the verdict is counted. -/
theorem permits_spec :
    ((permits query).run permissions).result =
      .ok (permissions.rules.verdict query).isPermitted ∧
    ((permits query).run permissions).state =
      permissions.counting [permissions.rules.verdict query] := by
  obtain ⟨result, state⟩ := evaluate_spec query permissions
  rw [permits, Activity.run_bind_of_ok result, ← state]
  cases permissions.rules.verdict query <;> exact ⟨rfl, rfl⟩

/-- A request is told what the verdict is, and the verdict is counted. -/
theorem authorize_spec :
    ((authorize query).run permissions).result =
      .ok ((permissions.rules.verdict query).authorization query.action.name) ∧
    ((authorize query).run permissions).state =
      permissions.counting [permissions.rules.verdict query] := by
  obtain ⟨result, state⟩ := evaluate_spec query permissions
  rw [authorize, Activity.run_bind_of_ok result, ← state]
  cases permissions.rules.verdict query <;> exact ⟨rfl, rfl⟩

/-- Many queries are answered one by one, and their verdicts are counted. -/
theorem permitsAll_spec (queries : List PermissionQuery) :
    ((permitsAll queries).run permissions).result =
      .ok (queries.map fun query => (permissions.rules.verdict query).isPermitted) ∧
    ((permitsAll queries).run permissions).state =
      permissions.counting (queries.map permissions.rules.verdict) := by
  suffices loop : ∀ (queries : List PermissionQuery) (permissions : Permissions) (done : List Bool),
      let outcome := Activity.run (List.mapM.loop permits queries done) permissions
      outcome.result = .ok (done.reverse ++
        queries.map fun query => (permissions.rules.verdict query).isPermitted) ∧
      outcome.state = permissions.counting (queries.map permissions.rules.verdict) from
    loop queries permissions []
  intro queries
  induction queries with
  | nil =>
    intro permissions done
    exact ⟨by simp [List.mapM.loop, Activity.run_pure],
      by simp [List.mapM.loop, Activity.run_pure, counting, Verdict.counted_nil]⟩
  | cons query rest inductionHypothesis =>
    intro permissions done
    obtain ⟨answer, state⟩ := permits_spec query permissions
    obtain ⟨answers, counted⟩ := inductionHypothesis
      (permissions.counting [permissions.rules.verdict query])
      ((permissions.rules.verdict query).isPermitted :: done)
    rw [List.mapM.loop, Activity.run_bind_of_ok answer, state]
    refine ⟨answers.trans (by simp [counting]), counted.trans ?_⟩
    rw [List.map_cons]
    simp only [counting, ← Verdict.counted_cons]

/-- Verdicts follow the last rule of a name. A table that is put together from some pairs at once
and from others one after another lists the rules of all of them. To a query it says yes exactly
when the query is granted; otherwise it says that the rank does not do or, if no pair has the name
of the action, that a rule is missing. The permissions with this table answer and count what it
says, one query or many, and it makes no difference whether a standard action is asked for as such
or by its name. -/
theorem verdicts_follow_last_rule (collected added : List (Action × Rule))
    (tally : PermissionTally) :
    let pairs := collected ++ added
    let table := added.foldl (fun table pair => table.withRule pair.1 pair.2)
      (RuleTable.ofRules collected)
    let permissions : Permissions := ⟨table, tally⟩
    table.Lists pairs ∧
    (∀ query,
      (table.verdict query = .permitted ↔ Granted pairs query) ∧
      (table.verdict query = .denied ↔
        ¬ Granted pairs query ∧ ∃ rule, LastRule pairs query.action.name rule) ∧
      (table.verdict query = .missing ↔
        ¬ Granted pairs query ∧ ∀ rule, ¬ LastRule pairs query.action.name rule) ∧
      ((permits query).run permissions).result = .ok (table.verdict query).isPermitted ∧
      ((authorize query).run permissions).result =
        .ok ((table.verdict query).authorization query.action.name)) ∧
    (∀ (query : PermissionQuery) (standard : StandardAction),
      let named := { query with action := .custom standard.name }
      let known := { query with action := .standard standard }
      (permits named).run permissions = (permits known).run permissions ∧
      (authorize named).run permissions = (authorize known).run permissions) ∧
    ∀ queries,
      (∃ answers, ((permitsAll queries).run permissions).result = .ok answers ∧
        List.Forall₂ (fun query answer => ((permits query).run permissions).result = .ok answer)
          queries answers) ∧
      ((permitsAll queries).run permissions).state =
        ⟨table, Verdict.counted tally (queries.map table.verdict)⟩ := by
  intro pairs table permissions
  have listed : RuleTable.ofRules pairs = table := RuleTable.ofRules_append collected added
  refine ⟨listed ▸ RuleTable.lists_ofRules pairs, fun query => ?_,
    fun query standard => ⟨rfl, rfl⟩, fun queries => ?_⟩
  · rw [← listed]
    exact ⟨RuleTable.verdict_eq_permitted_iff pairs query,
      RuleTable.verdict_eq_denied_iff pairs query, RuleTable.verdict_eq_missing_iff pairs query,
      listed ▸ (permits_spec query permissions).1, listed ▸ (authorize_spec query permissions).1⟩
  · obtain ⟨answered, counted⟩ := permitsAll_spec permissions queries
    refine ⟨⟨_, answered, List.forall₂_map_right_iff.mpr (List.forall₂_same.mpr ?_)⟩, counted⟩
    exact fun query _ => (permits_spec query permissions).1

/-- The later of two rules of one name stays, whether or not it gives the name to a standard
action. -/
example :
    let pairs := [(.standard .answerEdit, ⟨5, none⟩), (.custom "answer.edit", ⟨7, none⟩)]
    (RuleTable.ofRules pairs).rule? (.standard .answerEdit) = some ⟨7, none⟩ := by
  decide

end Permissions

end Gatekeeper
