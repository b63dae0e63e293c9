/-
This file proves that what is digested for a request says which request it is, and nothing else.
The components stand behind their lengths, so they can be read back one after another, and no text
can move from one of them into the next; hence two requests with the same bytes are of the same
user, ask for the same action, and have the same text in each field that counts. In which order the
fields were set does not show, nor does a value that was overwritten, nor a field that is left out.
Nothing is assumed of the digest itself.
-/
import Gatekeeper.Fingerprint
import Gatekeeper.Proofs.SortedMaps

namespace Gatekeeper

/-! ### Bytes -/

theorem toList_byteArray (bytes : ByteArray) : bytes.toList = bytes.data.toList := by
  have loop : ∀ place read, ByteArray.toList.loop bytes place read =
      read.reverse ++ bytes.data.toList.drop place := by
    intro place read
    induction place, read using ByteArray.toList.loop.induct bytes with
    | case1 place read within inductionHypothesis =>
      have inside : place < bytes.data.toList.length := within
      have byte : bytes.get! place = bytes.data.toList[place] :=
        getElem!_pos bytes.data place within
      rw [ByteArray.toList.loop, if_pos within, inductionHypothesis,
        List.drop_eq_getElem_cons inside, byte, List.reverse_cons, List.append_assoc]
      rfl
    | case2 place read beyond =>
      have outside : bytes.data.toList.length ≤ place := Nat.le_of_not_lt beyond
      rw [ByteArray.toList.loop, if_neg beyond, List.drop_eq_nil_of_le outside, List.append_nil]
  exact (loop 0 []).trans rfl

namespace Fingerprint

/-- Texts with the same bytes are the same. -/
theorem eq_of_bytes {first second : String}
    (same : first.toUTF8.toList = second.toUTF8.toList) : first = second := by
  rw [toList_byteArray, toList_byteArray] at same
  exact String.toByteArray_inj.mp (ByteArray.ext (Array.toList_inj.mp same))

theorem length_bytes (text : String) : text.toUTF8.toList.length = text.utf8ByteSize := by
  rw [toList_byteArray]
  rfl

/-! ### Components -/

theorem length_lengthBytes (length : Nat) : (lengthBytes length).length = 8 := by
  rw [lengthBytes, List.length_map, List.length_range]

/-- Numbers with the same bytes are the same as far as the bytes go. -/
theorem mod_eq_of_bytes {first second places : Nat}
    (same : ∀ place < places,
      first / Nat.pow 256 place % 256 = second / Nat.pow 256 place % 256) :
    first % Nat.pow 256 places = second % Nat.pow 256 places := by
  induction places with
  | zero => rw [Nat.pow_eq, Nat.pow_zero, Nat.mod_one, Nat.mod_one]
  | succ places inductionHypothesis =>
    have low := inductionHypothesis fun place within => same place (Nat.lt_succ_of_lt within)
    have high := same places (Nat.lt_succ_self places)
    rw [Nat.pow_eq] at low high ⊢
    rw [Nat.mod_pow_succ, Nat.mod_pow_succ, low, high]

/-- Eight bytes hold every length below `2 ^ 64`. -/
theorem lengthBytes_injective {first second : Nat} (firstFits : first < 0x10000000000000000)
    (secondFits : second < 0x10000000000000000) (same : lengthBytes first = lengthBytes second) :
    first = second := by
  have low : first % Nat.pow 256 8 = second % Nat.pow 256 8 := by
    refine mod_eq_of_bytes fun place within => ?_
    have byte := List.map_inj_left.mp same place (List.mem_range.mpr within)
    simpa using congrArg UInt8.toNat byte
  have whole : Nat.pow 256 8 = 0x10000000000000000 := rfl
  rwa [whole, Nat.mod_eq_of_lt firstFits, Nat.mod_eq_of_lt secondFits] at low

/-- The length of a text fits in front of it. -/
def IsShort (text : String) : Prop :=
  text.utf8ByteSize < 0x10000000000000000

instance (text : String) : Decidable (IsShort text) :=
  inferInstanceAs (Decidable (text.utf8ByteSize < 0x10000000000000000))

/-- A component can be told from what follows it. -/
theorem component_append_inj {first second : String} {firstRest secondRest : List UInt8}
    (firstShort : IsShort first) (secondShort : IsShort second)
    (same : component first ++ firstRest = component second ++ secondRest) :
    first = second ∧ firstRest = secondRest := by
  rw [component, component, List.append_assoc, List.append_assoc] at same
  obtain ⟨lengths, texts⟩ := List.append_inj same
    ((length_lengthBytes _).trans (length_lengthBytes _).symm)
  rw [length_bytes, length_bytes] at lengths
  have equal := lengthBytes_injective firstShort secondShort lengths
  rw [← length_bytes, ← length_bytes] at equal
  obtain ⟨bytes, rests⟩ := List.append_inj texts equal
  exact ⟨eq_of_bytes bytes, rests⟩

/-- The fields can be read back one after another; there are as many as there are bytes for. -/
theorem fields_inj {first second : List (String × String)}
    (firstShort : ∀ field ∈ first, IsShort field.1 ∧ IsShort field.2)
    (secondShort : ∀ field ∈ second, IsShort field.1 ∧ IsShort field.2)
    (same : (first.flatMap fun field => component field.1 ++ component field.2) =
      second.flatMap fun field => component field.1 ++ component field.2) : first = second := by
  have some (text : String) (rest : List UInt8) : component text ++ rest ≠ [] := by
    refine List.ne_nil_of_length_pos ?_
    rw [component, List.length_append, List.length_append, length_lengthBytes]
    omega
  induction first generalizing second with
  | nil =>
    cases second with
    | nil => rfl
    | cons field rest =>
      rw [List.flatMap_cons, List.append_assoc] at same
      exact absurd same.symm (some _ _)
  | cons head tail inductionHypothesis =>
    cases second with
    | nil =>
      rw [List.flatMap_cons, List.append_assoc] at same
      exact absurd same (some _ _)
    | cons head' tail' =>
      obtain ⟨short, shorts⟩ := List.forall_mem_cons.mp firstShort
      obtain ⟨short', shorts'⟩ := List.forall_mem_cons.mp secondShort
      rw [List.flatMap_cons, List.flatMap_cons, List.append_assoc, List.append_assoc] at same
      obtain ⟨name, values⟩ := component_append_inj short.1 short'.1 same
      obtain ⟨value, rests⟩ := component_append_inj short.2 short'.2 values
      rw [inductionHypothesis shorts shorts' rests, Prod.ext name value]

/-- The bytes that are digested say who sends what with which fields. -/
theorem preimage_inj {firstUser firstAction secondUser secondAction : String}
    {first second : SortedMap String String} (firstUserShort : IsShort firstUser)
    (firstActionShort : IsShort firstAction) (secondUserShort : IsShort secondUser)
    (secondActionShort : IsShort secondAction)
    (firstShort : ∀ field ∈ first.entries, IsShort field.1 ∧ IsShort field.2)
    (secondShort : ∀ field ∈ second.entries, IsShort field.1 ∧ IsShort field.2)
    (same : preimage firstUser firstAction first = preimage secondUser secondAction second) :
    firstUser = secondUser ∧ firstAction = secondAction ∧ first = second := by
  rw [preimage, preimage, List.append_assoc, List.append_assoc] at same
  obtain ⟨user, rest⟩ := component_append_inj firstUserShort secondUserShort same
  obtain ⟨action, fields⟩ := component_append_inj firstActionShort secondActionShort rest
  exact ⟨user, action, SortedMap.ext (fields_inj firstShort secondShort fields)⟩

end Fingerprint

/-! ### Bodies -/

namespace Json

mutual

/-- The members of every object in a value are in increasing order of their names. -/
def IsSorted : Json → Prop
  | array items => AllSorted items
  | object members => Sorted.Increasing members ∧ MembersSorted members
  | _ => True

def AllSorted : List Json → Prop
  | [] => True
  | item :: items => IsSorted item ∧ AllSorted items

def MembersSorted : List (String × Json) → Prop
  | [] => True
  | (_, value) :: members => IsSorted value ∧ MembersSorted members

end

theorem membersSorted_insert {members : List (String × Json)} (sorted : MembersSorted members)
    (name : String) {value : Json} (valueSorted : value.IsSorted) :
    MembersSorted (Sorted.insert name value members) := by
  induction members with
  | nil => exact ⟨valueSorted, trivial⟩
  | cons head rest inductionHypothesis =>
    obtain ⟨headSorted, restSorted⟩ := sorted
    unfold Sorted.insert
    split
    · exact ⟨valueSorted, headSorted, restSorted⟩
    · exact ⟨valueSorted, restSorted⟩
    · exact ⟨headSorted, inductionHypothesis restSorted⟩

theorem isSorted_ofMembers {members : List (String × Json)} (sorted : MembersSorted members) :
    (ofMembers members).IsSorted := by
  have collected : ∀ before : List (String × Json), Sorted.Increasing before →
      MembersSorted before →
        (object (members.foldl (fun sorted member => Sorted.insert member.1 member.2 sorted)
          before)).IsSorted := by
    induction members with
    | nil => exact fun before increasing sorted => ⟨increasing, sorted⟩
    | cons head rest inductionHypothesis =>
      intro before increasing beforeSorted
      exact inductionHypothesis sorted.2 _ (Sorted.increasing_insert _ _ increasing)
        (membersSorted_insert beforeSorted _ sorted.1)
  exact collected [] .nil trivial

end Json

namespace Payload

mutual

theorem isSorted_toJson : ∀ (body : Payload) (json : Json), body.toJson = .ok json → json.IsSorted
  | null, _, read | boolean _, _, read | text _, _, read => by cases read; trivial
  | double value, _, read => by
    cases read
    split <;> trivial
  | integer value, _, read => by
    unfold toJson at read
    split at read
    · cases read
      trivial
    · cases read
  | list items, _, read => by
    unfold toJson at read
    cases inner : toItems items with
    | error error =>
      rw [inner] at read
      cases read
    | ok values =>
      rw [inner] at read
      cases read
      exact allSorted_toItems items values inner
  | map entries, _, read => by
    unfold toJson at read
    cases inner : toMembers entries with
    | error error =>
      rw [inner] at read
      cases read
    | ok members =>
      rw [inner] at read
      cases read
      exact Json.isSorted_ofMembers (membersSorted_toMembers entries members inner)

theorem allSorted_toItems :
    ∀ (items : List Payload) (values : List Json), toItems items = .ok values →
      Json.AllSorted values
  | [], _, read => by cases read; trivial
  | item :: items, _, read => by
    unfold toItems at read
    cases first : item.toJson with
    | error error =>
      rw [first] at read
      cases read
    | ok value =>
      cases others : toItems items with
      | error error =>
        rw [first, others] at read
        cases read
      | ok values =>
        rw [first, others] at read
        cases read
        exact ⟨isSorted_toJson item value first, allSorted_toItems items values others⟩

theorem membersSorted_toMembers :
    ∀ (entries : List (PayloadKey × Payload)) (members : List (String × Json)),
      toMembers entries = .ok members → Json.MembersSorted members
  | [], _, read => by cases read; trivial
  | (key, value) :: entries, _, read => by
    unfold toMembers at read
    cases named : key.name with
    | error error =>
      rw [named] at read
      cases read
    | ok name =>
      cases first : value.toJson with
      | error error =>
        rw [named, first] at read
        cases read
      | ok json =>
        cases others : toMembers entries with
        | error error =>
          rw [named, first, others] at read
          cases read
        | ok members =>
          rw [named, first, others] at read
          cases read
          exact ⟨isSorted_toJson value json first, membersSorted_toMembers entries members others⟩

end

end Payload

/-! ### Requests -/

/-- The fields that a contribution sets, in order: the field itself, or those of a body that has a
JSON form. -/
def Contribution.settings? : Contribution → Except PayloadError (List (String × String))
  | field name value => .ok [(name, value.written)]
  | payload body => body.toJson.map RequestDraft.fieldsOf

/-- What a fingerprint is asked for: who sends the request, what it asks for, the names that do not
count, and what is added to its fields, in order. -/
structure RequestForm where
  user : String
  action : String
  excluded : List String
  contributions : List Contribution

namespace RequestForm

variable (form : RequestForm)

/-- The draft of the form, if every body in it has a JSON form. -/
def draft : Except PayloadError RequestDraft :=
  (RequestDraft.start form.user form.action form.excluded).addAll form.contributions

/-- The fields that the contributions set, one after another. -/
def settings? : Except PayloadError (List (String × String)) :=
  (form.contributions.mapM Contribution.settings?).map List.flatten

/-- The text that a name is given last, if the name counts. -/
def text? (settings : List (String × String)) (name : String) : Option String :=
  if form.excluded.contains name then none else settings.reverse.lookup name

/-- Every component that is digested has a length that fits in front of it. -/
def IsShort (settings : List (String × String)) : Prop :=
  Fingerprint.IsShort form.user ∧ Fingerprint.IsShort form.action ∧
    ∀ name text, form.text? settings name = some text →
      Fingerprint.IsShort name ∧ Fingerprint.IsShort text

end RequestForm

namespace RequestDraft

/-- The draft with these fields set one after another. -/
def withFields (draft : RequestDraft) (settings : List (String × String)) : RequestDraft :=
  { draft with
    fields := settings.foldl (fun map field => map.insert field.1 field.2) draft.fields }

theorem foldl_withField (draft : RequestDraft) (settings : List (String × String)) :
    settings.foldl (fun draft field => draft.withField field.1 field.2) draft =
      draft.withFields settings := by
  induction settings generalizing draft with
  | nil => rfl
  | cons head rest inductionHypothesis => exact inductionHypothesis _

theorem withFields_append (draft : RequestDraft) (first second : List (String × String)) :
    draft.withFields (first ++ second) = (draft.withFields first).withFields second := by
  rw [withFields, List.foldl_append]
  rfl

/-- A contribution adds its settings one after another. -/
theorem add_of_settings (draft : RequestDraft) {contribution : Contribution}
    {settings : List (String × String)} (read : contribution.settings? = .ok settings) :
    draft.add contribution = .ok (draft.withFields settings) := by
  cases contribution with
  | field name value =>
    cases read
    rfl
  | payload body =>
    have read : body.toJson.map fieldsOf = .ok settings := read
    show (body.toJson.map fun json => _) = _
    cases form : body.toJson with
    | error error =>
      rw [form] at read
      cases read
    | ok json =>
      rw [form] at read
      cases read
      exact congrArg Except.ok (foldl_withField draft _)

theorem addAll_of_settings (draft : RequestDraft) {contributions : List Contribution}
    {settings : List (List (String × String))}
    (read : contributions.mapM Contribution.settings? = .ok settings) :
    draft.addAll contributions = .ok (draft.withFields settings.flatten) := by
  induction contributions generalizing draft settings with
  | nil =>
    cases read
    rfl
  | cons head rest inductionHypothesis =>
    rw [List.mapM_cons] at read
    cases first : head.settings? with
    | error error =>
      rw [first] at read
      cases read
    | ok added =>
      cases others : rest.mapM Contribution.settings? with
      | error error =>
        rw [first, others] at read
        cases read
      | ok later =>
        rw [first, others] at read
        cases read
        rw [addAll, List.foldlM_cons, add_of_settings draft first, List.flatten_cons,
          withFields_append]
        exact inductionHypothesis (draft.withFields added) others

end RequestDraft

namespace RequestForm

variable {form : RequestForm} {settings : List (String × String)}

/-- Where every body has a JSON form, the draft sets the fields of all contributions in order. -/
theorem draft_of_settings (read : form.settings? = .ok settings) :
    form.draft =
      .ok ((RequestDraft.start form.user form.action form.excluded).withFields settings) := by
  unfold settings? at read
  cases each : form.contributions.mapM Contribution.settings? with
  | error error =>
    rw [each] at read
    cases read
  | ok added =>
    rw [each] at read
    cases read
    exact RequestDraft.addAll_of_settings _ each

/-- Where a request has all its fields, each of its contributions has. -/
theorem settings_of_mem (read : form.settings? = .ok settings) {contribution : Contribution}
    (member : contribution ∈ form.contributions) :
    ∃ fields, contribution.settings? = .ok fields := by
  unfold settings? at read
  generalize form.contributions = contributions at read member
  induction contributions generalizing settings with
  | nil => cases member
  | cons head rest inductionHypothesis =>
    rw [List.mapM_cons] at read
    cases first : head.settings? with
    | error error =>
      rw [first] at read
      cases read
    | ok added =>
      rcases List.mem_cons.mp member with rfl | later
      · exact ⟨added, first⟩
      · cases others : rest.mapM Contribution.settings? with
        | error error =>
          rw [first, others] at read
          cases read
        | ok more => exact inductionHypothesis (congrArg (Except.map _) others) later

/-- A name counts with the text that it is given last. -/
theorem get?_counted (form : RequestForm) (settings : List (String × String)) (name : String) :
    ((RequestDraft.start form.user form.action form.excluded).withFields settings).counted.get?
      name = form.text? settings name := by
  have set : (settings.foldl (fun map field => map.insert field.1 field.2)
      (SortedMap.empty : SortedMap String String)).get? name = settings.reverse.lookup name :=
    SortedMap.get?_ofList settings name
  rw [RequestDraft.counted, SortedMap.get?_filter]
  show ((settings.foldl _ SortedMap.empty).get? name).filter _ = _
  rw [set, text?]
  show Option.filter (fun _ => !form.excluded.contains name) _ = _
  cases form.excluded.contains name <;> cases settings.reverse.lookup name <;> rfl

/-- A request of short texts is short. -/
theorem isShort_of_settings (user : Fingerprint.IsShort form.user)
    (action : Fingerprint.IsShort form.action)
    (each : ∀ field ∈ settings, Fingerprint.IsShort field.1 ∧ Fingerprint.IsShort field.2) :
    form.IsShort settings := by
  refine ⟨user, action, fun name text last => ?_⟩
  unfold text? at last
  split at last
  · cases last
  · obtain ⟨later, earlier, split, _⟩ := List.lookup_eq_some_iff.mp last
    refine each (name, text) (List.mem_reverse.mp ?_)
    rw [split]
    exact List.mem_append_right _ List.mem_cons_self

theorem short_of_isShort (short : form.IsShort settings) :
    ∀ field ∈ ((RequestDraft.start form.user form.action form.excluded).withFields
      settings).counted.entries, Fingerprint.IsShort field.1 ∧ Fingerprint.IsShort field.2 := by
  intro field member
  refine short.2.2 field.1 field.2 ?_
  rw [← get?_counted]
  exact (SortedMap.get?_eq_some_iff _ _ _).mpr member

/-- A fingerprint stands for exactly one request. If the bodies of two requests have a JSON form,
so that their fingerprints exist, each of these is the digest of bytes that are the same if and only
if the requests come from the same user, ask for the same action, and give each name that counts
with either of them the same text last. The fields of the draft are those texts, and a body gives
names and texts in the order in which its JSON form, sorted at every level, has them. -/
theorem preimage_eq_iff (first second : RequestForm)
    (firstSettings secondSettings : List (String × String))
    (firstRead : first.settings? = .ok firstSettings)
    (secondRead : second.settings? = .ok secondSettings)
    (firstShort : first.IsShort firstSettings) (secondShort : second.IsShort secondSettings) :
    ∃ firstDraft secondDraft, first.draft = .ok firstDraft ∧ second.draft = .ok secondDraft ∧
      (firstDraft.preimage = secondDraft.preimage ↔
        first.user = second.user ∧ first.action = second.action ∧
          ∀ name, first.text? firstSettings name = second.text? secondSettings name) ∧
      firstDraft.fingerprint.bytes = Sha256.digest firstDraft.preimage ∧
      (∀ name, firstDraft.fields.get? name = firstSettings.reverse.lookup name) ∧
      ∀ body, .payload body ∈ first.contributions →
        ∃ json, body.toJson = .ok json ∧ json.IsSorted := by
  refine ⟨_, _, draft_of_settings firstRead, draft_of_settings secondRead, ⟨fun same => ?_, ?_⟩,
    rfl, SortedMap.get?_ofList firstSettings, ?_⟩
  · obtain ⟨user, action, fields⟩ := Fingerprint.preimage_inj firstShort.1 firstShort.2.1
      secondShort.1 secondShort.2.1 (short_of_isShort firstShort) (short_of_isShort secondShort)
      same
    refine ⟨user, action, fun name => ?_⟩
    rw [← get?_counted, ← get?_counted]
    exact congrArg (SortedMap.get? · name) fields
  · rintro ⟨user, action, texts⟩
    have fields := SortedMap.ext_get? fun name =>
      (get?_counted first firstSettings name).trans
        ((texts name).trans (get?_counted second secondSettings name).symm)
    show Fingerprint.preimage first.user first.action _ =
      Fingerprint.preimage second.user second.action _
    rw [fields, user, action]
  · intro body member
    obtain ⟨fields, read⟩ := settings_of_mem firstRead member
    have read : body.toJson.map RequestDraft.fieldsOf = .ok fields := read
    cases form : body.toJson with
    | error error =>
      rw [form] at read
      cases read
    | ok json => exact ⟨json, rfl, body.isSorted_toJson json form⟩

/-- The order of the fields, what was overwritten and what is left out do not show; a letter that
moves from the user to the action does. -/
theorem preimage_eq_reordered :
    let first : RequestForm := ⟨"ada", "answer.add", ["at"],
      [.field "body" (.text "old"), .field "at" (.integer 1), .payload (.map
        [(.text "html", .boolean true), (.text "body", .text "new")])]⟩
    let second : RequestForm := ⟨"ada", "answer.add", [],
      [.field "html" (.text "true"), .field "body" (.text "new")]⟩
    let moved : RequestForm := { second with user := "ad", action := "aanswer.add" }
    ∃ firstDraft secondDraft movedDraft, first.draft = .ok firstDraft ∧
      second.draft = .ok secondDraft ∧ moved.draft = .ok movedDraft ∧
      firstDraft.preimage = secondDraft.preimage ∧ movedDraft.preimage ≠ secondDraft.preimage := by
  intro first second moved
  let firstSettings := [("body", "old"), ("at", "1"), ("body", "new"), ("html", "true")]
  let secondSettings := [("html", "true"), ("body", "new")]
  have firstRead : first.settings? = .ok firstSettings := rfl
  have secondRead : second.settings? = .ok secondSettings := rfl
  have movedRead : moved.settings? = .ok secondSettings := rfl
  have firstShort : first.IsShort firstSettings :=
    isShort_of_settings (by decide) (by decide) (by decide)
  have secondShort : second.IsShort secondSettings :=
    isShort_of_settings (by decide) (by decide) (by decide)
  have movedShort : moved.IsShort secondSettings :=
    isShort_of_settings (by decide) (by decide) (by decide)
  obtain ⟨firstDraft, secondDraft, firstDrafted, secondDrafted, same, _⟩ :=
    preimage_eq_iff first second firstSettings secondSettings firstRead secondRead firstShort
      secondShort
  obtain ⟨movedDraft, secondDraft', movedDrafted, secondDrafted', apart, _⟩ :=
    preimage_eq_iff moved second secondSettings secondSettings movedRead secondRead movedShort
      secondShort
  cases secondDrafted.symm.trans secondDrafted'
  refine ⟨firstDraft, secondDraft, movedDraft, firstDrafted, secondDrafted, movedDrafted,
    same.mpr ⟨rfl, rfl, fun name => ?_⟩, fun equal => ?_⟩
  · by_cases late : name = "at"
    · subst late
      rfl
    by_cases html : name = "html"
    · subst html
      rfl
    by_cases body : name = "body"
    · subst body
      rfl
    simp [text?, first, second, firstSettings, secondSettings, List.lookup_cons, late, html, body,
      beq_false_of_ne]
  · exact absurd (apart.mp equal).1 (by decide)

end RequestForm

end Gatekeeper
