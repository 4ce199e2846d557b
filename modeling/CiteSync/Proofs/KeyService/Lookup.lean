import CiteSync.KeyService.Endpoint
import CiteSync.Proofs.Remote.Calls
import Mathlib.Data.List.Basic

/-!
# Looking up citation keys

The citation keys of any number of items are looked up in one request.  Its reply is an answer when
it is an object without an error whose result is an object, or says nothing; any other reply makes
the lookup fail.  An answer has the citation key of an item under the qualified key of the item or
under the key of the item alone, so no two items read the same part of it.
-/

namespace CiteSync.KeyService

open Library Remote

variable {σ : Type} {library : Int} {itemKey other : String} {itemKeys : List String}
variable {members : List (String × Json)} {reply : Except Failure Body}

/-! ## 1. Requests -/

/-- A web that keeps a journal of its requests. -/
def Web.journaled (web : Web σ) : Web (σ × List Request) where
  send request := do
    let (s, requests) ← get
    let (result, s) := (web.send request).perform s
    set (s, requests ++ [request])
    match result with
    | .ok body => return body
    | .error failure => throw failure

theorem Web.perform_journaled (web : Web σ) (request : Request) (s : σ × List Request) :
    (web.journaled.send request).perform s =
      (((web.send request).perform s.1).1, ((web.send request).perform s.1).2,
        s.2 ++ [request]) := by
  unfold Web.journaled
  simp only [Call.perform_bind, Call.perform_get, Call.perform_set]
  rcases ((web.send request).perform s.1).1 with failure | body <;> rfl

/-- The request for the citation keys of items. -/
def Endpoint.keyRequest (e : Endpoint) (library : Int) (itemKeys : List String) : Request :=
  e.request "item.citationkey" [.arr (itemKeys.map fun key => .str (qualifiedKey library key))]

/-! ## 2. Replies -/

/-- What a reply to a question says. -/
def readBody : Except Failure Body → Except Failure Json
  | .error (.cancelled note) => .error (.cancelled note)
  | .error (.fault cause) => .error (.fault (transportFault cause))
  | .ok body =>
    match body.json? with
    | .ok answer => (rpcResult answer).mapError .fault
    | .error cause => .error (.fault (transportFault cause))

theorem perform_ask (web : Web σ) (e : Endpoint) (method : String) (params : List Json) (s : σ) :
    (ask web e method params).perform s =
      (readBody ((web.send (e.request method params)).perform s).1,
        ((web.send (e.request method params)).perform s).2) := by
  unfold ask
  rw [Call.perform_bind, Call.perform_caught, Call.perform_bind]
  rcases (web.send (e.request method params)).perform s with ⟨(note | cause) | body, s'⟩
  · rfl
  · rfl
  · dsimp only [readBody]
    rw [Call.perform_ofResult]
    cases body.json? with
    | error cause => rfl
    | ok answer => exact Call.perform_ofResult _ _

/-- What the citation keys of items come to, given the reply to the request for them. -/
def readReply (library : Int) (itemKeys : List String) (reply : Except Failure Body) :
    Except Failure (List (String × Json)) :=
  readBody reply >>= fun result => (answeredKeys library itemKeys result).mapError .fault

/-- A lookup makes one request and reads the reply. -/
theorem perform_citationKeys (web : Web σ) (e : Endpoint) (hasked : itemKeys ≠ [])
    (library : Int) (s : σ) :
    (citationKeys web e itemKeys library).perform s =
      (readReply library itemKeys ((web.send (e.keyRequest library itemKeys)).perform s).1,
        ((web.send (e.keyRequest library itemKeys)).perform s).2) := by
  have hnot : ¬ itemKeys.isEmpty = true := by simpa using hasked
  unfold citationKeys
  rw [if_neg hnot, Call.perform_bind, perform_ask]
  unfold readReply
  rw [← Endpoint.keyRequest]
  cases readBody ((web.send (e.keyRequest library itemKeys)).perform s).1 with
  | error failure => rfl
  | ok result => exact Call.perform_ofResult _ _

/-- A reply that is an answer with these members: an object without an error, whose result is the
object of these members, or says nothing. -/
inductive Answers : Except Failure Body → List (String × Json) → Prop
  | members {parts members : List (String × Json)} (sound : Json.lookup parts "error" = none)
      (result : Json.lookup parts "result" = some (.obj members)) :
      Answers (.ok (.json (.obj parts))) members
  | nothing {parts : List (String × Json)} (sound : Json.lookup parts "error" = none)
      (silent : ∀ v, Json.lookup parts "result" = some v → v.isFilled = false) :
      Answers (.ok (.json (.obj parts))) []

variable {parts : List (String × Json)}

theorem readBody_of_error {error : Json} (h : Json.lookup parts "error" = some error) :
    readBody (.ok (.json (.obj parts))) = .error (.fault (rpcFault error)) := by
  show (rpcResult (.obj parts)).mapError Failure.fault = _
  simp only [rpcResult, h]
  rfl

theorem readBody_of_sound (sound : Json.lookup parts "error" = none) :
    readBody (.ok (.json (.obj parts))) = .ok ((Json.lookup parts "result").getD .null) := by
  show (rpcResult (.obj parts)).mapError Failure.fault = _
  simp only [rpcResult, sound]
  rfl

theorem answeredKeys_of_not_filled {v : Json} (h : v.isFilled = false) :
    answeredKeys library itemKeys v = .ok [] := by
  unfold answeredKeys Json.filled?
  rw [h]
  rfl

/-- The citation keys that members have for items. -/
def keysIn (members : List (String × Json)) (library : Int) (itemKeys : List String) :
    List (String × Json) :=
  itemKeys.filterMap fun key => (answeredKey? members library key).map (key, ·)

theorem keysIn_nil : keysIn [] library itemKeys = [] :=
  List.filterMap_eq_nil_iff.2 fun _ _ => rfl

theorem answeredKeys_obj :
    answeredKeys library itemKeys (.obj members) = .ok (keysIn members library itemKeys) := by
  cases members with
  -- an object without members says nothing, which comes to the same
  | nil => rw [answeredKeys_of_not_filled rfl, keysIn_nil]
  | cons => rfl

/-- From an answer a lookup takes the citation keys of the items that have one in it. -/
theorem Answers.readReply_eq (h : Answers reply members) :
    readReply library itemKeys reply = .ok (keysIn members library itemKeys) := by
  cases h with
  | members sound result =>
    unfold readReply
    rw [readBody_of_sound sound, result]
    show (answeredKeys library itemKeys (.obj members)).mapError Failure.fault = _
    rw [answeredKeys_obj]
    rfl
  | @nothing parts sound silent =>
    have hsilent : ((Json.lookup parts "result").getD .null).isFilled = false := by
      cases hresult : Json.lookup parts "result" with
      | none => rfl
      | some v => exact silent v hresult
    unfold readReply
    rw [readBody_of_sound sound, keysIn_nil]
    show (answeredKeys library itemKeys _).mapError Failure.fault = _
    rw [answeredKeys_of_not_filled hsilent]
    rfl

/-- What says something and is no object has nothing under a name. -/
theorem answeredKeys_of_filled {v : Json} (hfilled : v.isFilled = true)
    (hnot : ∀ members, v ≠ .obj members) :
    ∃ cause, answeredKeys library itemKeys v = .error cause := by
  unfold answeredKeys Json.filled?
  rw [if_pos hfilled]
  cases v with
  | obj members => exact absurd rfl (hnot members)
  | _ => exact ⟨_, rfl⟩

theorem answers_or_error (sound : Json.lookup parts "error" = none) (library : Int)
    (itemKeys : List String) :
    (∃ members, Answers (.ok (.json (.obj parts))) members) ∨
      ∃ cause, answeredKeys library itemKeys ((Json.lookup parts "result").getD .null) =
        .error cause := by
  cases result : Json.lookup parts "result" with
  | none =>
    left
    refine ⟨[], .nothing sound fun v hv => ?_⟩
    rw [result] at hv
    cases hv
  | some v =>
    by_cases hobj : ∃ members, v = .obj members
    · obtain ⟨members, rfl⟩ := hobj
      exact .inl ⟨members, .members sound result⟩
    · cases hfilled : v.isFilled with
      | true => exact .inr (answeredKeys_of_filled hfilled fun members h => hobj ⟨members, h⟩)
      | false =>
        left
        refine ⟨[], .nothing sound fun v' hv => ?_⟩
        rw [result] at hv
        cases hv
        exact hfilled

/-- Where a reply is no answer, and is not that the request was cancelled, a lookup fails. -/
theorem readReply_of_unanswered (hnone : ∀ members, ¬ Answers reply members)
    (hgoing : ∀ note, reply ≠ .error (.cancelled note)) :
    ∃ cause, readReply library itemKeys reply = .error (.fault cause) := by
  match reply with
  | .error (.cancelled note) => exact absurd rfl (hgoing note)
  | .error (.fault cause) => exact ⟨_, rfl⟩
  | .ok (.text _) => exact ⟨_, rfl⟩
  | .ok .broken => exact ⟨_, rfl⟩
  | .ok (.refused _) => exact ⟨_, rfl⟩
  | .ok (.json .null) => exact ⟨_, rfl⟩
  | .ok (.json (.bool _)) => exact ⟨_, rfl⟩
  | .ok (.json (.int _)) => exact ⟨_, rfl⟩
  | .ok (.json (.float _)) => exact ⟨_, rfl⟩
  | .ok (.json (.str _)) => exact ⟨_, rfl⟩
  | .ok (.json (.arr _)) => exact ⟨_, rfl⟩
  | .ok (.json (.obj parts)) =>
    unfold readReply
    cases sound : Json.lookup parts "error" with
    | some error =>
      rw [readBody_of_error sound]
      exact ⟨_, rfl⟩
    | none =>
      rw [readBody_of_sound sound]
      -- an object without an error is an answer, unless its result cannot be read
      obtain ⟨members, hanswers⟩ | ⟨cause, hcause⟩ := answers_or_error sound library itemKeys
      · exact absurd hanswers (hnone members)
      · refine ⟨cause, ?_⟩
        show (answeredKeys library itemKeys _).mapError Failure.fault = _
        rw [hcause]
        rfl

/-! ## 3. Names -/

/-- The names under which an answer can have the citation key of an item.  The first one counts
before the second. -/
def itemNames (library : Int) (itemKey : String) : List String :=
  [qualifiedKey library itemKey, itemKey]

/-- The text of a member, if it has one. -/
def textUnder? (members : List (String × Json)) (name : String) : Option String :=
  (Json.lookup members name).bind Json.text?

/-- The citation key that an answer in texts has for an item: the first of its names that a text
stands under, empty texts apart. -/
def namedKey? (members : List (String × Json)) (library : Int) (itemKey : String) :
    Option String :=
  (itemNames library itemKey).findSome? fun name => filled? (textUnder? members name)

theorem exists_of_lookup {name : String} {v : Json} (h : Json.lookup members name = some v) :
    ∃ m ∈ members, m.2 = v := by
  obtain ⟨m, hm, rfl⟩ := Option.map_eq_some_iff.1 h
  exact ⟨m, List.mem_reverse.1 (List.mem_of_find?_eq_some hm), rfl⟩

theorem filled_of_texts (htexts : ∀ m ∈ members, ∃ text, m.2 = Json.str text) (name : String) :
    (Json.lookup members name).bind Json.filled? =
      (filled? (textUnder? members name)).map Json.str := by
  unfold textUnder?
  cases h : Json.lookup members name with
  | none => rfl
  | some v =>
    obtain ⟨m, hm, rfl⟩ := exists_of_lookup h
    obtain ⟨text, htext⟩ := htexts m hm
    rw [htext]
    show Json.filled? (.str text) = (filled? (some text)).map Json.str
    by_cases hempty : text = ""
    · subst hempty
      rfl
    · simp [Json.filled?, Json.isFilled, filled?, hempty, Option.filter]

theorem answeredKey?_of_texts (htexts : ∀ m ∈ members, ∃ text, m.2 = Json.str text) :
    answeredKey? members library itemKey =
      (namedKey? members library itemKey).map Json.str := by
  unfold answeredKey? namedKey? itemNames
  rw [filled_of_texts htexts, filled_of_texts htexts, List.findSome?_cons, List.findSome?_cons,
    List.findSome?_nil]
  cases filled? (textUnder? members (qualifiedKey library itemKey)) with
  | some text => rfl
  | none =>
    cases filled? (textUnder? members itemKey) with
    | some text => rfl
    | none => rfl

theorem toList_qualifiedKey (library : Int) (itemKey : String) :
    (qualifiedKey library itemKey).toList =
      (toString library).toList ++ ':' :: itemKey.toList := by
  unfold qualifiedKey
  rw [String.toList_append, String.toList_append, List.append_assoc]
  rfl

/-- Items whose keys have no colon have no name in common. -/
theorem itemNames_disjoint (library : Int) (hkey : ':' ∉ itemKey.toList)
    (hother : ':' ∉ other.toList) (hne : itemKey ≠ other) :
    (itemNames library itemKey).Disjoint (itemNames library other) := by
  -- a qualified key has a colon, so it is the plain key of no item
  have hcolon : ∀ key, ':' ∈ (qualifiedKey library key).toList := by
    intro key
    rw [toList_qualifiedKey]
    simp
  have hqualified : qualifiedKey library itemKey ≠ qualifiedKey library other := by
    intro hsame
    have hlists := congrArg String.toList hsame
    rw [toList_qualifiedKey, toList_qualifiedKey] at hlists
    have htails := List.append_cancel_left hlists
    exact hne (String.toList_inj.1 (List.cons.inj htails).2)
  intro name hmem hmem'
  simp only [itemNames, List.mem_cons, List.not_mem_nil, or_false] at hmem hmem'
  rcases hmem with rfl | rfl
  · rcases hmem' with hsame | rfl
    · exact hqualified hsame
    · exact hother (hcolon itemKey)
  · rcases hmem' with rfl | hsame
    · exact hkey (hcolon other)
    · exact hne hsame

end CiteSync.KeyService
