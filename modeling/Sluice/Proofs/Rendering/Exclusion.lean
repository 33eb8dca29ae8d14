import Mathlib.Data.List.Forall2
import Mathlib.Data.List.Pairwise
import Sluice.Proofs.Headers.Wire
import Sluice.Rendering.Plain

/-! The converters of plain values side by side. Each accepts values of its own kinds only, and what it does not accept
it hands back as it is. So at most one accepts a value, and their order does not matter. A list of items is accepted if
each item has a JSON form, and its answer is the array of these forms. -/

set_option autoImplicit false

namespace Sluice

namespace Json

theorem commaJoin_eq_intercalate (pieces : List (List Char)) : commaJoin pieces = [','].intercalate pieces := by
  induction pieces with
  | nil => rfl
  | cons piece rest ih =>
    cases rest with
    | nil => simp [commaJoin]
    | cons next others =>
      rw [List.intercalate_cons_cons, ← ih, commaJoin]
      exact nofun

theorem renderItems_eq_map (items : List Json) : renderItems items = items.map render := by
  induction items with
  | nil => rfl
  | cons item rest ih => rw [renderItems, ih, List.map_cons]

/-- An array is written as its elements, with commas between and in brackets. -/
theorem text_array (elements : List Json) :
    (Json.array elements).text = "[" ++ String.intercalate "," (elements.map text) ++ "]" := by
  have each : (String.toList ∘ text) = render := by
    funext element
    simp [text]
  rw [← String.toList_inj, String.toList_append, String.toList_append, String.toList_intercalate, List.map_map, each,
    text, String.toList_ofList, render, commaJoin_eq_intercalate, renderItems_eq_map]
  rfl

end Json

/-- The answer is 200 with the elements as an array of JSON. -/
structure Reply.Lists (elements : List Json) (reply : Reply Body) : Prop where
  status : reply.status.code = 200
  headers : reply.headers.wire = [("content-type", [Bytes.ofText "application/json"])]
  body : reply.body = [.data (Bytes.ofText ("[" ++ String.intercalate "," (elements.map Json.text) ++ "]"))]

theorem Reply.lists_ofJson (elements : List Json) : (Reply.ofJson .ok (.array elements)).Lists elements where
  status := rfl
  headers := by
    have typed : (typedHeaders json).wire = [("content-type", [Bytes.ofText "application/json"])] := by decide
    exact typed
  body := by
    have some : (Bytes.ofText ("[" ++ String.intercalate "," (elements.map Json.text) ++ "]")).isEmpty = false := by
      simp [Bytes.ofText, Utf8.encode, Utf8.encodeChar]
    rw [Reply.ofJson, Json.text_array, Body.ofText, Body.full, some]
    rfl

namespace Converter

variable {context : Context} {value : Value}

def Accepts (context : Context) (value : Value) (converter : Converter) : Prop :=
  ∃ reply, converter.offer context value = .ok (.converted reply)

def HandsBack (context : Context) (value : Value) (converter : Converter) : Prop :=
  converter.offer context value = .ok (.fallthrough value)

/-- Not both converters accept the value. -/
def Exclusive (context : Context) (value : Value) (first second : Converter) : Prop :=
  ¬ (first.Accepts context value ∧ second.Accepts context value)

instance : Std.Symm (Exclusive context value) := ⟨fun _ _ exclusive both => exclusive both.symm⟩

theorem HandsBack.not_accepts {converter : Converter} (back : converter.HandsBack context value) :
    ¬ converter.Accepts context value := by
  rintro ⟨reply, accepted⟩
  cases accepted.symm.trans back

section
variable {name : String} {accept? : Value → Option (Reply Body)} {reply : Reply Body} {kinds : List Value.Kind}

theorem offer_accepting (accepted : accept? value = some reply) :
    (accepting name accept?).offer context value = .ok (.converted (.ok reply)) := by
  simp [accepting, accepted]

theorem handsBack_accepting (refused : accept? value = none) : (accepting name accept?).HandsBack context value := by
  simp [HandsBack, accepting, refused]

theorem accepts_accepting_iff : (accepting name accept?).Accepts context value ↔ (accept? value).isSome = true := by
  cases accepted : accept? value with
  | none => simpa using (handsBack_accepting accepted).not_accepts
  | some reply => simpa using ⟨_, offer_accepting accepted⟩

theorem accepts_or_handsBack (name : String) (accept? : Value → Option (Reply Body)) (context : Context)
    (value : Value) :
    (accepting name accept?).Accepts context value ∨ (accepting name accept?).HandsBack context value := by
  cases accepted : accept? value with
  | none => exact .inr (handsBack_accepting accepted)
  | some reply => exact .inl ⟨_, offer_accepting accepted⟩

end

/-- The JSON form of an item. -/
inductive Forms : Value → Json → Prop where
  | json (value : Json) : Forms (.json value) value
  | text (s : String) : Forms (.text s) (.string s)
  | literal (s : String) : Forms (.literal s) (.string s)

/-- The test of an item and its conversion go together: an item that passes is never turned into null for want of a
form. -/
theorem forms_iff {item : Value} {form : Json} : Forms item form ↔ isJsonItem item = true ∧ jsonItem item = form := by
  constructor
  · rintro (⟨value⟩ | ⟨s⟩ | ⟨s⟩) <;> exact ⟨rfl, rfl⟩
  · rintro ⟨passes, rfl⟩
    cases item with
    | json value => exact .json value
    | text s => exact .text s
    | literal s => exact .literal s
    | _ => cases passes

theorem forall₂_forms_iff {items : List Value} {forms : List Json} :
    List.Forall₂ Forms items forms ↔ items.all isJsonItem = true ∧ items.map jsonItem = forms := by
  induction items generalizing forms with
  | nil => rw [List.forall₂_nil_left_iff]; simp [eq_comm]
  | cons item items ih =>
    rw [List.forall₂_cons_left_iff]
    simp only [forms_iff, ih, List.all_cons, Bool.and_eq_true, List.map_cons]
    constructor
    · rintro ⟨_, _, ⟨passes, rfl⟩, ⟨pass, rfl⟩, rfl⟩
      exact ⟨⟨passes, pass⟩, rfl⟩
    · rintro ⟨⟨passes, pass⟩, rfl⟩
      exact ⟨_, _, ⟨passes, rfl⟩, ⟨pass, rfl⟩, rfl⟩

/-- The values that have an answer as they are. -/
inductive Plain : Value → Prop where
  | unit : Plain .unit
  | text (s : String) : Plain (.text s)
  | literal (s : String) : Plain (.literal s)
  | bytes (b : Bytes) : Plain (.bytes b)
  | octets (b : Bytes) : Plain (.octets b)
  | json (value : Json) : Plain (.json value)
  | jsonList (values : List Json) : Plain (.jsonList values)
  | reply (reply : Reply Body) : Plain (.reply reply)
  | list {items : List Value} {forms : List Json} : List.Forall₂ Forms items forms → Plain (.list items)

end Converter

namespace Converters

open Converter

variable {context : Context} {value : Value} {converters : Converters} {converter : Converter}

theorem offer_of_handsBack (each : ∀ converter ∈ converters, converter.HandsBack context value) :
    offer context converters value = .ok (.fallthrough value) := by
  induction converters with
  | nil => rfl
  | cons converter rest ih =>
    obtain ⟨back, others⟩ := List.forall_mem_cons.1 each
    rw [offer, back]
    exact ih others

/-- If one converter alone accepts a value and the others hand it back, its place does not matter. -/
theorem offer_of_accepts (each : ∀ other ∈ converters, other.Accepts context value ∨ other.HandsBack context value)
    (alone : ∀ other ∈ converters, other.Accepts context value → other = converter) (member : converter ∈ converters)
    (accepts : converter.Accepts context value) :
    offer context converters value = converter.offer context value := by
  induction converters with
  | nil => cases member
  | cons other rest ih =>
    obtain ⟨first, each⟩ := List.forall_mem_cons.1 each
    obtain ⟨same, alone⟩ := List.forall_mem_cons.1 alone
    rcases first with accepted | back
    · obtain rfl := same accepted
      obtain ⟨reply, accepted⟩ := accepted
      rw [offer, accepted]
    · rw [offer, back]
      rcases List.mem_cons.1 member with rfl | among
      · exact absurd accepts back.not_accepts
      · exact ih each alone among

theorem offer_perm {order : Converters} (perm : order.Perm converters)
    (each : ∀ converter ∈ converters, converter.Accepts context value ∨ converter.HandsBack context value)
    (exclusive : converters.Pairwise (Exclusive context value)) :
    offer context order value = offer context converters value := by
  -- one converter alone accepts the value, or all of them hand it back; neither depends on the order
  by_cases accepted : ∃ converter ∈ converters, converter.Accepts context value
  · obtain ⟨converter, member, accepts⟩ := accepted
    have alone : ∀ other ∈ converters, other.Accepts context value → other = converter := by
      intro other among accepted
      by_contra different
      exact exclusive.forall among member different ⟨accepted, accepts⟩
    rw [offer_of_accepts each alone member accepts]
    exact offer_of_accepts (fun other among => each other (perm.mem_iff.1 among))
      (fun other among => alone other (perm.mem_iff.1 among)) (perm.mem_iff.2 member) accepts
  · have back : ∀ converter ∈ converters, converter.HandsBack context value := fun converter member =>
      (each converter member).resolve_left fun accepts => accepted ⟨converter, member, accepts⟩
    rw [offer_of_handsBack back, offer_of_handsBack fun converter member => back converter (perm.mem_iff.1 member)]

/-- The converters with the kinds of values that each may accept. -/
def domains : List (Converter × List Value.Kind) :=
  [(.passthrough, [.reply]), (.unit, [.unit]), (.text, [.text, .literal]), (.bytes, [.bytes, .octets]),
    (.json, [.json, .jsonList, .list])]

theorem kind_of_accepts : ∀ entry ∈ domains, entry.1.Accepts context value → value.kind ∈ entry.2 := by
  simp only [domains, List.forall_mem_cons, passthrough, Converter.unit, text, bytes, json, accepts_accepting_iff]
  cases value <;> simp [Value.kind, replyOfReply?, replyOfUnit?, replyOfText?, replyOfBytes?, replyOfJson?]

theorem builtin_pairwise (context : Context) (value : Value) : builtin.Pairwise (Exclusive context value) := by
  -- a value is of one kind, and no kind is in two domains
  have disjoint : domains.Pairwise fun first second => ∀ kind ∈ first.2, kind ∉ second.2 := by decide
  change (domains.map Prod.fst).Pairwise _
  rw [List.pairwise_map]
  apply disjoint.imp_of_mem
  rintro first second inFirst inSecond apart ⟨accepts, accepted⟩
  exact apart _ (kind_of_accepts first inFirst accepts) (kind_of_accepts second inSecond accepted)

theorem builtin_each (context : Context) (value : Value) :
    ∀ converter ∈ builtin, converter.Accepts context value ∨ converter.HandsBack context value := by
  simp only [builtin, List.forall_mem_cons]
  exact ⟨accepts_or_handsBack .., accepts_or_handsBack .., accepts_or_handsBack .., accepts_or_handsBack ..,
    accepts_or_handsBack .., nofun⟩

/-- A list is accepted with the array of the forms of its items, if each of them has one. -/
theorem offer_json_list {items : List Value} {forms : List Json} (formed : List.Forall₂ Forms items forms) :
    json.offer context (.list items) = .ok (.converted (.ok (Reply.ofJson .ok (.array forms)))) := by
  obtain ⟨pass, rfl⟩ := forall₂_forms_iff.1 formed
  exact offer_accepting (if_pos pass)

theorem accepts_json_list_iff {items : List Value} :
    json.Accepts context (.list items) ↔ ∃ forms, List.Forall₂ Forms items forms := by
  constructor
  · intro accepts
    have accepted := accepts_accepting_iff.1 accepts
    rw [replyOfJson?] at accepted
    split at accepted
    · next pass => exact ⟨_, forall₂_forms_iff.2 ⟨pass, rfl⟩⟩
    · cases accepted
  · rintro ⟨forms, formed⟩
    exact ⟨_, offer_json_list formed⟩

theorem domain_of_accepts (member : converter ∈ builtin) (accepts : converter.Accepts context value) :
    ∃ kinds, (converter, kinds) ∈ domains ∧ value.kind ∈ kinds := by
  obtain ⟨entry, listed, rfl⟩ := List.mem_map.1 (show converter ∈ domains.map Prod.fst from member)
  exact ⟨entry.2, listed, kind_of_accepts entry listed accepts⟩

theorem eq_json_of_accepts_list {items : List Value} (member : converter ∈ builtin)
    (accepts : converter.Accepts context (.list items)) : converter = json := by
  obtain ⟨kinds, listed, kind⟩ := domain_of_accepts member accepts
  simp only [domains, List.mem_cons, Prod.mk.injEq, List.not_mem_nil, or_false] at listed
  rcases listed with ⟨-, rfl⟩ | ⟨-, rfl⟩ | ⟨-, rfl⟩ | ⟨-, rfl⟩ | ⟨rfl, -⟩
  all_goals first | rfl | simp [Value.kind] at kind

theorem plain_iff : (∃ converter ∈ builtin, converter.Accepts context value) ↔ Plain value := by
  constructor
  · rintro ⟨converter, member, accepts⟩
    match value with
    | .unit => exact .unit
    | .text s => exact .text s
    | .literal s => exact .literal s
    | .bytes b => exact .bytes b
    | .octets b => exact .octets b
    | .json value => exact .json value
    | .jsonList values => exact .jsonList values
    | .reply reply => exact .reply reply
    | .list items =>
      obtain rfl := eq_json_of_accepts_list member accepts
      obtain ⟨forms, formed⟩ := accepts_json_list_iff.1 accepts
      exact .list formed
    | .observable _ | .natural _ | .real | .boxed _ | .foreign =>
      obtain ⟨kinds, listed, kind⟩ := domain_of_accepts member accepts
      have known : ∀ entry ∈ domains, ∀ kind ∈ entry.2, kind ∉
          [Value.Kind.observable, .natural, .real, .boxed, .foreign] := by decide
      exact absurd (by simp [Value.kind]) (known _ listed _ kind)
  · intro plain
    cases plain with
    | unit => exact ⟨Converter.unit, by simp [builtin], _, rfl⟩
    | text | literal => exact ⟨text, by simp [builtin], _, rfl⟩
    | bytes | octets => exact ⟨bytes, by simp [builtin], _, rfl⟩
    | json | jsonList => exact ⟨json, by simp [builtin], _, rfl⟩
    | reply => exact ⟨passthrough, by simp [builtin], _, rfl⟩
    | list formed => exact ⟨json, by simp [builtin], _, offer_json_list formed⟩

theorem promise_perm {order : Converters} (perm : order.Perm converters)
    (same : offer context order value = offer context converters value) :
    promise context order value = promise context converters value := by
  rw [promise, promise, same, unhandled, unhandled, perm.length_eq]

/-- At most one converter accepts a value, so they can stand in any order. Those that do not accept a value hand it back
as it is, and plain values are the values that one of them accepts. A list that is accepted is answered with the array of
the forms of its items. -/
theorem builtin_exclusive (context : Context) (value : Value) :
    builtin.Pairwise (Exclusive context value) ∧
    (∀ order : Converters, order.Perm builtin →
      offer context order value = offer context builtin value ∧
      promise context order value = promise context builtin value) ∧
    (∀ converter ∈ builtin, ¬ converter.Accepts context value → converter.HandsBack context value) ∧
    ((∃ converter ∈ builtin, converter.Accepts context value) ↔ Plain value) ∧
    ∀ items, value = .list items → ∀ converter ∈ builtin, converter.Accepts context value →
      ∃ forms reply, List.Forall₂ Forms items forms ∧
        converter.offer context value = .ok (.converted (.ok reply)) ∧ reply.Lists forms := by
  have each := builtin_each context value
  have exclusive := builtin_pairwise context value
  refine ⟨exclusive, fun order perm => ?_, fun converter member => (each converter member).resolve_left, plain_iff, ?_⟩
  · have same := offer_perm perm each exclusive
    exact ⟨same, promise_perm perm same⟩
  · rintro items rfl converter member accepts
    obtain rfl := eq_json_of_accepts_list member accepts
    obtain ⟨forms, formed⟩ := accepts_json_list_iff.1 accepts
    exact ⟨forms, _, formed, offer_json_list formed, Reply.lists_ofJson forms⟩

/-- The number has no form, so nobody accepts the list and it comes back with both items. Without it the list is
written out. -/
theorem mixed_list_handed_back :
    offer default builtin.reverse (.list [.text "a", .natural 1]) =
        .ok (.fallthrough (.list [.text "a", .natural 1])) ∧
      ∃ reply, offer default builtin.reverse (.list [.literal "b", .json .null]) = .ok (.converted (.ok reply)) ∧
        reply.status.code = 200 ∧ reply.headers.wire = [("content-type", [Bytes.ofText "application/json"])] ∧
        reply.body = [.data (Bytes.ofText "[\"b\",null]")] := by
  constructor
  · exact ((builtin_exclusive default (.list [.text "a", .natural 1])).2.1 _ (List.reverse_perm _)).1
  · obtain ⟨-, permuted, -, -, listed⟩ := builtin_exclusive default (.list [.literal "b", .json .null])
    have accepts : json.Accepts default (.list [.literal "b", .json .null]) := ⟨_, rfl⟩
    obtain ⟨forms, reply, formed, offered, lists⟩ := listed _ rfl json (by simp [builtin]) accepts
    obtain rfl : [Json.string "b", .null] = forms := (forall₂_forms_iff.1 formed).2
    have first : offer default builtin (.list [.literal "b", .json .null]) = .ok (.converted (.ok reply)) := offered
    exact ⟨reply, (permuted _ (List.reverse_perm _)).1.trans first, lists.status, lists.headers, lists.body⟩

end Converters

end Sluice
