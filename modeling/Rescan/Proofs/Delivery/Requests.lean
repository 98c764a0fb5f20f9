import Rescan.Delivery.Request
import Rescan.Proofs.Json.Texts
import Rescan.Proofs.Resource.Keys

/-! # Requests are read as they were written

The written form of a request tells the request, and the request of a key tells the key and the
attribution, whatever characters stand in them.
-/

namespace Rescan.Delivery.Request

open Rescan.Json (memberChars furtherChars memberChars_append skipSpace_cons)
open Rescan.Resource (Key)

/-! ## Reading the members -/

section Members

variable {first : Bool} {found : List (String × String)} {member : String × String}

theorem objectFields?_end (first : Bool) (found : List (String × String)) (rest : List Char) :
    objectFields? first found ('\x7d' :: rest) = some (found, rest) := by
  rw [objectFields?]
  split
  next heq =>
    rw [skipSpace_cons rfl] at heq
    cases heq
  next heq =>
    rw [skipSpace_cons rfl] at heq
    cases heq
    rfl

/-- A member is noted with its text. All but the first one stand after a comma. -/
theorem objectFields?_member (first : Bool) (hknown : member.1 ∈ fieldNames)
    (hnew : found.lookup member.1 = none) (rest : List Char) :
    objectFields? first found ((if first then [] else [',']) ++ (memberChars member ++ rest)) =
      objectFields? false (member :: found) rest := by
  obtain ⟨_, hname⟩ := Json.textBody_escaped .text member.1.toList
    (':' :: (Json.quoteChars member.2.toList ++ rest))
  obtain ⟨_, hvalue⟩ := Json.value_quoteChars .text member.2.toList rest
  have hcontains : fieldNames.contains member.1 = true := List.contains_iff_mem.mpr hknown
  rw [memberChars_append]
  cases first
  all_goals
    simp only [if_true, if_false, Bool.false_eq_true, List.nil_append, List.cons_append]
    rw [objectFields?]
    split
    next heq =>
      rw [skipSpace_cons rfl] at heq
      cases heq
    next heq =>
      rw [skipSpace_cons rfl] at heq
      cases heq
      rw [if_neg (by decide)]
      simp only [if_true, if_false, Bool.false_eq_true, skipSpace_cons (c := '"') rfl, hname]
      split
      next heq =>
        rw [skipSpace_cons rfl] at heq
        cases heq
      next heq =>
        rw [skipSpace_cons rfl] at heq
        cases heq
        simp only [String.ofList_toList, hcontains, hnew, hvalue, if_true]
        rw [if_neg (by simp), if_neg (by simp)]

/-- Members of different known names are noted one after the other. -/
theorem objectFields?_furtherChars {members : List (String × String)}
    (hknown : ∀ member ∈ members, member.1 ∈ fieldNames)
    (hnew : ((found ++ members).map Prod.fst).Nodup) (rest : List Char) :
    objectFields? false found (furtherChars members ++ '\x7d' :: rest) =
      some (members.reverse ++ found, rest) := by
  induction members generalizing found with
  | nil => exact objectFields?_end false found rest
  | cons member members ih =>
      obtain ⟨hmember, hknown⟩ := List.forall_mem_cons.mp hknown
      have hfresh : found.lookup member.1 = none := by
        rw [List.lookup_eq_none_iff]
        intro other hother
        rw [List.map_append, List.map_cons] at hnew
        have hne := (List.nodup_append.mp hnew).2.2 _ (List.mem_map_of_mem hother) _
          List.mem_cons_self
        simpa using hne.symm
      have hrest : ((member :: found ++ members).map Prod.fst).Nodup := by
        refine (List.Perm.nodup_iff (List.Perm.map _ ?_)).mp hnew
        exact List.perm_middle
      have hread := (objectFields?_member false hmember hfresh _).trans (ih hknown hrest)
      rw [furtherChars, List.flatMap_cons, List.append_assoc, List.cons_append]
      refine hread.trans ?_
      rw [List.reverse_cons, List.append_assoc, List.singleton_append]

/-- An object of texts with different known names is read member by member. -/
theorem objectFields?_members {members : List (String × String)}
    (hknown : ∀ other ∈ member :: members, other.1 ∈ fieldNames)
    (hnew : ((member :: members).map Prod.fst).Nodup) :
    objectFields? true [] (memberChars member ++ (furtherChars members ++ ['\x7d'])) =
      some ((member :: members).reverse, []) := by
  obtain ⟨hmember, hknown⟩ := List.forall_mem_cons.mp hknown
  refine (objectFields?_member true hmember List.lookup_nil _).trans ?_
  rw [objectFields?_furtherChars hknown hnew, List.reverse_cons]

end Members

/-! ## Requests -/

/-- The members of the written form of a request. -/
def members (request : Request) : List (String × String) := fieldNames.zip request.fields

theorem map_fst_members (request : Request) : request.members.map Prod.fst = fieldNames := rfl

/-- The members tell the request, in whatever order they are found. -/
theorem mapM_lookup_members (request : Request) :
    (fieldNames.mapM fun name => request.members.reverse.lookup name) = some request.fields := rfl

/-- Whatever texts a request has, it is read as it was written. -/
theorem ofJson?_toJson (request : Request) : ofJson? request.toJson = some request := by
  obtain ⟨first, others, hmembers⟩ : ∃ first others, request.members = first :: others :=
    ⟨_, _, rfl⟩
  have hnames : (first :: others).map Prod.fst = fieldNames := hmembers ▸ request.map_fst_members
  have hknown : ∀ member ∈ first :: others, member.1 ∈ fieldNames := fun member hmember =>
    hnames ▸ List.mem_map_of_mem hmember
  have hfields := objectFields?_members hknown (by rw [hnames]; decide)
  have htext : request.toJson.toList =
      '\x7b' :: (memberChars first ++ (furtherChars others ++ ['\x7d'])) := by
    rw [toJson, ← members, hmembers, Json.toList_writeTexts_cons]
  rw [ofJson?, htext, skipSpace_cons rfl]
  simp only [hfields, Option.bind_eq_bind, Option.bind_some, ← hmembers, mapM_lookup_members]
  rfl

theorem eq_of_ofKey_eq {key other : Key} {attribution otherAttribution : Attribution}
    (hsame : ofKey other otherAttribution = ofKey key attribution) :
    other = key ∧ otherAttribution = attribution := by
  obtain ⟨-, hkind, hns, hname, htag⟩ := mk.inj hsame
  cases key
  cases other
  cases attribution
  cases otherAttribution
  exact ⟨congr (congr (congrArg Key.mk hkind) hns) hname, congrArg Attribution.mk htag⟩

/-- Take any key and any attribution. The written form of the request for them is an object of the
text of the key, its parts and the tag, and it is read as this request again. If the text of the key
is read as a key, then as this one. No other key or attribution has a request with the same written
form. -/
theorem written_request_tells_key (key : Key) (attribution : Attribution) :
    let request := ofKey key attribution
    (request.kind = key.kind ∧ request.ns = key.ns ∧ request.name = key.name ∧
      request.managedBy = attribution.tag) ∧
    Json.read request.toJson = .ok (.object
      [("resourceKey", .string key.render), ("kind", .string key.kind),
        ("namespace", .string key.ns), ("name", .string key.name),
        ("managedBy", .string attribution.tag)]) ∧
    ofJson? request.toJson = some request ∧
    (∀ other, Key.parse request.resourceKey = .ok other → other = key) ∧
    ∀ otherKey otherAttribution, (ofKey otherKey otherAttribution).toJson = request.toJson →
      otherKey = key ∧ otherAttribution = attribution := by
  intro request
  refine ⟨⟨rfl, rfl, rfl, rfl⟩, Json.read_writeTexts request.members, request.ofJson?_toJson,
    fun other => Key.eq_of_parse_render, ?_⟩
  intro otherKey otherAttribution hsame
  have hread := ofJson?_toJson (ofKey otherKey otherAttribution)
  rw [hsame, ofJson?_toJson, Option.some_inj] at hread
  exact eq_of_ofKey_eq hread.symm

/-- An object whose name is made of marks and control characters. -/
def crooked : Key := ⟨"pod", "", "\"\\/\x01\n\x7f😀"⟩

/-- Its request is written with escapes, and only its own request is written like that. -/
theorem written_request_tells_key_escaped :
    let written := "\x7b\"resourceKey\":\"pod::\\\"\\\\/\\u0001\\n\x7f😀\",\"kind\":\"pod\"," ++
      "\"namespace\":\"\",\"name\":\"\\\"\\\\/\\u0001\\n\x7f😀\",\"managedBy\":\"op-\\t\"\x7d"
    (ofKey crooked ⟨"op-\t"⟩).toJson = written ∧
      ofJson? written = some (ofKey crooked ⟨"op-\t"⟩) ∧
      (∀ key attribution, (ofKey key attribution).toJson = written →
        key = crooked ∧ attribution = ⟨"op-\t"⟩) ∧
      Key.parse crooked.render = .ok crooked ∧
      ∀ other, Key.parse crooked.render = .ok other → other = crooked := by
  intro written
  have hwritten : (ofKey crooked ⟨"op-\t"⟩).toJson = written := by decide +kernel
  obtain ⟨-, -, hread, hparse, hother⟩ := written_request_tells_key crooked ⟨"op-\t"⟩
  rw [hwritten] at hread hother
  exact ⟨hwritten, hread, hother, by decide +kernel, hparse⟩

end Rescan.Delivery.Request
