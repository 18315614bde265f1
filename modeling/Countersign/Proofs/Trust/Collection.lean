import Mathlib.Data.List.Nodup
import Countersign.Proofs.Trust.EntryTable
import Countersign.Trust.Source

/-!
# Collected sources

A collection answers like the first of its members that has an answer.  The logs of a member may be
visited in any order when they are merged, since a member has at most one log for an identifier.
Members that are added later change no answer, and a collection within a collection may be replaced
by its members.
-/

namespace Countersign

namespace LogMap

/-- A map with at most one entry for an identifier. -/
def IsMap (map : LogMap) : Prop :=
  (map.map Prod.fst).Nodup

/-- Adds an entry unless its identifier has one. -/
def keep (map : LogMap) (entry : String × TransparencyLog) : LogMap :=
  if (map.get? entry.1).isSome then map else map ++ [entry]

/-- Merging of maps into one that is built up: map by map, the entries of each visited in any
order. -/
inductive Merges : LogMap → List LogMap → LogMap → Prop
  | nil (merged : LogMap) : Merges merged [] merged
  | cons {merged map order result : LogMap} {maps : List LogMap} (visited : order.Perm map)
    (onward : Merges (order.foldl keep merged) maps result) : Merges merged (map :: maps) result

theorem get?_nil (id : String) : get? [] id = none := rfl

theorem get?_cons (entry : String × TransparencyLog) (rest : LogMap) (id : String) :
    get? (entry :: rest) id = if entry.1 = id then some entry.2 else get? rest id := by
  obtain ⟨own, log⟩ := entry
  rw [get?, List.lookup_cons]
  by_cases same : own = id
  · simp [same]
  · rw [beq_eq_false_iff_ne.mpr (Ne.symm same), if_neg same]
    rfl

theorem get?_append (map later : LogMap) (id : String) :
    get? (map ++ later) id = (map.get? id).or (later.get? id) :=
  List.lookup_append

theorem get?_eq_none_iff {map : LogMap} {id : String} :
    map.get? id = none ↔ id ∉ map.map Prod.fst := by
  induction map with
  | nil => simp [get?_nil]
  | cons first rest ih =>
    rw [get?_cons, List.map_cons, List.mem_cons, not_or, ← ih]
    by_cases same : first.1 = id
    · simp [same]
    · simp [same, Ne.symm same]

theorem IsMap.get?_eq_some_iff {map : LogMap} (distinct : map.IsMap) {id : String}
    {log : TransparencyLog} : map.get? id = some log ↔ (id, log) ∈ map := by
  induction map with
  | nil => simp [get?_nil]
  | cons first rest ih =>
    obtain ⟨first_absent, rest_distinct⟩ := List.nodup_cons.mp distinct
    obtain ⟨own, own_log⟩ := first
    rw [get?_cons, List.mem_cons]
    by_cases same : own = id
    · subst same
      have nowhere : (own, log) ∉ rest := fun listed =>
        first_absent (List.mem_map.mpr ⟨_, listed, rfl⟩)
      simp [nowhere, eq_comm]
    · simp [same, Ne.symm same, ih rest_distinct]

theorem IsMap.perm {map order : LogMap} (distinct : map.IsMap) (perm : order.Perm map) :
    order.IsMap :=
  (perm.map Prod.fst).nodup_iff.mpr distinct

/-- The order in which a map is visited does not show in what it holds. -/
theorem IsMap.get?_perm {map order : LogMap} (distinct : map.IsMap) (perm : order.Perm map)
    (id : String) : order.get? id = map.get? id := by
  apply Option.ext
  intro log
  rw [(distinct.perm perm).get?_eq_some_iff, distinct.get?_eq_some_iff]
  exact perm.mem_iff

theorem get?_keep (map : LogMap) (entry : String × TransparencyLog) (id : String) :
    (map.keep entry).get? id =
      (map.get? id).or (if entry.1 = id then some entry.2 else none) := by
  rw [keep]
  split
  · rename_i present
    by_cases same : entry.1 = id
    · obtain ⟨log, found⟩ := Option.isSome_iff_exists.mp present
      rw [← same, found, Option.some_or]
    · rw [if_neg same, Option.or_none]
  · rw [get?_append, get?_cons, get?_nil]

theorem get?_foldl_keep (order map : LogMap) (id : String) :
    (order.foldl keep map).get? id = (map.get? id).or (order.get? id) := by
  induction order generalizing map with
  | nil => rw [List.foldl_nil, get?_nil, Option.or_none]
  | cons first rest ih =>
    rw [List.foldl_cons, ih, get?_keep, Option.or_assoc, get?_cons]
    by_cases same : first.1 = id <;> simp [same]

theorem IsMap.keep {map : LogMap} (distinct : map.IsMap) (entry : String × TransparencyLog) :
    (map.keep entry).IsMap := by
  rw [LogMap.keep]
  split
  · exact distinct
  · rename_i absent
    rw [Option.not_isSome_iff_eq_none, get?_eq_none_iff] at absent
    rw [IsMap, List.map_append, List.map_singleton]
    refine List.nodup_append.mpr ⟨distinct, List.nodup_singleton _, fun id listed other here => ?_⟩
    rw [List.mem_singleton.mp here]
    rintro rfl
    exact absent listed

theorem IsMap.foldl_keep {map : LogMap} (distinct : map.IsMap) (order : LogMap) :
    (order.foldl LogMap.keep map).IsMap := by
  induction order generalizing map with
  | nil => exact distinct
  | cons first rest ih => exact ih (distinct.keep first)

/-- Merging finds what was there, and otherwise what the first map with the identifier holds. -/
theorem Merges.get?_eq {merged result : LogMap} {maps : List LogMap}
    (merges : Merges merged maps result) (distinct : ∀ map ∈ maps, map.IsMap) (id : String) :
    result.get? id = (merged.get? id).or (maps.findSome? (·.get? id)) := by
  induction merges with
  | nil merged => rw [List.findSome?_nil, Option.or_none]
  | @cons merged map order result maps visited _ ih =>
    rw [List.forall_mem_cons] at distinct
    rw [ih distinct.2, get?_foldl_keep, distinct.1.get?_perm visited, List.findSome?_cons,
      Option.or_assoc]
    cases map.get? id <;> rfl

/-- Merging gives a map. -/
theorem Merges.isMap {merged result : LogMap} {maps : List LogMap}
    (merges : Merges merged maps result) (distinct : merged.IsMap) : result.IsMap := by
  induction merges with
  | nil merged => exact distinct
  | @cons merged map order result maps _ _ ih =>
    exact ih (distinct.foldl_keep order)

/-- The entries of a map may be added one by one. -/
theorem merge_eq_foldl_keep (map : LogMap) {later : LogMap} (distinct : later.IsMap) :
    map.merge later = later.foldl keep map := by
  induction later generalizing map with
  | nil => rw [merge, List.filter_nil, List.append_nil, List.foldl_nil]
  | cons first rest ih =>
    obtain ⟨first_absent, rest_distinct⟩ := List.nodup_cons.mp distinct
    rw [List.foldl_cons, ← ih _ rest_distinct, merge, merge, List.filter_cons]
    -- The first entry is that of none of the others, so it decides about none of them.
    have undecided : ∀ entry ∈ rest, (map.keep first).get? entry.1 = map.get? entry.1 := by
      intro entry listed
      have differs : first.1 ≠ entry.1 := fun same =>
        first_absent (same ▸ List.mem_map_of_mem listed)
      rw [get?_keep, if_neg differs, Option.or_none]
    have rest_eq : rest.filter (fun entry => ((map.keep first).get? entry.1).isNone) =
        rest.filter fun entry => (map.get? entry.1).isNone :=
      List.filter_congr fun entry listed => by rw [undecided entry listed]
    rw [rest_eq, keep]
    cases map.get? first.1 <;> simp

end LogMap

namespace TrustSource

variable {Key : Type} {members : List (TrustSource Key)} {id : String} {last : TrustError}

theorem firstVerifier_append (front back : List (TrustSource Key)) :
    firstVerifier id last (front ++ back) =
      match firstVerifier id last front with
      | .ok key => .ok key
      | .error error => firstVerifier id error back := by
  induction front generalizing last with
  | nil => rfl
  | cons member rest ih =>
    rw [List.cons_append, firstVerifier, firstVerifier]
    split
    · rfl
    · exact ih

/-- The first member that has a verifier decides. -/
theorem firstVerifier_eq_ok_iff {key : Key} :
    firstVerifier id last members = .ok key ↔
      ∃ front member back, members = front ++ member :: back ∧ member.verifier id = .ok key ∧
        ∀ earlier ∈ front, ∃ error, earlier.verifier id = .error error := by
  constructor
  · intro found
    induction members generalizing last with
    | nil => cases found
    | cons member rest ih =>
      rw [firstVerifier] at found
      split at found
      · rename_i own resolved
        cases found
        exact ⟨[], member, rest, rfl, resolved, nofun⟩
      · rename_i error refused
        obtain ⟨front, decisive, back, rfl, resolved, earlier⟩ := ih found
        refine ⟨member :: front, decisive, back, rfl, resolved, ?_⟩
        rw [List.forall_mem_cons]
        exact ⟨⟨error, refused⟩, earlier⟩
  · rintro ⟨front, member, back, rfl, resolved, earlier⟩
    induction front generalizing last with
    | nil => rw [List.nil_append, firstVerifier, resolved]
    | cons first front ih =>
      rw [List.forall_mem_cons] at earlier
      obtain ⟨⟨error, refused⟩, earlier⟩ := earlier
      rw [List.cons_append, firstVerifier, refused]
      exact ih earlier

/-- If no member has a verifier, the last member's fault remains. -/
theorem firstVerifier_of_refused
    (refused : ∀ member ∈ members, ∀ key, member.verifier id ≠ .ok key) :
    firstVerifier id last members =
      match members.getLast? with
      | some member => member.verifier id
      | none => .error last := by
  induction members generalizing last with
  | nil => rfl
  | cons member rest ih =>
    rw [List.forall_mem_cons] at refused
    cases own : member.verifier id with
    | ok key => exact absurd own (refused.1 key)
    | error error =>
      rw [firstVerifier, own]
      dsimp only
      rw [ih refused.2, List.getLast?_cons]
      cases rest.getLast? <;> simp [own]

/-- Where there is a member, no earlier fault remains. -/
theorem firstVerifier_eq_of_ne_nil (nonempty : members ≠ []) (other : TrustError) :
    firstVerifier id last members = firstVerifier id other members := by
  cases members with
  | nil => exact absurd rfl nonempty
  | cons member rest => rfl

/-- A source whose logs are maps. -/
structure HasMaps (source : TrustSource Key) : Prop where
  logs : source.logs.IsMap
  ctLogs : source.ctLogs.IsMap

/-- Trust anchors keep their logs apart by identifier. -/
theorem hasMaps_ofAnchors (anchors : TrustAnchors) : (ofAnchors anchors).HasMaps := by
  have isMap_ofLogs (table : EntryTable TransparencyLog.id) :
      (LogMap.ofLogs table.entries).IsMap := by
    rw [LogMap.IsMap, LogMap.ofLogs, List.map_map]
    exact table.ids_nodup
  exact ⟨isMap_ofLogs anchors.logTable, isMap_ofLogs anchors.ctLogTable⟩

theorem hasMaps_ofLookup (verifier : String → Except TrustError Key) :
    (ofLookup verifier).HasMaps :=
  ⟨.nil, .nil⟩

/-- A source that collects members: their maps are merged in any order of visiting. -/
structure IsCollection (whole : TrustSource Key) (members : List (TrustSource Key)) : Prop where
  timestampingAuthorities :
    whole.timestampingAuthorities = members.flatMap (·.timestampingAuthorities)
  certificateAuthorities :
    whole.certificateAuthorities = members.flatMap (·.certificateAuthorities)
  logs : LogMap.Merges [] (members.map (·.logs)) whole.logs
  ctLogs : LogMap.Merges [] (members.map (·.ctLogs)) whole.ctLogs
  verifier (id : String) : whole.verifier id = firstVerifier id (.keyNotFound id) members

theorem merges_foldl (logs : TrustSource Key → LogMap)
    (distinct : ∀ member ∈ members, (logs member).IsMap) (merged : LogMap) :
    LogMap.Merges merged (members.map logs)
      (members.foldl (fun map source => map.merge (logs source)) merged) := by
  induction members generalizing merged with
  | nil => exact .nil merged
  | cons member rest ih =>
    rw [List.forall_mem_cons] at distinct
    rw [List.map_cons, List.foldl_cons, LogMap.merge_eq_foldl_keep merged distinct.1]
    exact .cons (.refl _) (ih distinct.2 _)

/-- Collecting visits every map in the order in which it is listed. -/
theorem isCollection_collect (maps : ∀ member ∈ members, member.HasMaps) :
    (collect members).IsCollection members where
  timestampingAuthorities := rfl
  certificateAuthorities := rfl
  logs := merges_foldl (·.logs) (fun member listed => (maps member listed).logs) []
  ctLogs := merges_foldl (·.ctLogs) (fun member listed => (maps member listed).ctLogs) []
  verifier _ := rfl

/-- A source that answers like the first of its members that has an answer. -/
structure AnswersFirst (whole : TrustSource Key) (members : List (TrustSource Key)) : Prop where
  resolves_iff (id : String) (key : Key) :
    whole.verifier id = .ok key ↔
      ∃ front member back, members = front ++ member :: back ∧ member.verifier id = .ok key ∧
        ∀ earlier ∈ front, ∃ error, earlier.verifier id = .error error
  of_refused (id : String) (refused : ∀ member ∈ members, ∀ key, member.verifier id ≠ .ok key) :
    whole.verifier id =
      match members.getLast? with
      | some member => member.verifier id
      | none => .error (.keyNotFound id)
  log (id : String) : whole.logs.get? id = members.findSome? (·.logs.get? id)
  ctLog (id : String) : whole.ctLogs.get? id = members.findSome? (·.ctLogs.get? id)
  hasMaps : whole.HasMaps
  timestampingAuthorities :
    whole.timestampingAuthorities = members.flatMap (·.timestampingAuthorities)
  certificateAuthorities :
    whole.certificateAuthorities = members.flatMap (·.certificateAuthorities)

theorem IsCollection.answersFirst {whole : TrustSource Key}
    (collection : whole.IsCollection members) (maps : ∀ member ∈ members, member.HasMaps) :
    whole.AnswersFirst members where
  resolves_iff id key := by
    rw [collection.verifier]
    exact firstVerifier_eq_ok_iff
  of_refused id refused := by
    rw [collection.verifier]
    exact firstVerifier_of_refused refused
  log id := by
    rw [collection.logs.get?_eq (List.forall_mem_map.mpr fun member listed =>
      (maps member listed).logs), LogMap.get?_nil, Option.none_or, List.findSome?_map]
    rfl
  ctLog id := by
    rw [collection.ctLogs.get?_eq (List.forall_mem_map.mpr fun member listed =>
      (maps member listed).ctLogs), LogMap.get?_nil, Option.none_or, List.findSome?_map]
    rfl
  hasMaps := ⟨collection.logs.isMap .nil, collection.ctLogs.isMap .nil⟩
  timestampingAuthorities := collection.timestampingAuthorities
  certificateAuthorities := collection.certificateAuthorities

/-- A source that keeps every answer of another one. -/
structure Keeps (more less : TrustSource Key) : Prop where
  verifier (id : String) (key : Key) (resolved : less.verifier id = .ok key) :
    more.verifier id = .ok key
  log (id : String) (log : TransparencyLog) (found : less.logs.get? id = some log) :
    more.logs.get? id = some log
  ctLog (id : String) (log : TransparencyLog) (found : less.ctLogs.get? id = some log) :
    more.ctLogs.get? id = some log
  timestampingAuthorities : less.timestampingAuthorities <+: more.timestampingAuthorities
  certificateAuthorities : less.certificateAuthorities <+: more.certificateAuthorities

/-- A collection keeps the answers of its first members. -/
theorem IsCollection.keeps {less more : TrustSource Key} {later : List (TrustSource Key)}
    (collection : less.IsCollection members) (pushed : more.IsCollection (members ++ later))
    (maps : ∀ member ∈ members ++ later, member.HasMaps) : more.Keeps less := by
  have members_maps := fun member listed => maps member (List.mem_append_left later listed)
  have less_answers := collection.answersFirst members_maps
  have more_answers := pushed.answersFirst maps
  refine ⟨fun id key resolved => ?_, fun id log found => ?_, fun id log found => ?_, ?_, ?_⟩
  · rw [collection.verifier] at resolved
    rw [pushed.verifier, firstVerifier_append, resolved]
  · rw [less_answers.log] at found
    rw [more_answers.log, List.findSome?_append, found, Option.some_or]
  · rw [less_answers.ctLog] at found
    rw [more_answers.ctLog, List.findSome?_append, found, Option.some_or]
  · rw [collection.timestampingAuthorities, pushed.timestampingAuthorities, List.flatMap_append]
    exact List.prefix_append _ _
  · rw [collection.certificateAuthorities, pushed.certificateAuthorities, List.flatMap_append]
    exact List.prefix_append _ _

/-- Sources with the same verifiers, the same logs and the same lists. -/
structure Matches (first second : TrustSource Key) : Prop where
  resolves_iff (id : String) (key : Key) :
    first.verifier id = .ok key ↔ second.verifier id = .ok key
  log (id : String) : first.logs.get? id = second.logs.get? id
  ctLog (id : String) : first.ctLogs.get? id = second.ctLogs.get? id
  timestampingAuthorities : first.timestampingAuthorities = second.timestampingAuthorities
  certificateAuthorities : first.certificateAuthorities = second.certificateAuthorities

section Nested

variable {front inner back : List (TrustSource Key)} {nested outer whole : TrustSource Key}

/-- A nested collection resolves as its members do in its place; only where it is empty and last, a
fault of its own remains. -/
theorem firstVerifier_nested (collection : nested.IsCollection inner)
    (nonempty : inner ≠ [] ∨ back ≠ []) :
    firstVerifier id last (nested :: back) = firstVerifier id last (inner ++ back) := by
  rw [firstVerifier, collection.verifier, firstVerifier_append]
  by_cases inner_nil : inner = []
  · subst inner_nil
    exact firstVerifier_eq_of_ne_nil (nonempty.resolve_left fun absurd => absurd rfl) last
  · have entered : firstVerifier id (.keyNotFound id) inner = firstVerifier id last inner :=
      firstVerifier_eq_of_ne_nil inner_nil last
    cases outcome : firstVerifier id last inner <;> simp only [entered, outcome]

/-- A nested collection may be replaced by its members in its place. -/
theorem IsCollection.splice (nested_collection : nested.IsCollection inner)
    (outer_collection : outer.IsCollection (front ++ nested :: back))
    (collection : whole.IsCollection (front ++ inner ++ back))
    (maps : ∀ member ∈ front ++ inner ++ back, member.HasMaps) :
    outer.Matches whole ∧
      (inner ≠ [] ∨ back ≠ [] → ∀ id, outer.verifier id = whole.verifier id) := by
  have verifier_eq (nonempty : inner ≠ [] ∨ back ≠ []) (id) :
      outer.verifier id = whole.verifier id := by
    rw [outer_collection.verifier, collection.verifier, List.append_assoc, firstVerifier_append,
      firstVerifier_append]
    cases firstVerifier id (.keyNotFound id) front with
    | ok key => rfl
    | error error => exact firstVerifier_nested nested_collection nonempty
  have nested_answers := nested_collection.answersFirst fun member listed =>
    maps member (List.mem_append_left _ (List.mem_append_right _ listed))
  have outer_maps : ∀ member ∈ front ++ nested :: back, member.HasMaps := by
    rw [List.forall_mem_append, List.forall_mem_append] at maps
    rw [List.forall_mem_append, List.forall_mem_cons]
    exact ⟨maps.1.1, nested_answers.hasMaps, maps.2⟩
  have outer_answers := outer_collection.answersFirst outer_maps
  have answers := collection.answersFirst maps
  refine ⟨⟨fun id key => ?_, fun id => ?_, fun id => ?_, ?_, ?_⟩, verifier_eq⟩
  · by_cases nonempty : inner ≠ [] ∨ back ≠ []
    · rw [verifier_eq nonempty]
    · -- An empty collection in last place resolves nothing, like no member at all.
      obtain ⟨rfl, rfl⟩ : inner = [] ∧ back = [] := by
        rw [not_or, not_not, not_not] at nonempty
        exact nonempty
      rw [outer_collection.verifier, collection.verifier, firstVerifier_append, List.append_nil,
        List.append_nil]
      cases firstVerifier id (.keyNotFound id) front with
      | ok key => rfl
      | error error => simp [firstVerifier, nested_collection.verifier]
  · rw [outer_answers.log, answers.log, List.findSome?_append, List.findSome?_append,
      List.findSome?_append, List.findSome?_cons, nested_answers.log, Option.or_assoc]
    cases inner.findSome? (·.logs.get? id) <;> rfl
  · rw [outer_answers.ctLog, answers.ctLog, List.findSome?_append, List.findSome?_append,
      List.findSome?_append, List.findSome?_cons, nested_answers.ctLog, Option.or_assoc]
    cases inner.findSome? (·.ctLogs.get? id) <;> rfl
  · rw [outer_collection.timestampingAuthorities, collection.timestampingAuthorities]
    simp [nested_collection.timestampingAuthorities]
  · rw [outer_collection.certificateAuthorities, collection.certificateAuthorities]
    simp [nested_collection.certificateAuthorities]

end Nested

/-- The first match wins, and collections compose.  However the maps of the members are visited, a
collection answers like the first member that has an answer, and otherwise with the last fault; it
keeps its answers when members are added; and a collection that stands among its members may be
replaced by the members of its own, up to the fault that remains of an empty one in last place. -/
theorem first_match_wins (maps : ∀ member ∈ members, member.HasMaps) :
    (collect members).IsCollection members ∧
      ∀ whole : TrustSource Key, whole.IsCollection members →
        whole.AnswersFirst members ∧
        (∀ member more : TrustSource Key, member.HasMaps → more.IsCollection (members ++ [member]) →
          more.Keeps whole) ∧
        ∀ (front inner back : List (TrustSource Key)) (nested outer : TrustSource Key),
          members = front ++ inner ++ back → nested.IsCollection inner →
            outer.IsCollection (front ++ nested :: back) → outer.Matches whole ∧
              (inner ≠ [] ∨ back ≠ [] → ∀ id, outer.verifier id = whole.verifier id) := by
  refine ⟨isCollection_collect maps, fun whole collection =>
    ⟨collection.answersFirst maps, fun member more member_maps pushed => ?_, ?_⟩⟩
  · refine collection.keeps pushed ?_
    rw [List.forall_mem_append, List.forall_mem_singleton]
    exact ⟨maps, member_maps⟩
  · rintro front inner back nested outer rfl nested_collection outer_collection
    exact nested_collection.splice outer_collection collection maps

section Sample

private def logOfKey (publicKey : Bytes) : TransparencyLog :=
  { publicKey, keyDetails := .ed25519, validity := {} }

private def pinned : TrustSource String where
  logs := [("both", logOfKey [1]), ("pinned", logOfKey [2])]
  verifier id := if id = "pinned" then .ok "pinned" else .error (.algorithm (.ofSource "unpinned"))

private def fallback : TrustSource String where
  logs := [("both", logOfKey [3])]
  verifier _ := .ok "fallback"

private theorem hasMaps_samples : pinned.HasMaps ∧ fallback.HasMaps :=
  ⟨⟨by unfold LogMap.IsMap; decide, .nil⟩, ⟨by unfold LogMap.IsMap; decide, .nil⟩⟩

/-- A pinned source before a fallback, extended and nested. -/
theorem first_match_wins_sample :
    (∀ member ∈ [pinned, fallback], member.HasMaps) ∧
      (collect [pinned, fallback]).AnswersFirst [pinned, fallback] ∧
      (collect [pinned, fallback, pinned]).Keeps (collect [pinned, fallback]) ∧
      (collect [pinned, collect [fallback]]).Matches (collect [pinned, fallback]) ∧
      (collect [pinned, fallback]).verifier "pinned" = .ok "pinned" ∧
      (collect [pinned, fallback]).verifier "other" = .ok "fallback" := by
  obtain ⟨pinned_maps, fallback_maps⟩ := hasMaps_samples
  have maps : ∀ member ∈ [pinned, fallback], member.HasMaps := by
    simp only [List.forall_mem_cons]
    exact ⟨pinned_maps, fallback_maps, nofun⟩
  obtain ⟨collection, composes⟩ := first_match_wins maps
  obtain ⟨answers, keeps, splice⟩ := composes _ collection
  have nested_collection : (collect [fallback]).IsCollection [fallback] :=
    isCollection_collect (List.forall_mem_singleton.mpr fallback_maps)
  have nested_maps := (nested_collection.answersFirst
    (List.forall_mem_singleton.mpr fallback_maps)).hasMaps
  have pushed :
      (collect [pinned, fallback, pinned]).IsCollection ([pinned, fallback] ++ [pinned]) :=
    isCollection_collect (by
      simp only [List.forall_mem_cons]
      exact ⟨pinned_maps, fallback_maps, pinned_maps, nofun⟩)
  have outer_collection :
      (collect [pinned, collect [fallback]]).IsCollection ([pinned] ++ collect [fallback] :: []) :=
    isCollection_collect (by
      simp only [List.forall_mem_cons]
      exact ⟨pinned_maps, nested_maps, nofun⟩)
  exact ⟨maps, answers, keeps pinned _ pinned_maps pushed,
    (splice [pinned] [fallback] [] _ _ rfl nested_collection outer_collection).1, rfl, rfl⟩

end Sample

end TrustSource
end Countersign
