import Countersign.Proofs.Trust.Resolution
import Countersign.Trust.Inquiry

/-!
# Kept verifiers do not show

However the steps of several questions follow one another, each answer is the one that the anchors
give, and nothing is kept that they do not give.  The invariant says for each stage of a question
what has been found out; two questions that both miss a verifier build the same one.
-/

namespace Countersign

namespace TrustAnchors

variable {first second : TrustAnchors}

/-- Trust anchors with the same version and the same entries, wherever lookups find them. -/
structure SameContent (first second : TrustAnchors) : Prop where
  version : first.version = second.version
  certificateAuthorities : first.certificateAuthorities = second.certificateAuthorities
  ctLogs : first.ctLogs = second.ctLogs
  timestampingAuthorities : first.timestampingAuthorities = second.timestampingAuthorities
  logs : first.logs = second.logs

/-- The stored positions are determined by the entries. -/
theorem SameContent.eq (same : first.SameContent second) : first = second := by
  obtain ⟨version, authorityTable, ctLogTable, stamperTable, logTable⟩ := first
  obtain ⟨_, _, _, _, _⟩ := second
  obtain ⟨rfl, authorities, ctLogs, stampers, logs⟩ := same
  cases EntryTable.ext_entries authorities
  cases EntryTable.ext_entries ctLogs
  cases EntryTable.ext_entries stampers
  cases EntryTable.ext_entries logs
  rfl

end TrustAnchors

theorem TrustRoot.agrees_iff {first second : TrustRoot} :
    first.agrees second = true ↔ first.SameContent second.toTrustAnchors := by
  rw [agrees, decide_eq_true_eq]
  constructor
  · intro same
    rw [same]
    exact ⟨rfl, rfl, rfl, rfl, rfl⟩
  · exact TrustAnchors.SameContent.eq

namespace Resolver

variable {resolver : Resolver} {anchors : TrustAnchors}

/-- A resolver of trust anchors of which each kept entry is a verifier that the anchors give. -/
structure KeepsOnly (resolver : Resolver) (anchors : TrustAnchors) : Prop where
  anchors_eq : resolver.anchors = anchors
  verifier_eq : ∀ entry ∈ resolver.kept, anchors.verifier entry.1 = .ok entry.2

theorem keepsOnly_fresh (anchors : TrustAnchors) : KeepsOnly ⟨anchors, []⟩ anchors :=
  ⟨rfl, nofun⟩

theorem KeepsOnly.isFaithful (keeps : resolver.KeepsOnly anchors) :
    resolver.IsFaithful anchors := by
  refine ⟨keeps.anchors_eq, fun id verifier found => ?_⟩
  obtain ⟨front, back, kept_eq, -⟩ := List.lookup_eq_some_iff.mp found
  exact keeps.verifier_eq (id, verifier) (by simp [kept_eq])

theorem KeepsOnly.keep (keeps : resolver.KeepsOnly anchors) {id : String} {verifier : Verifier}
    (built : anchors.verifier id = .ok verifier) :
    (resolver.keep id verifier).KeepsOnly anchors := by
  unfold Resolver.keep
  split
  · exact keeps
  · exact ⟨keeps.anchors_eq, List.forall_mem_cons.mpr ⟨built, keeps.verifier_eq⟩⟩

/-- What has no verifier is never kept. -/
theorem KeepsOnly.kept?_eq_none (keeps : resolver.KeepsOnly anchors) {id : String}
    {error : TrustError} (failed : anchors.verifier id = .error error) :
    resolver.kept? id = none := by
  cases found : resolver.kept? id with
  | none => rfl
  | some verifier =>
    have built := keeps.isFaithful.verifier_eq id verifier found
    rw [failed] at built
    cases built

end Resolver

namespace Question

variable {question : Question} {resolver : Resolver} {anchors : TrustAnchors}

/-- What a question has found out is what the anchors give. -/
def IsSound (question : Question) (anchors : TrustAnchors) : Prop :=
  match question.stage with
  | .asked | .missed => True
  | .built verifier => anchors.verifier question.id = .ok verifier
  | .answered answer => answer = anchors.verifier question.id

theorem IsSound.answer_eq {answer : Except TrustError Verifier} (sound : question.IsSound anchors)
    (answered : question.stage = .answered answer) : answer = anchors.verifier question.id := by
  rw [IsSound, answered] at sound
  exact sound

theorem proceed_id (question : Question) (resolver : Resolver) :
    (question.proceed resolver).1.id = question.id := by
  unfold proceed
  split
  · split <;> rfl
  · split <;> rfl
  · rfl
  · rfl

/-- A step of a question keeps it sound, and the resolver with it. -/
theorem IsSound.proceed (sound : question.IsSound anchors) (keeps : resolver.KeepsOnly anchors) :
    (question.proceed resolver).1.IsSound anchors ∧
      (question.proceed resolver).2.KeepsOnly anchors := by
  obtain ⟨id, stage⟩ := question
  cases stage with
  | asked =>
    simp only [Question.proceed]
    split
    · rename_i verifier found
      exact ⟨(keeps.isFaithful.verifier_eq id verifier found).symm, keeps⟩
    · exact ⟨trivial, keeps⟩
  | missed =>
    simp only [Question.proceed, keeps.anchors_eq]
    split
    · rename_i verifier built
      exact ⟨built, keeps⟩
    · rename_i error failed
      exact ⟨failed.symm, keeps⟩
  | built verifier => exact ⟨Eq.symm sound, keeps.keep sound⟩
  | answered answer => exact ⟨sound, keeps⟩

/-- The steps that a question still has to make at most. -/
def remaining (question : Question) : Nat :=
  match question.stage with
  | .asked => 3
  | .missed => 2
  | .built _ => 1
  | .answered _ => 0

theorem remaining_le (question : Question) : question.remaining ≤ 3 := by
  unfold remaining
  split <;> omega

theorem remaining_proceed_le (question : Question) (resolver : Resolver) :
    (question.proceed resolver).1.remaining ≤ question.remaining - 1 := by
  obtain ⟨id, stage⟩ := question
  cases stage with
  | asked =>
    simp only [proceed]
    split <;> simp [remaining]
  | missed =>
    simp only [proceed]
    split <;> simp [remaining]
  | built verifier => simp [proceed, remaining]
  | answered answer => simp [proceed, remaining]

theorem exists_answer (finished : question.remaining = 0) :
    ∃ answer, question.stage = .answered answer := by
  unfold remaining at finished
  split at finished
  case h_4 answer answered => exact ⟨answer, answered⟩
  all_goals cases finished

/-- A question that nothing comes between resolves its identifier. -/
theorem proceed_alone (id : String) (resolver : Resolver) :
    let first := Question.proceed { id } resolver
    let second := first.1.proceed first.2
    second.1.proceed second.2 =
      ({ id, stage := .answered (resolver.resolve id).1 }, (resolver.resolve id).2) := by
  cases found : resolver.kept? id with
  | some verifier => simp [proceed, Resolver.resolve, found]
  | none =>
    cases outcome : resolver.anchors.verifier id <;>
      simp [proceed, Resolver.resolve, Resolver.build, found, outcome]

end Question

namespace Inquiry

variable {inquiry : Inquiry} {anchors : TrustAnchors}

/-- An inquiry in which nothing has been found out or kept that the anchors do not give. -/
structure IsSound (inquiry : Inquiry) (anchors : TrustAnchors) : Prop where
  resolver : inquiry.resolver.KeepsOnly anchors
  questions : ∀ question ∈ inquiry.questions, question.IsSound anchors

theorem IsSound.step (sound : inquiry.IsSound anchors) (move : Move) :
    (inquiry.step move).IsSound anchors := by
  cases move with
  | ask id =>
    refine ⟨sound.resolver, fun question listed => ?_⟩
    rcases List.mem_append.mp listed with earlier | new
    · exact sound.questions question earlier
    · cases List.mem_singleton.mp new
      exact trivial
  | proceed position =>
    simp only [Inquiry.step]
    split
    · rename_i question here
      have question_sound := sound.questions question (List.mem_of_getElem? here)
      obtain ⟨next_sound, keeps⟩ := question_sound.proceed sound.resolver
      refine ⟨keeps, fun other listed => ?_⟩
      rcases List.mem_or_eq_of_mem_set listed with earlier | rfl
      · exact sound.questions other earlier
      · exact next_sound
    · exact sound

theorem IsSound.run (sound : inquiry.IsSound anchors) (moves : List Move) :
    (inquiry.run moves).IsSound anchors := by
  induction moves generalizing inquiry with
  | nil => exact sound
  | cons move rest ih => exact ih (sound.step move)

theorem isSound_into (anchors : TrustAnchors) (moves : List Move) :
    (into ⟨anchors, []⟩ moves).IsSound anchors :=
  IsSound.run ⟨Resolver.keepsOnly_fresh anchors, List.forall_mem_nil _⟩ moves

/-- Whoever moves, a question stays where it is and asks for the same; its own step brings it
closer to its answer. -/
theorem exists_question_step {position : Nat} {question : Question}
    (here : inquiry.questions[position]? = some question) (move : Move) :
    ∃ next, (inquiry.step move).questions[position]? = some next ∧ next.id = question.id ∧
      next.remaining ≤ question.remaining - if move = .proceed position then 1 else 0 := by
  have bound : position < inquiry.questions.length := (List.getElem?_eq_some_iff.mp here).1
  cases move with
  | ask id =>
    refine ⟨question, ?_, rfl, by simp⟩
    rw [Inquiry.step, List.getElem?_append_left bound]
    exact here
  | proceed other =>
    simp only [Inquiry.step]
    split
    · rename_i moving there
      by_cases same : other = position
      · subst same
        cases here.symm.trans there
        refine ⟨_, List.getElem?_set_self bound, question.proceed_id _, ?_⟩
        rw [if_pos rfl]
        exact question.remaining_proceed_le _
      · refine ⟨question, ?_, rfl, by simp [same]⟩
        rw [List.getElem?_set_ne same]
        exact here
    · rename_i nobody
      refine ⟨question, here, rfl, ?_⟩
      rw [if_neg]
      · exact le_rfl
      · rintro ⟨⟩
        rw [here] at nobody
        cases nobody

theorem exists_question_run {position : Nat} {question : Question}
    (here : inquiry.questions[position]? = some question) (moves : List Move) :
    ∃ later, (inquiry.run moves).questions[position]? = some later ∧ later.id = question.id ∧
      later.remaining ≤ question.remaining - moves.count (.proceed position) := by
  induction moves generalizing inquiry question with
  | nil => exact ⟨question, here, rfl, le_rfl⟩
  | cons move rest ih =>
    obtain ⟨next, next_here, next_id, next_closer⟩ := exists_question_step here move
    obtain ⟨later, later_here, later_id, later_closer⟩ := ih next_here
    refine ⟨later, later_here, later_id.trans next_id, later_closer.trans ?_⟩
    rw [List.count_cons]
    simp only [beq_iff_eq]
    omega

/-- An answer has been given to a question for an identifier. -/
def Answers (inquiry : Inquiry) (id : String) (answer : Except TrustError Verifier) : Prop :=
  ∃ question ∈ inquiry.questions, question.id = id ∧ question.stage = .answered answer

theorem IsSound.answer_eq (sound : inquiry.IsSound anchors) {id : String}
    {answer : Except TrustError Verifier} (answers : inquiry.Answers id answer) :
    answer = anchors.verifier id := by
  obtain ⟨question, listed, rfl, answered⟩ := answers
  exact (sound.questions question listed).answer_eq answered

/-- After three steps of its own, whatever else has moved, a question has the answer that the
anchors give. -/
theorem IsSound.answered (sound : inquiry.IsSound anchors) {position : Nat} {question : Question}
    (here : inquiry.questions[position]? = some question) {moves : List Move}
    (enough : 3 ≤ moves.count (.proceed position)) :
    (inquiry.run moves).questions[position]? =
      some ⟨question.id, .answered (anchors.verifier question.id)⟩ := by
  obtain ⟨later, later_here, later_id, closer⟩ := exists_question_run here moves
  have at_most := question.remaining_le
  have finished : later.remaining = 0 := by omega
  obtain ⟨answer, answered⟩ := Question.exists_answer finished
  have later_sound := (sound.run moves).questions later (List.mem_of_getElem? later_here)
  rw [later_here, ← later_id, ← later_sound.answer_eq answered, ← answered]

/-- What is promised of an inquiry into a trust root, whatever moves have been made. -/
structure IsTransparent (root : TrustRoot) (inquiry : Inquiry) : Prop where
  /-- An answer is the one that any root of the same content gives when it is asked first. -/
  fresh (other : TrustRoot) : root.SameContent other.toTrustAnchors →
    ∀ id answer, inquiry.Answers id answer → answer = ((Resolver.ofRoot other).resolve id).1
  /-- Every question is answered once it has made three steps. -/
  answered (position : Nat) (question : Question) (moves : List Move) :
    inquiry.questions[position]? = some question → 3 ≤ moves.count (.proceed position) →
      (inquiry.run moves).questions[position]? =
        some ⟨question.id, .answered ((Resolver.ofRoot root).resolve question.id).1⟩
  /-- What is kept can be built. -/
  kept : ∀ entry ∈ inquiry.resolver.kept, root.verifier entry.1 = .ok entry.2
  /-- What cannot be built is not kept. -/
  failed (id : String) (error : TrustError) :
    root.verifier id = .error error → inquiry.resolver.kept? id = none
  /-- Roots that agree give the same answers, whatever they have been asked. -/
  agreeing (other : TrustRoot) (moves : List Move) : root.agrees other = true →
    ∀ id answer answer', inquiry.Answers id answer →
      (into (.ofRoot other) moves).Answers id answer' → answer = answer'
  /-- A copy gives the same answers, whatever it and its model have been asked. -/
  copied (moves : List Move) : ∀ id answer answer', inquiry.Answers id answer →
    (into inquiry.resolver.copy moves).Answers id answer' → answer = answer'

/-- Kept verifiers do not show: whatever has been asked and whoever moves, all answers are those of
a root that has not been asked before, and only what the root gives is kept. -/
theorem unobservable (root : TrustRoot) (moves : List Move) :
    (into (.ofRoot root) moves).IsTransparent root := by
  have sound := isSound_into root.toTrustAnchors moves
  have resolve_eq (other : TrustRoot) (id : String) :
      ((Resolver.ofRoot other).resolve id).1 = other.verifier id :=
    ((Resolver.keepsOnly_fresh other.toTrustAnchors).isFaithful.resolve id).1
  constructor
  case fresh =>
    intro other same id answer answers
    rw [resolve_eq, ← same.eq]
    exact sound.answer_eq answers
  case answered =>
    intro position question further here enough
    rw [resolve_eq]
    exact sound.answered here enough
  case kept => exact sound.resolver.verifier_eq
  case failed =>
    intro id error failed
    exact sound.resolver.kept?_eq_none failed
  case agreeing =>
    intro other others agree id answer answer' answers answers'
    have same := (TrustRoot.agrees_iff.mp agree).eq
    rw [sound.answer_eq answers, (isSound_into other.toTrustAnchors others).answer_eq answers',
      same]
  case copied =>
    intro others id answer answer' answers answers'
    have anchors_eq : (into (.ofRoot root) moves).resolver.anchors = root.toTrustAnchors :=
      sound.resolver.anchors_eq
    rw [Resolver.copy, anchors_eq] at answers'
    rw [sound.answer_eq answers, (isSound_into root.toTrustAnchors others).answer_eq answers']

end Inquiry
end Countersign
