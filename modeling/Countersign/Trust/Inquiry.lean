import Countersign.Trust.Resolver
import Countersign.Trust.Root

/-!
# Questions asked at the same time

Several callers may ask one resolver for verifiers at the same time.  A question looks among the
kept verifiers; if there is none for its identifier it builds one, and then keeps it.  Between these
steps other questions may go on, so several of them may miss the same verifier and build it.
-/

namespace Countersign

namespace Resolver

/-- The resolver of a trust root that has not been asked yet. -/
def ofRoot (root : TrustRoot) : Resolver :=
  ⟨root.toTrustAnchors, []⟩

/-- A copy of a resolver has its anchors; what is kept is not copied. -/
def copy (resolver : Resolver) : Resolver :=
  ⟨resolver.anchors, []⟩

end Resolver

/-- How far a question has come. -/
inductive QuestionStage where
  /-- Nothing has been done. -/
  | asked
  /-- There was no kept verifier. -/
  | missed
  /-- A verifier has been built that is still to be kept. -/
  | built (verifier : Verifier)
  /-- The answer has been given. -/
  | answered (answer : Except TrustError Verifier)

/-- A question for the verifier with an identifier. -/
structure Question where
  /-- The identifier. -/
  id : String
  /-- How far the question has come. -/
  stage : QuestionStage := .asked

namespace Question

/-- The next step of a question, and the resolver after it. -/
def proceed (question : Question) (resolver : Resolver) : Question × Resolver :=
  match question.stage with
  | .asked =>
    match resolver.kept? question.id with
    | some verifier => ({ question with stage := .answered (.ok verifier) }, resolver)
    | none => ({ question with stage := .missed }, resolver)
  | .missed =>
    match resolver.anchors.verifier question.id with
    | .ok verifier => ({ question with stage := .built verifier }, resolver)
    | .error error => ({ question with stage := .answered (.error error) }, resolver)
  | .built verifier =>
    ({ question with stage := .answered (.ok verifier) }, resolver.keep question.id verifier)
  | .answered _ => (question, resolver)

end Question

/-- A resolver with the questions that have been put to it. -/
structure Inquiry where
  /-- The resolver. -/
  resolver : Resolver
  /-- The questions in the order in which they were asked. -/
  questions : List Question := []

namespace Inquiry

/-- What happens next. -/
inductive Move where
  /-- Another question is asked. -/
  | ask (id : String)
  /-- The question at a position makes its next step. -/
  | proceed (position : Nat)
  deriving DecidableEq, Repr

/-- What comes of a move. -/
def step (inquiry : Inquiry) : Move → Inquiry
  | .ask id => { inquiry with questions := inquiry.questions ++ [{ id }] }
  | .proceed position =>
    match inquiry.questions[position]? with
    | some question =>
      let (next, resolver) := question.proceed inquiry.resolver
      ⟨resolver, inquiry.questions.set position next⟩
    | none => inquiry

/-- What comes of moves, one after another. -/
def run (inquiry : Inquiry) (moves : List Move) : Inquiry :=
  moves.foldl step inquiry

/-- The inquiry into a resolver, by moves from the first question on. -/
def into (resolver : Resolver) (moves : List Move) : Inquiry :=
  run { resolver } moves

end Inquiry
end Countersign
