import Countersign.Trust.Anchors

/-!
# Resolving verifiers

A resolver keeps the verifiers that it has built.  A verifier is looked for among the kept ones
first; only a success is kept, and what is kept is never replaced.
-/

namespace Countersign

/-- Trust anchors with the verifiers that have been built from them. -/
structure Resolver where
  /-- The trust anchors. -/
  anchors : TrustAnchors
  /-- The verifiers that are kept, by identifier. -/
  kept : List (String × Verifier) := []

namespace Resolver

/-- The kept verifier with an identifier. -/
def kept? (resolver : Resolver) (id : String) : Option Verifier :=
  resolver.kept.lookup id

/-- Keeps a verifier unless there is one for the identifier already. -/
def keep (resolver : Resolver) (id : String) (verifier : Verifier) : Resolver :=
  match resolver.kept? id with
  | some _ => resolver
  | none => { resolver with kept := (id, verifier) :: resolver.kept }

/-- Builds a verifier and keeps it. -/
def build (resolver : Resolver) (id : String) : Except TrustError Verifier × Resolver :=
  match resolver.anchors.verifier id with
  | .ok verifier => (.ok verifier, resolver.keep id verifier)
  | .error error => (.error error, resolver)

/-- The verifier with an identifier: a kept one, or else a new one. -/
def resolve (resolver : Resolver) (id : String) : Except TrustError Verifier × Resolver :=
  match resolver.kept? id with
  | some verifier => (.ok verifier, resolver)
  | none => resolver.build id

end Resolver
end Countersign
