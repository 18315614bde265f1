import Countersign.Bundle.Basic
import Countersign.Proofs.Format.Blob

/-!
# The order of a bundle's members

Bundles are read by the names of members, with one exception: the signer is what the first member of
the material says that names a kind of signer.  Texts that differ in order therefore give the same
bundle as long as the same name comes first, and other bundles if it does not.
-/

namespace Countersign

open Json Json.Document Json.Decoder Json.Fields Json.Members

section Parts

theorem Json.Int64Text.respects_order : Int64Text.decoder.Respects Reordered := by
  intro document other value here read
  cases document with
  | array elements => cases read
  | object members => cases read
  | _ =>
    rw [here.eq_of_atom (fun _ => nofun) (fun _ => nofun)]
    exact read

theorem HashAlgorithm.respects_order : HashAlgorithm.decoder.Respects Reordered := by
  intro document other value here read
  cases document with
  | string text =>
    rw [here.eq_of_atom (fun _ => nofun) (fun _ => nofun)]
    exact read
  | object members =>
    -- The only object that is accepted gives one name a null, so nothing in it can be reordered.
    rw [decoder, symbol.eq_def] at read
    split at read
    · cases ‹Document.object members = .string _›
    · rename_i name same
      cases same
      obtain ⟨between, others, rfl, pairs, perm⟩ := here.of_object
      obtain ⟨⟨key, inside⟩, _, ⟨rfl, null_reordered⟩, rest_nil, rfl⟩ :=
        List.forall₂_cons_left_iff.mp pairs
      obtain rfl := null_reordered.eq_of_atom (fun _ => nofun) (fun _ => nofun)
      rw [List.forall₂_nil_left_iff.mp rest_nil, List.singleton_perm] at perm
      rw [← perm]
      exact read
    · cases read
  | _ => cases read

theorem Blob.respects_order : Blob.decoder.Respects Reordered :=
  Blob.respects isCorrespondence_reordered

theorem Json.Decoder.string_respects_order : Decoder.string.Respects Reordered :=
  .string isCorrespondence_reordered

theorem Sha256Digest.respects_order : Sha256Digest.decoder.Respects Reordered :=
  string_respects_order.andThen _

theorem MessageDigest.respects_order : MessageDigest.decoder.Respects Reordered :=
  .record isCorrespondence_reordered fun found =>
    .seq (.map (.member found HashAlgorithm.respects_order _ _))
      (.member found Blob.respects_order _ _)

theorem MessageSignature.respects_order : MessageSignature.decoder.Respects Reordered := by
  refine .record isCorrespondence_reordered fun found => ?_
  have digest := MessageDigest.respects_order.nullable isCorrespondence_reordered fun _ => nofun
  exact .seq (.map (.member found digest _ _)) (.member found Blob.respects_order _ _)

theorem EnvelopeSignature.respects_order : EnvelopeSignature.decoder.Respects Reordered :=
  .record isCorrespondence_reordered fun found =>
    .seq (.map (.member found string_respects_order _ _)) (.member found Blob.respects_order _ _)

theorem Envelope.respects_order : Envelope.decoder.Respects Reordered := by
  refine .record isCorrespondence_reordered fun found => ?_
  have signatures := EnvelopeSignature.respects_order.list isCorrespondence_reordered
  exact .seq (.seq (.map (.member found string_respects_order _ _))
    (.member found Blob.respects_order _ _)) (.member found signatures _ _)

theorem InclusionProof.respects_order : InclusionProof.decoder.Respects Reordered := by
  refine .record isCorrespondence_reordered fun found => ?_
  have hashes := Sha256Digest.respects_order.list isCorrespondence_reordered
  have checkpoint : InclusionProof.checkpointDecoder.Respects Reordered :=
    .single isCorrespondence_reordered string_respects_order _ _
  exact .seq (.seq (.seq (.seq (.map (.member found Int64Text.respects_order _ _))
    (.member found Sha256Digest.respects_order _ _)) (.member found Int64Text.respects_order _ _))
    (.member found hashes _ _)) (.member found checkpoint _ _)

theorem KindVersion.respects_order : KindVersion.decoder.Respects Reordered :=
  .record isCorrespondence_reordered fun found =>
    .seq (.map (.member found string_respects_order _ _)) (.member found string_respects_order _ _)

theorem LoggedEntry.respects_order : LoggedEntry.decoder.Respects Reordered := by
  refine .record isCorrespondence_reordered fun found => ?_
  have logId : LoggedEntry.logIdDecoder.Respects Reordered :=
    .single isCorrespondence_reordered Blob.respects_order _ _
  have promise : LoggedEntry.promiseDecoder.Respects Reordered :=
    .single isCorrespondence_reordered Blob.respects_order _ _
  have promise? := promise.nullable isCorrespondence_reordered fun _ => nofun
  have proof? := InclusionProof.respects_order.nullable isCorrespondence_reordered fun _ => nofun
  exact .seq (.seq (.seq (.seq (.seq (.seq (.map (.member found Int64Text.respects_order _ _))
    (.member found logId _ _)) (.member found KindVersion.respects_order _ _))
    (.member found Int64Text.respects_order _ _)) (.member found promise? _ _))
    (.member found proof? _ _)) (.member found Blob.respects_order _ _)

theorem TimestampData.respects_order : TimestampData.decoder.Respects Reordered := by
  refine .record isCorrespondence_reordered fun found => ?_
  have token : TimestampData.tokenDecoder.Respects Reordered :=
    .single isCorrespondence_reordered Blob.respects_order _ _
  exact .map (.member found (token.list isCorrespondence_reordered) _ _)

end Parts

namespace Signer

/-- A decoder that a name selects gives signers of that name, in whatever order. -/
theorem alternative_spec {name : String} {decode : Decoder Signer}
    (selected : alternative? name = some decode) :
    decode.Respects Reordered ∧
      ∀ document signer, decode document = .ok signer → signer.toMember.1 = name := by
  have certificate : certificateDecoder.Respects Reordered :=
    .single isCorrespondence_reordered Blob.respects_order _ _
  rw [alternative?.eq_def] at selected
  split at selected
  · cases selected
    refine ⟨certificate.change _, fun document signer decoded => ?_⟩
    obtain ⟨der, -, rfl⟩ := Outcome.map_eq_ok_iff.mp decoded
    rfl
  · cases selected
    have chain : chainDecoder.Respects Reordered :=
      .single isCorrespondence_reordered (certificate.list isCorrespondence_reordered) _ _
    refine ⟨chain.change _, fun document signer decoded => ?_⟩
    obtain ⟨certificates, -, rfl⟩ := Outcome.map_eq_ok_iff.mp decoded
    rfl
  · cases selected
    have hint : hintDecoder.Respects Reordered :=
      .single isCorrespondence_reordered string_respects_order _ _
    refine ⟨hint.change _, fun document signer decoded => ?_⟩
    obtain ⟨hint, -, rfl⟩ := Outcome.map_eq_ok_iff.mp decoded
    rfl
  · cases selected

/-- Whether a name is that of a kind of signer. -/
def isKind (name : String) : Bool :=
  (alternative? name).isSome

private theorem findSome?_eq_bind_find? (members : Members) :
    (members.findSome? fun (name, document) =>
        (alternative? name).map fun decode => decode document) =
      (members.find? fun member => isKind member.1).bind fun (name, document) =>
        (alternative? name).map fun decode => decode document := by
  induction members with
  | nil => rfl
  | cons first rest ih =>
    obtain ⟨name, document⟩ := first
    cases selected : alternative? name <;> simp [isKind, selected, ih]

/-- The signer is read from the first member that names a kind. -/
theorem fields_eq_ok_iff {members : Members} {signer : Signer} :
    fields members = .ok signer ↔
      ∃ name document decode,
        members.find? (fun member => isKind member.1) = some (name, document) ∧
          alternative? name = some decode ∧ decode document = .ok signer := by
  have found_iff : fields members = .ok signer ↔
      (members.findSome? fun (name, document) =>
        (alternative? name).map fun decode => decode document) = some (.ok signer) := by
    rw [fields]
    split
    · rename_i result found
      rw [found]
      simp [Fields.at, Outcome.mapError_eq_ok_iff]
    · rename_i nothing
      rw [nothing]
      simp
  rw [found_iff, findSome?_eq_bind_find?]
  simp [Option.bind_eq_some_iff]

/-- The signer is read alike from members in another order if the same kind is named first. -/
theorem follows {members others : Members} (correspond : Correspond Reordered members others)
    (distinct : (members.map Prod.fst).Nodup) (others_distinct : (others.map Prod.fst).Nodup)
    (same_first : (members.find? fun member => isKind member.1).map Prod.fst =
      (others.find? fun member => isKind member.1).map Prod.fst) :
    fields.Follows members others := by
  intro signer read
  obtain ⟨name, document, decode, first, selected, decoded⟩ := fields_eq_ok_iff.mp read
  rw [first, Option.map_some, eq_comm, Option.map_eq_some_iff] at same_first
  obtain ⟨⟨name, other⟩, other_first, rfl⟩ := same_first
  have once := under_eq_singleton_of_mem distinct (List.mem_of_find?_eq_some first)
  have other_once :=
    under_eq_singleton_of_mem others_distinct (List.mem_of_find?_eq_some other_first)
  obtain ⟨found, found_once, inside⟩ := correspond.single once
  obtain rfl : other = found := by simpa using other_once.symm.trans found_once
  exact fields_eq_ok_iff.mpr
    ⟨_, other, decode, other_first, selected, (alternative_spec selected).1 inside decoded⟩

/-- The signer that is read is of the kind that is named first. -/
theorem first_eq_of_fields {members : Members} {signer : Signer}
    (read : fields members = .ok signer) :
    (members.find? fun member => isKind member.1).map Prod.fst = some signer.toMember.1 := by
  obtain ⟨name, document, decode, first, selected, decoded⟩ := fields_eq_ok_iff.mp read
  rw [first, (alternative_spec selected).2 document signer decoded]
  rfl

end Signer

namespace Material

/-- The names in material that are those of kinds of signers, in their order. -/
def signerNames : Document → List String
  | .object members => (members.map Prod.fst).filter Signer.isKind
  | _ => []

theorem head?_signerNames (members : Members) :
    (signerNames (.object members)).head? =
      (members.find? fun member => Signer.isKind member.1).map Prod.fst := by
  rw [signerNames, List.head?_filter, List.find?_map]
  rfl

variable {outer : Nat} {document other : Document} {material : Material}

/-- Material in another order is read alike if the same kind of signer is named first. -/
theorem decoder_eq_ok_of_reordered (distinct : document.HasDistinctMembers)
    (reordered : document.Reordered other)
    (same_first : (signerNames document).head? = (signerNames other).head?)
    (read : decoder outer document = .ok material) : decoder outer other = .ok material := by
  cases document with
  | object members =>
    obtain ⟨others, rfl, correspond, -⟩ := isCorrespondence_reordered.object reordered
    rw [decoder, result_eq_ok_iff] at read ⊢
    have entries := (LoggedEntry.respects_order.list isCorrespondence_reordered).orDefault
      isCorrespondence_reordered (fun _ => nofun) []
    have timestamps := TimestampData.respects_order.orDefault isCorrespondence_reordered
      (fun _ => nofun) ({} : TimestampData)
    have others_kept (depth : Nat) :
        (Fields.others ownNames fun member => member.2.isKept depth).Follows members others := by
      intro _ passed
      rw [others_eq_ok_iff] at passed ⊢
      intro other listed
      obtain ⟨member, member_listed, name_eq, inside⟩ := reordered.exists_member listed
      rw [← name_eq]
      exact (passed member member_listed).imp id inside.isKept
    have others_distinct := reordered.hasDistinctMembers distinct
    rw [head?_signerNames, head?_signerNames] at same_first
    have signer := Signer.follows correspond distinct.of_object.1 others_distinct.of_object.1
      same_first
    have material_follows :
        (fields (maxDepth - outer - 1)).Follows members others :=
      .seq (.seq (.seq (.map (.member correspond entries _ _))
        (.member correspond timestamps _ _)) (others_kept _)) signer
    exact material_follows read
  | _ => cases read

/-- The signer of material that is read is of the kind that is named first. -/
theorem head?_signerNames_of_decoder (read : decoder outer document = .ok material) :
    (signerNames document).head? = some material.signer.toMember.1 := by
  cases document with
  | object members =>
    rw [decoder, result_eq_ok_iff] at read
    obtain ⟨_, signer, others_read, signer_read, rfl⟩ := seq_eq_ok_iff.mp read
    obtain ⟨_, _, timestamps_read, -, rfl⟩ := seq_eq_ok_iff.mp others_read
    obtain ⟨_, _, entries_read, -, rfl⟩ := seq_eq_ok_iff.mp timestamps_read
    obtain ⟨_, -, rfl⟩ := map_eq_ok_iff.mp entries_read
    rw [head?_signerNames, Signer.first_eq_of_fields signer_read]
  | _ => cases read

theorem signerNames_perm (reordered : document.Reordered other) :
    (signerNames document).Perm (signerNames other) := by
  cases document with
  | object members =>
    obtain ⟨between, others, rfl, pairs, perm⟩ := reordered.of_object
    have names_eq : members.map Prod.fst = between.map Prod.fst := by
      rw [← List.forall₂_eq_eq_eq, List.forall₂_map_left_iff, List.forall₂_map_right_iff]
      exact pairs.imp fun _ _ same => same.1
    rw [signerNames, signerNames, names_eq]
    exact (perm.map Prod.fst).filter _
  | array elements =>
    obtain ⟨others, rfl, -⟩ := reordered.of_array
    exact .refl _
  | _ =>
    rw [reordered.eq_of_atom (fun _ => nofun) (fun _ => nofun)]

end Material

namespace Bundle

/-- The names in the material of a bundle that are those of kinds of signers, in their order. -/
def signerNames (document : Document) : List String :=
  match (document.recordMembers? memberNames).bind (·.lookup "verificationMaterial") with
  | some material => Material.signerNames material
  | none => []

variable {document other : Document} {bundle : Bundle}

private theorem signerNames_eq {members : Members} {material : Document}
    (given : document.recordMembers? memberNames = some members)
    (once : under "verificationMaterial" members = [material]) :
    signerNames document = Material.signerNames material := by
  rw [signerNames, given, Option.bind_some, lookup_eq_head?_under, once]
  rfl

/-- A bundle in another order is read alike if the same kind of signer is named first. -/
theorem decoder_eq_ok_of_reordered (distinct : document.HasDistinctMembers)
    (reordered : document.Reordered other)
    (same_first : (signerNames document).head? = (signerNames other).head?)
    (read : decoder document = .ok bundle) : decoder other = .ok bundle := by
  obtain ⟨parts, parts_read, checked⟩ := Outcome.bind_eq_ok_iff.mp read
  refine Outcome.bind_eq_ok_iff.mpr ⟨parts, record_eq_ok_of_follows isCorrespondence_reordered
    reordered (fun given other_given correspond => ?_) parts_read, checked⟩
  have signature? :=
    MessageSignature.respects_order.nullable isCorrespondence_reordered fun _ => nofun
  have envelope? := Envelope.respects_order.nullable isCorrespondence_reordered fun _ => nofun
  refine .seq (.map (.seq (.map (.member correspond string_respects_order _ _)) ?material))
    (.seq (.map (.member correspond signature? _ _)) (.member correspond envelope? _ _))
  case material =>
    intro material material_read
    rw [required, member_eq_ok_iff_under] at material_read ⊢
    rcases material_read with ⟨-, impossible⟩ | ⟨inside, once, decoded⟩
    · cases impossible
    · obtain ⟨other_inside, other_once, here⟩ := correspond.single once
      have inside_distinct : inside.HasDistinctMembers :=
        (distinct.of_recordMembers? (by decide) given).2 _
          (mem_of_mem_under (once ▸ List.mem_singleton_self inside))
      rw [signerNames_eq given once, signerNames_eq other_given other_once] at same_first
      exact .inr ⟨other_inside, other_once,
        Material.decoder_eq_ok_of_reordered inside_distinct here same_first decoded⟩

/-- The signer of a bundle that is read is of the kind that is named first. -/
theorem head?_signerNames_of_decoder (read : decoder document = .ok bundle) :
    (signerNames document).head? = some bundle.material.signer.toMember.1 := by
  obtain ⟨parts, parts_read, checked⟩ := Outcome.bind_eq_ok_iff.mp read
  obtain ⟨content, -, rfl⟩ := Outcome.map_eq_ok_iff.mp checked
  obtain ⟨members, given, fields_read, -⟩ := record_eq_ok_iff_recordMembers?.mp parts_read
  obtain ⟨_, _, pairing_read, -, rfl⟩ := seq_eq_ok_iff.mp fields_read
  obtain ⟨_, front_read, rfl⟩ := map_eq_ok_iff.mp pairing_read
  obtain ⟨_, material, mediaType_read, material_read, rfl⟩ := seq_eq_ok_iff.mp front_read
  obtain ⟨mediaType, -, rfl⟩ := map_eq_ok_iff.mp mediaType_read
  rw [required, member_eq_ok_iff_under] at material_read
  rcases material_read with ⟨-, impossible⟩ | ⟨inside, once, decoded⟩
  · cases impossible
  · rw [signerNames_eq given once]
    exact Material.head?_signerNames_of_decoder decoded

theorem signerNames_perm (distinct : document.HasDistinctMembers)
    (reordered : document.Reordered other) :
    (signerNames document).Perm (signerNames other) := by
  cases given : document.recordMembers? memberNames with
  | none =>
    cases other_given : other.recordMembers? memberNames with
    | none => rw [signerNames, signerNames, given, other_given]
    | some others =>
      obtain ⟨_, impossible, -⟩ :=
        isCorrespondence_reordered.exists_recordMembers? reordered.symm other_given
      cases given.symm.trans impossible
  | some members =>
    obtain ⟨others, other_given, correspond, -⟩ :=
      isCorrespondence_reordered.exists_recordMembers? reordered given
    have names_distinct := (distinct.of_recordMembers? (by decide) given).1
    have found := under_eq_toList_lookup "verificationMaterial" names_distinct
    cases material : members.lookup "verificationMaterial" with
    | none =>
      rw [material] at found
      rw [signerNames, signerNames, given, other_given, Option.bind_some, Option.bind_some,
        material, lookup_eq_head?_under, correspond.absent found]
      exact .refl _
    | some inside =>
      rw [material] at found
      obtain ⟨other_inside, other_once, here⟩ := correspond.single found
      rw [signerNames_eq given found, signerNames_eq other_given other_once]
      exact Material.signerNames_perm here

theorem ofJson_eq_ok_iff {text : String} :
    ofJson text = .ok bundle ↔
      decoder (Text.read text).document = .ok bundle ∧ (Text.read text).complete = true := by
  rw [ofJson, Outcome.mapError_eq_ok_iff, Text.decode_eq_ok_iff]

/-- Two whole texts without repeated members that differ in the order of members, at any depth. -/
structure DifferInOrder (text other : String) : Prop where
  whole : (Text.read text).complete = true
  other_whole : (Text.read other).complete = true
  distinct : (Text.read text).document.HasDistinctMembers
  reordered : (Text.read text).document.Reordered (Text.read other).document

/-- The name of the kind of signer that comes first in the material of a text. -/
def firstSignerName? (text : String) : Option String :=
  (signerNames (Text.read text).document).head?

/-- Texts that differ in order give the same bundle or are both refused if they name the same kind
of signer first, as they do if there is only one; and they give the same bundle only then. -/
theorem ofJson_of_differInOrder {text other : String} (texts : DifferInOrder text other) :
    (firstSignerName? text = firstSignerName? other →
      ∀ bundle, ofJson text = .ok bundle ↔ ofJson other = .ok bundle) ∧
    ((signerNames (Text.read text).document).length ≤ 1 →
      firstSignerName? text = firstSignerName? other) ∧
    ∀ bundle, ofJson text = .ok bundle → ofJson other = .ok bundle →
      firstSignerName? text = firstSignerName? other := by
  refine ⟨fun same_first bundle => ?_, fun one => ?_, fun bundle accepted other_accepted => ?_⟩
  · rw [ofJson_eq_ok_iff, ofJson_eq_ok_iff]
    constructor
    · rintro ⟨read, -⟩
      exact ⟨decoder_eq_ok_of_reordered texts.distinct texts.reordered same_first read,
        texts.other_whole⟩
    · rintro ⟨read, -⟩
      exact ⟨decoder_eq_ok_of_reordered (texts.reordered.hasDistinctMembers texts.distinct)
        texts.reordered.symm same_first.symm read, texts.whole⟩
  · have perm := signerNames_perm texts.distinct texts.reordered
    rw [firstSignerName?, firstSignerName?]
    match names : signerNames (Text.read text).document with
    | [] =>
      rw [names, List.nil_perm] at perm
      rw [perm]
    | [name] =>
      rw [names, List.singleton_perm] at perm
      rw [perm]
    | _ :: _ :: _ => simp [names] at one
  · rw [firstSignerName?, firstSignerName?,
      head?_signerNames_of_decoder (ofJson_eq_ok_iff.mp accepted).1,
      head?_signerNames_of_decoder (ofJson_eq_ok_iff.mp other_accepted).1]

section Sample

/-- A signed message with the given material. -/
private def signed (material : Members) : Document :=
  .object [("mediaType", .string BundleVersion.v0_3.mediaType),
    ("verificationMaterial", .object material),
    ("messageSignature", .object [("signature", .string "BAUG")])]

private def certificateMember : String × Document :=
  ("certificate", .object [("rawBytes", .string "AQID")])

private def keyMember : String × Document :=
  ("publicKey", .object [("hint", .string "h")])

private def nullMember : String × Document :=
  ("publicKey", .null)

private def entriesMember : String × Document :=
  ("tlogEntries", .null)

private def sampleBundle : Bundle :=
  Bundle.new (.certificate [1, 2, 3]) (.message ⟨none, [4, 5, 6]⟩)

/-- Two members that hold no more than one text each. -/
private structure IsPlain (first second : String × Document) : Prop where
  names : first.1 ≠ second.1
  isSpelled : first.2.IsSpelled ∧ second.2.IsSpelled
  distinct : first.2.HasDistinctMembers ∧ second.2.HasDistinctMembers

private theorem isSpelled_certificate : certificateMember.2.IsSpelled :=
  .object (List.forall_mem_singleton.mpr (.string _))

private theorem distinct_certificate : certificateMember.2.HasDistinctMembers :=
  .object (List.pairwise_singleton _ _) (List.forall_mem_singleton.mpr (.string _))

private theorem isPlain_key : IsPlain certificateMember keyMember where
  names := by decide
  isSpelled := ⟨isSpelled_certificate, .object (List.forall_mem_singleton.mpr (.string _))⟩
  distinct := ⟨distinct_certificate,
    .object (List.pairwise_singleton _ _) (List.forall_mem_singleton.mpr (.string _))⟩

private theorem isPlain_entries : IsPlain certificateMember entriesMember where
  names := by decide
  isSpelled := ⟨isSpelled_certificate, .null⟩
  distinct := ⟨distinct_certificate, .null⟩

private theorem isPlain_null : IsPlain certificateMember nullMember where
  names := by decide
  isSpelled := ⟨isSpelled_certificate, .null⟩
  distinct := ⟨distinct_certificate, .null⟩

variable {first second : String × Document}

private theorem read_signed (plain : IsPlain first second) :
    Text.read (signed [first, second]).compact = ⟨signed [first, second], true⟩ ∧
      Text.read (signed [second, first]).compact = ⟨signed [second, first], true⟩ := by
  have spelled {material : Members} (inside : ∀ member ∈ material, member.2.IsSpelled) :
      (signed material).IsSpelled := by
    refine .object ?_
    simp only [List.forall_mem_cons]
    exact ⟨.string _, .object inside, .object (List.forall_mem_singleton.mpr (.string _)), nofun⟩
  refine ⟨Text.read_compact (spelled ?_), Text.read_compact (spelled ?_)⟩
  · simpa using plain.isSpelled
  · simpa using plain.isSpelled.symm

private theorem differInOrder_signed (plain : IsPlain first second) :
    DifferInOrder (signed [first, second]).compact (signed [second, first]).compact := by
  obtain ⟨read, other_read⟩ := read_signed plain
  refine ⟨?whole, ?other_whole, ?distinct, ?reordered⟩
  case whole => rw [read]
  case other_whole => rw [other_read]
  case distinct =>
    have names : ["mediaType", "verificationMaterial", "messageSignature"].Nodup := by decide
    rw [read]
    refine .object names ?_
    simp only [List.forall_mem_cons]
    refine ⟨.string _, .object ?_ ?_, .object (List.pairwise_singleton _ _)
      (List.forall_mem_singleton.mpr (.string _)), nofun⟩
    · simpa using plain.names
    · simpa using plain.distinct
  case reordered =>
    rw [read, other_read]
    exact .member [_] "verificationMaterial" [_] (.members (.swap _ _ _))

/-- A certificate and the member that is given for its log entries change places. -/
theorem ofJson_of_differInOrder_sample :
    DifferInOrder (signed [certificateMember, entriesMember]).compact
        (signed [entriesMember, certificateMember]).compact ∧
      firstSignerName? (signed [certificateMember, entriesMember]).compact =
        firstSignerName? (signed [entriesMember, certificateMember]).compact ∧
      ∃ bundle, ofJson (signed [certificateMember, entriesMember]).compact = .ok bundle ∧
        ofJson (signed [entriesMember, certificateMember]).compact = .ok bundle := by
  have texts := differInOrder_signed isPlain_entries
  obtain ⟨read, -⟩ := read_signed isPlain_entries
  have one : (signerNames
      (Text.read (signed [certificateMember, entriesMember]).compact).document).length ≤ 1 := by
    rw [read]
    decide
  have decoded : decoder (signed [certificateMember, entriesMember]) = .ok sampleBundle := by
    decide +kernel
  have accepted :
      ofJson (signed [certificateMember, entriesMember]).compact = .ok sampleBundle := by
    rw [ofJson_eq_ok_iff, read]
    exact ⟨decoded, rfl⟩
  obtain ⟨alike, same_first, -⟩ := ofJson_of_differInOrder texts
  exact ⟨texts, same_first one, sampleBundle, accepted,
    (alike (same_first one) sampleBundle).mp accepted⟩

/-- Texts that differ in order and give bundles with different signing certificates, and such texts
of which only one is accepted. -/
theorem order_matters :
    DifferInOrder (signed [certificateMember, keyMember]).compact
        (signed [keyMember, certificateMember]).compact ∧
      (ofJson (signed [certificateMember, keyMember]).compact).map signingCertificate? =
        .ok (some [1, 2, 3]) ∧
      (ofJson (signed [keyMember, certificateMember]).compact).map signingCertificate? = .ok none ∧
    DifferInOrder (signed [certificateMember, nullMember]).compact
        (signed [nullMember, certificateMember]).compact ∧
      (ofJson (signed [certificateMember, nullMember]).compact).map signingCertificate? =
        .ok (some [1, 2, 3]) ∧
      (ofJson (signed [nullMember, certificateMember]).compact).map signingCertificate? =
        .error (.json .malformed) := by
  refine ⟨differInOrder_signed isPlain_key, ?_, ?_, differInOrder_signed isPlain_null, ?_, ?_⟩
  · rw [ofJson, (read_signed isPlain_key).1]
    decide +kernel
  · rw [ofJson, (read_signed isPlain_key).2]
    decide +kernel
  · rw [ofJson, (read_signed isPlain_null).1]
    decide +kernel
  · rw [ofJson, (read_signed isPlain_null).2]
    decide +kernel

end Sample

end Bundle
end Countersign
