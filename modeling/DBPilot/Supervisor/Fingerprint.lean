import DBPilot.Lib.LengthPrefix
import DBPilot.Supervisor.Calls

/-!
# What a fingerprint tells

The supervisor takes two requests for the same when their fingerprints agree. The
parts under the fingerprint say how long each list is, except for the templates of an
instance: these only begin with a word, which a revision may have as its name. The
fingerprint determines a request, up to the order of the sorted lists, exactly when
these last words can be divided in one valid way.
-/

namespace DBPilot.Supervisor

open Text Plugins
open Wire (utf8)
open LengthPrefix (flatMap_append_inj)

/-- The same request, whatever the order of the lists that are sorted. -/
structure ReconcileRequest.SameUpToOrder (request other : ReconcileRequest) : Prop where
  rest : { request with instanceIDs := [], instanceDescriptors := [], templateIDs := [], templateConfigurations := [] } =
    { other with instanceIDs := [], instanceDescriptors := [], templateIDs := [], templateConfigurations := [] }
  instanceIDs : request.instanceIDs.Perm other.instanceIDs
  instanceDescriptors : request.instanceDescriptors.Perm other.instanceDescriptors
  templateIDs : request.templateIDs.Perm other.templateIDs
  templateConfigurations : request.templateConfigurations.Perm other.templateConfigurations

/-- The last parts of a request. -/
def instanceWords (instances : List InstanceTemplateReferences) : List String :=
  instances.flatMap fun refs => ["instance_templates", refs.instanceID] ++ refs.templates.map (·.revisionID)

/-- The words of the instances can be divided in one valid way. -/
def ReconcileRequest.Unambiguous (request : ReconcileRequest) : Prop :=
  ∀ instances, validTemplateReferences request.templateIDs request.instanceIDs request.templateLeaseCommandID
      request.templateReferences instances = true →
    instanceWords instances = instanceWords request.instanceTemplateRefs → instances = request.instanceTemplateRefs

/-! The texts of the parts. -/

lemma repr_inj {n m : Nat} : n.repr = m.repr ↔ n = m := by
  refine ⟨fun same => LengthPrefix.decimal_injective ?_, congrArg Nat.repr⟩
  rw [← LengthPrefix.utf8_toString, ← LengthPrefix.utf8_toString]
  exact congrArg utf8 same

lemma lengthPrefixed_injective : Function.Injective lengthPrefixed := by
  have fields : ∀ parts, lengthPrefixed parts = LengthPrefix.fields (parts.map utf8) := by
    intro parts
    rw [lengthPrefixed, LengthPrefix.fields, List.flatMap_map]
    exact List.flatMap_congr fun part _ => LengthPrefix.utf8_field part
  intro parts parts' same
  rw [fields, fields] at same
  exact Wire.utf8_injective.list_map (LengthPrefix.fields_injective same)

lemma desiredNumber_injective : Function.Injective desiredNumber := by
  rintro (_ | _ | _) (_ | _ | _) same <;> first | rfl | cases same

section template

open Wire

lemma valueMapping_injective : Function.Injective MetricValueMapping.encoded := by
  rintro ⟨_, _, _, _⟩ ⟨_, _, _, _⟩ same
  have read := congrArg (fun fields => (getBlob 1 fields, getBlob 2 fields, getBlob 3 fields, getBlob 4 fields))
    (encode_injective same)
  simpa [getBlob, text, utf8_injective.eq_iff] using read

lemma labelMapping_injective : Function.Injective MetricLabelMapping.encoded := by
  rintro ⟨_, _⟩ ⟨_, _⟩ same
  have read := congrArg (fun fields => (getBlob 1 fields, getBlob 2 fields)) (encode_injective same)
  simpa [getBlob, text, utf8_injective.eq_iff] using read

lemma templateBytes_injective : Function.Injective templateBytes := by
  rintro ⟨_, _, _, _, _, _, _, _, _, _, _, _⟩ ⟨_, _, _, _, _, _, _, _, _, _, _, _⟩ same
  have read := congrArg (fun fields => (getBlob 1 fields, getNumber 2 fields, getBlob 3 fields, getBlob 4 fields,
    getBlob 5 fields, getNumber 6 fields, getNumber 7 fields, getNumber 8 fields, getNumber 9 fields,
    strings 10 fields, strings 11 fields, getNumber 12 fields)) (encode_injective same)
  simpa [getBlob, getNumber, text, utf8_injective.eq_iff, valueMapping_injective.list_map.eq_iff,
    labelMapping_injective.list_map.eq_iff] using read

end template

/-! The lists of the parts. -/

variable {request other : ReconcileRequest}

lemma perm_of_insertionSort {α : Type} {le : α → α → Prop} [DecidableRel le] {l l' : List α}
    (same : l.insertionSort le = l'.insertionSort le) : l.Perm l' := by
  have sorted := (List.perm_insertionSort le l).symm
  rw [same] at sorted
  exact sorted.trans (List.perm_insertionSort le l')

lemma eq_map_some_of_allSome {α : Type} {values : List (Option α)} {all : List α} (given : values.allSome = some all) :
    values = all.map some := by
  induction values generalizing all with
  | nil => cases given; rfl
  | cons value values ih =>
    simp only [List.allSome, List.mapM_cons, id, Option.bind_eq_bind, Option.bind_eq_some_iff, Option.pure_def,
      Option.some.injEq] at given
    obtain ⟨first, rfl, rest, given, rfl⟩ := given
    rw [List.map_cons, ih given]

lemma configuration_of_valid (valid : request.validate = true) {value : Option MetricTemplateConfiguration}
    (listed : value ∈ request.templateConfigurations) : ∃ template, value = some template := by
  simp only [ReconcileRequest.validate, Bool.and_eq_true] at valid
  have checked := valid.1.1.1.2
  simp only [validTemplateProjection, Bool.or_eq_true, List.isEmpty_iff, Bool.and_eq_true] at checked
  obtain empty | ⟨-, checked⟩ := checked
  · rw [empty] at listed
    cases listed
  · split at checked
    · cases checked
    · rename_i given
      rw [eq_map_some_of_allSome given] at listed
      obtain ⟨template, -, rfl⟩ := List.mem_map.mp listed
      exact ⟨template, rfl⟩

lemma validTemplateReferences_perm {ids ids' instances instances' : List String} (same : ids.Perm ids')
    (same' : instances.Perm instances') (command : String) (references : List TemplateReference)
    (refs : List InstanceTemplateReferences) :
    validTemplateReferences ids instances command references refs =
      validTemplateReferences ids' instances' command references refs := by
  have listed : ∀ id, instances.contains id = instances'.contains id := fun id => same'.contains_eq
  simp only [validTemplateReferences, validPublicTemplateReferences, same.length_eq, same'.length_eq, same.all_eq,
    listed]

/-- The parts determine all but the order of the sorted lists and the division of the last words. -/
lemma sameUpToOrder_of_parts (valid : request.validate = true) (valid' : other.validate = true)
    (same : request.parts = other.parts) :
    { request with instanceTemplateRefs := other.instanceTemplateRefs }.SameUpToOrder other ∧
      instanceWords other.instanceTemplateRefs = instanceWords request.instanceTemplateRefs := by
  simp only [ReconcileRequest.parts, List.append_assoc, List.cons_append, List.nil_append, List.cons.injEq,
    true_and] at same
  obtain ⟨assignment, plugin, family, version, state, artifact, sha, digest, configuration, operation, count, same⟩ :=
    same
  obtain ⟨ids, same⟩ := List.append_inj same (repr_inj.mp count)
  simp only [List.cons.injEq, true_and] at same
  obtain ⟨count, same⟩ := same
  obtain ⟨descriptors, same⟩ := flatMap_append_inj (fun ⟨_, _, _, _⟩ _ ⟨_, _, _, _⟩ _ _ _ same => by
    simpa [and_assoc] using same) (repr_inj.mp count) same
  simp only [List.cons.injEq, true_and] at same
  obtain ⟨count, same⟩ := same
  obtain ⟨templates, same⟩ := List.append_inj same (repr_inj.mp count)
  simp only [List.cons.injEq, true_and, List.map_eq_flatMap] at same
  obtain ⟨complete, count, same⟩ := same
  obtain ⟨configurations, same⟩ := flatMap_append_inj (fun value here value' there _ _ same => by
    obtain ⟨template, rfl⟩ := configuration_of_valid valid ((List.mem_insertionSort _).mp here)
    obtain ⟨template', rfl⟩ := configuration_of_valid valid' ((List.mem_insertionSort _).mp there)
    simpa [hex_injective.eq_iff, templateBytes_injective.eq_iff] using same) (repr_inj.mp count) same
  simp only [List.cons.injEq, true_and] at same
  obtain ⟨command, count, same⟩ := same
  obtain ⟨references, words⟩ := flatMap_append_inj (fun ⟨_, _, _, _, _, _, _⟩ _ ⟨_, _, _, _, _, _, _⟩ _ _ _ same => by
    simpa [TemplateReference.parts, hex_injective.eq_iff, repr_inj, and_assoc] using same)
    (repr_inj.mp count) same
  refine ⟨⟨?_, perm_of_insertionSort ids, perm_of_insertionSort descriptors, perm_of_insertionSort templates,
    perm_of_insertionSort configurations⟩, ?_⟩
  · have desired := desiredNumber_injective (repr_inj.mp state)
    have complete : request.credentialsComplete = other.credentialsComplete := by
      revert complete
      cases request.credentialsComplete <;> cases other.credentialsComplete <;> decide
    simp only [assignment, plugin, family, version, desired, artifact, hex_injective sha, hex_injective digest,
      repr_inj.mp configuration, repr_inj.mp operation, complete, command, references]
  · simpa [instanceWords, List.map_eq_flatMap] using words.symm

/-- A fingerprint determines its request, up to the order of the sorted lists, exactly when the words of the
instances can be divided in one way. -/
theorem fingerprint_determines_iff [Hash] (collisionless : Function.Injective Hash.sum256)
    (valid : request.validate = true) :
    (∀ other : ReconcileRequest, other.validate = true → request.fingerprint = other.fingerprint →
      request.SameUpToOrder other) ↔ request.Unambiguous := by
  constructor
  · intro determined instances checked words
    have parts : request.parts = { request with instanceTemplateRefs := instances }.parts :=
      congrArg (List.append _) words.symm
    have accepted : { request with instanceTemplateRefs := instances }.validate = true := by
      simp only [ReconcileRequest.validate, Bool.and_eq_true] at valid ⊢
      exact ⟨⟨⟨valid.1.1.1, checked⟩, valid.1.2⟩, valid.2⟩
    have alike := determined _ accepted (congrArg (fun parts => hex (Hash.sum256 (lengthPrefixed parts))) parts)
    exact (congrArg (·.instanceTemplateRefs) alike.rest).symm
  · intro unambiguous other accepted same
    have parts := lengthPrefixed_injective (collisionless (hex_injective same))
    obtain ⟨alike, words⟩ := sameUpToOrder_of_parts valid accepted parts
    have command : request.templateLeaseCommandID = other.templateLeaseCommandID :=
      congrArg (·.templateLeaseCommandID) alike.rest
    have references : request.templateReferences = other.templateReferences :=
      congrArg (·.templateReferences) alike.rest
    have checked : validTemplateReferences request.templateIDs request.instanceIDs request.templateLeaseCommandID
        request.templateReferences other.instanceTemplateRefs = true := by
      rw [validTemplateReferences_perm alike.templateIDs alike.instanceIDs, command, references]
      simp only [ReconcileRequest.validate, Bool.and_eq_true] at accepted
      exact accepted.1.1.2
    rw [unambiguous _ checked words] at alike
    exact alike

/-! A revision named as the marker and one named as an instance. -/

def leasedTemplates : List TemplateReference :=
  [("a", "1"), ("b", "instance_templates"), ("c", "second")].map fun (id, revision) =>
    ⟨id, revision, List.replicate 32 0, 1, 1, 1, 1⟩

def leasedRequest (instances : List InstanceTemplateReferences) : ReconcileRequest :=
  { upgradeRequest with
    instanceIDs := ["first", "second"]
    templateIDs := ["a", "b", "c"]
    templateLeaseCommandID := "lease"
    templateReferences := leasedTemplates
    instanceTemplateRefs := instances }

def firstOnly : ReconcileRequest := leasedRequest [⟨"first", leasedTemplates⟩, ⟨"second", []⟩]

def divided : ReconcileRequest :=
  leasedRequest [⟨"first", leasedTemplates.take 1⟩, ⟨"second", leasedTemplates.drop 1⟩]

theorem fingerprint_determines_firstOnly :
    (∀ other, other.validate = true →
      @ReconcileRequest.fingerprint ⟨id⟩ firstOnly = @ReconcileRequest.fingerprint ⟨id⟩ other →
      firstOnly.SameUpToOrder other) ↔ firstOnly.Unambiguous :=
  @fingerprint_determines_iff _ ⟨id⟩ Function.injective_id (by decide)

/-- The words of the two are the same: only the division differs. -/
theorem fingerprint_of_divided : firstOnly.validate = true ∧ divided.validate = true ∧
    ¬ firstOnly.SameUpToOrder divided ∧ ∀ [Hash], firstOnly.fingerprint = divided.fingerprint := by
  refine ⟨by decide, by decide, fun alike => ?_, fun {_} => ?_⟩
  · exact absurd (congrArg (·.instanceTemplateRefs) alike.rest) (by decide)
  · exact congrArg (fun parts => hex (Hash.sum256 (lengthPrefixed parts))) (by decide)

end DBPilot.Supervisor
