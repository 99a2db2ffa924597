import RunBoard.Proofs.Wire.RoundTrip

/-!
# The wire format of the gateway reads back

Every type that travels to or from the gateway has a lawful schema. So whatever a JSON value
was read as is read again from what is written of it, be it that the value was an object or
the array of its fields, with or without the members that have defaults.
-/

namespace RunBoard.Wire

/-! ## Scalars and enumerations -/

@[simp]
theorem text_lawful : Schema.text.Lawful := fun _ => rfl

@[simp]
theorem boolean_lawful : Schema.boolean.Lawful := fun _ => rfl

@[simp]
theorem float_lawful : Schema.float.Lawful := fun _ => rfl

@[simp]
theorem time_lawful : Schema.time.Lawful := by
  intro time
  simp [Scalar.time, Timestamp.ofMillis?_millis]

/-- Bounds that every value is within lose none. -/
theorem bounded_lawful {α : Type} {name : String} {least greatest : Int} {ofInt : Int → α}
    {toInt : α → Int} (within : ∀ value, least ≤ toInt value ∧ toInt value ≤ greatest)
    (inverse : ∀ value, ofInt (toInt value) = value) :
    (Schema.scalar (Scalar.bounded name least greatest ofInt toInt)).Lawful := by
  intro value
  simp [Scalar.bounded, within value, inverse]

@[simp]
theorem uint64_lawful : (Schema.scalar Scalar.uint64).Lawful := by
  refine bounded_lawful (fun value => ?_) fun value => ?_
  · have := value.toNat_lt
    omega
  · simp

@[simp]
theorem int64_lawful : (Schema.scalar Scalar.int64).Lawful := by
  refine bounded_lawful (fun value => ⟨?_, ?_⟩) fun value => ?_
  · exact Int64.le_toInt value
  · have := Int64.toInt_lt value
    omega
  · simp

/-- The names of an enumeration have to tell its values apart, and it has to have them all. -/
theorem enumeration_lawful {α : Type} {values : List α} {nameOf : α → String}
    (found : ∀ value, findName (nameOf value) (values.map fun value => (nameOf value, value)) =
      some value) : (Schema.enumeration values nameOf).Lawful :=
  found

@[simp]
theorem runStatus_lawful : runStatus.Lawful :=
  enumeration_lawful fun status => by cases status <;> decide

@[simp]
theorem nodeStatus_lawful : nodeStatus.Lawful :=
  enumeration_lawful fun status => by cases status <;> decide

@[simp]
theorem jobState_lawful : jobState.Lawful :=
  enumeration_lawful fun state => by cases state <;> decide

/-! ## Fields -/

section Fields

variable {α γ σ : Type} (name : String) (value : α) (schema : Schema α) (rest : Fields γ σ)

@[simp]
theorem lawful_done : Fields.done.Lawful := trivial

@[simp]
theorem lawful_required :
    (Fields.required name schema rest).Lawful ↔ schema.Lawful ∧ rest.Lawful := by
  simp [Fields.required, FieldRule.required, Fields.Lawful]

@[simp]
theorem lawful_defaulting :
    (Fields.defaulting name value schema rest).Lawful ↔ schema.Lawful ∧ rest.Lawful := by
  simp [Fields.defaulting, FieldRule.defaulting, Fields.Lawful]

@[simp]
theorem lawful_optional :
    (Fields.optional name schema rest).Lawful ↔
      (schema.Lawful ∧ schema.NeverNull) ∧ rest.Lawful := by
  simp [Fields.optional, FieldRule.defaulting, Fields.Lawful, Schema.Lawful]

/-- A field that is left out when it is unset is read as unset when it is not there. -/
@[simp]
theorem lawful_unsetOmitted :
    (Fields.field name .unsetOmitted (.optional schema) rest).Lawful ↔
      (schema.Lawful ∧ schema.NeverNull) ∧ rest.Lawful := by
  have unset (value : Option α) (omitted : value.isNone = true) :
      FieldRule.unsetOmitted.absent = some value := by
    rw [Option.isNone_iff_eq_none.mp omitted]
    rfl
  exact ⟨fun law => ⟨law.1, law.2.2⟩, fun law => ⟨law.1, unset, law.2⟩⟩

@[simp]
theorem names_done : Fields.done.names = [] := rfl

@[simp]
theorem names_field (rule : FieldRule α) :
    (Fields.field name rule schema rest).names = name :: rest.names := rfl

@[simp]
theorem names_required : (Fields.required name schema rest).names = name :: rest.names := rfl

@[simp]
theorem names_defaulting :
    (Fields.defaulting name value schema rest).names = name :: rest.names := rfl

@[simp]
theorem names_optional : (Fields.optional name schema rest).names = name :: rest.names := rfl

@[simp]
theorem lawful_list : (Schema.list schema).Lawful ↔ schema.Lawful := Iff.rfl

@[simp]
theorem lawful_keyed : (Schema.keyed schema).Lawful ↔ schema.Lawful := Iff.rfl

@[simp]
theorem lawful_json : Schema.json.Lawful := trivial

@[simp]
theorem lawful_record (fields : Fields γ σ) (make : γ → α) (parts : α → γ) :
    (Schema.record name fields make parts).Lawful ↔
      fields.Lawful ∧ fields.names.Nodup ∧ ∀ value, make (parts value) = value := Iff.rfl

@[simp]
theorem neverNull_text : Schema.text.NeverNull := nofun

@[simp]
theorem neverNull_time : Schema.time.NeverNull := fun _ => Json.noConfusion

@[simp]
theorem neverNull_list : (Schema.list schema).NeverNull := trivial

end Fields

/-! ## Records -/

@[simp]
theorem dataType_lawful : dataType.Lawful := by simp [dataType]

@[simp]
theorem typedValue_lawful : typedValue.Lawful := by simp [typedValue]

@[simp]
theorem nodeError_lawful : nodeError.Lawful := by simp [nodeError]

@[simp]
theorem neverNull_typedValue : typedValue.NeverNull := trivial

@[simp]
theorem neverNull_nodeError : nodeError.NeverNull := trivial

@[simp]
theorem nodeResult_lawful : nodeResult.Lawful := by simp [nodeResult]

@[simp]
theorem neverNull_nodeResult : nodeResult.NeverNull := trivial

@[simp]
theorem nodeState_lawful : nodeState.Lawful := by simp [nodeState]

@[simp]
theorem runState_lawful : runState.Lawful := by simp [runState]

@[simp]
theorem user_lawful : user.Lawful := by simp [user]

@[simp]
theorem package_lawful : package.Lawful := by simp [package]

@[simp]
theorem run_lawful : run.Lawful := by simp [run]

@[simp]
theorem runPatch_lawful : runPatch.Lawful := by simp [runPatch]

@[simp]
theorem paramDef_lawful : paramDef.Lawful := by simp [paramDef]

@[simp]
theorem reference_lawful : reference.Lawful := by simp [reference]

/-- The kinds of input have names of their own, and every input is of one kind. -/
@[simp]
theorem input_lawful : input.Lawful := by
  refine ⟨?_, by decide, fun value => ?_⟩
  · simp only [Cases.Lawful, typedValue_lawful, text_lawful, reference_lawful, true_and, and_true]
    refine ⟨?_, ?_, ?_⟩ <;> intro value inner taken <;> cases value <;> cases taken <;> rfl
  · cases value <;> simp [Cases.Takes]

@[simp]
theorem graphNode_lawful : graphNode.Lawful := by simp [graphNode]

@[simp]
theorem workflow_lawful : workflow.Lawful := by simp [workflow]

@[simp]
theorem argDef_lawful : argDef.Lawful := by simp [argDef]

@[simp]
theorem jobStatus_lawful : jobStatus.Lawful := by simp [jobStatus]

@[simp]
theorem job_lawful : job.Lawful := by simp [job]

/-! ## Everything that travels -/

/-- The types that travel. -/
inductive WireType where
  | user | package | nodeError | nodeResult | nodeState | runState | run | runList | runPatch
  | logLine | artifact | metric
  | dataType | typedValue | paramDef | reference | input | graphNode | workflow | workflowList
  | argDef | operator
  | jobStatus | job | jobList
  | runStatus | nodeStatus | jobState
  deriving DecidableEq, Repr

namespace WireType

/-- The values of a type. -/
abbrev Value : WireType → Type
  | user => User
  | package => Package
  | nodeError => NodeError
  | nodeResult => NodeResult
  | nodeState => NodeState
  | runState => RunState
  | run => Run
  | runList => RunList
  | runPatch => RunPatch
  | logLine => LogLine
  | artifact => Artifact
  | metric => Metric
  | dataType => DataType
  | typedValue => TypedValue
  | paramDef => ParamDef
  | reference => Reference
  | input => Input
  | graphNode => GraphNode
  | workflow => Workflow
  | workflowList => WorkflowList
  | argDef => ArgDef
  | operator => Operator
  | jobStatus => JobStatus
  | job => Job
  | jobList => JobList
  | runStatus => RunStatus
  | nodeStatus => NodeStatus
  | jobState => JobState

def schema : (type : WireType) → Schema type.Value
  | user => Wire.user
  | package => Wire.package
  | nodeError => Wire.nodeError
  | nodeResult => Wire.nodeResult
  | nodeState => Wire.nodeState
  | runState => Wire.runState
  | run => Wire.run
  | runList => Wire.runList
  | runPatch => Wire.runPatch
  | logLine => Wire.logLine
  | artifact => Wire.artifact
  | metric => Wire.metric
  | dataType => Wire.dataType
  | typedValue => Wire.typedValue
  | paramDef => Wire.paramDef
  | reference => Wire.reference
  | input => Wire.input
  | graphNode => Wire.graphNode
  | workflow => Wire.workflow
  | workflowList => Wire.workflowList
  | argDef => Wire.argDef
  | operator => Wire.operator
  | jobStatus => Wire.jobStatus
  | job => Wire.job
  | jobList => Wire.jobList
  | runStatus => Wire.runStatus
  | nodeStatus => Wire.nodeStatus
  | jobState => Wire.jobState

theorem lawful_schema (type : WireType) : type.schema.Lawful := by
  cases type
  case runList => simp [schema, Wire.runList]
  case logLine => simp [schema, Wire.logLine]
  case artifact => simp [schema, Wire.artifact]
  case metric => simp [schema, Wire.metric]
  case workflowList => simp [schema, Wire.workflowList]
  case operator => simp [schema, Wire.operator]
  case jobList => simp [schema, Wire.jobList]
  all_goals simp [schema]

/-- Whatever a JSON value is read as, it is read as the same from what is written of it; and
what cannot be read is refused as before. -/
theorem decode_encode_decode (type : WireType) (json : Json) :
    (do
      let value ← decode type.schema json
      decode type.schema (encode type.schema value)) = decode type.schema json := by
  cases read : decode type.schema json with
  | error cause => rfl
  | ok value => exact type.lawful_schema.decode_encode type.schema value

/-- The array of the fields of a job status, and the object that is written of it. -/
example :
    decode Wire.jobStatus (.arr [.str "Running", .int 5]) =
      .ok ⟨.running, ⟨5, by decide, by decide⟩, none⟩ ∧
    encode Wire.jobStatus ⟨.running, ⟨5, by decide, by decide⟩, none⟩ =
      .obj [("message", .null), ("state", .str "Running"), ("time", .int 5)] :=
  ⟨rfl, rfl⟩

end WireType

end RunBoard.Wire
