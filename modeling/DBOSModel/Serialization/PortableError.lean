import DBOSModel.Serialization.Portable

/-!
# Portable errors

`serialize_exception` and `deserialize_exception` of `dbos/_serialization.py`. Portable text holds a
name, a message, a code and data, which the encoder takes from the class and the attributes of an
arbitrary exception. The decoder makes a `PortableWorkflowError` of them, whatever the class was.

An error that is encoded again after that is an exception of the class `PortableWorkflowError`, and
the name it carries in a field is not read.
-/

namespace DBOSModel.Portable

open Relational SysDb

/-! ## Exceptions -/

structure PortableWorkflowError where
  message : PyValue
  name : PyValue
  code : PyValue := .none
  data : PyValue := .none

/-- What `getattr` returns for an attribute that can be read. -/
structure Attribute where
  value : PyValue
  callable : Bool := false
  /-- `_safe_str` of the value. -/
  safeStr : String

/-- What the encoder reads of an exception. -/
structure PyException where
  typeName : String
  /-- `_safe_str` of the exception. -/
  safeStr : String
  getattr : String → Option Attribute

/-- The texts that Python has for values and for errors. -/
structure Texts where
  str : PyValue → String
  /-- `repr`, as the dataclass has it. -/
  repr : PortableWorkflowError → String

/-- `__str__` returns the message, which only a string may be; `_safe_str` falls back to `repr`. -/
def PortableWorkflowError.safeStr (texts : Texts) (err : PortableWorkflowError) : String :=
  match err.message with
  | .str text => text
  | _ => texts.repr err

/-- The fields are the only attributes that the encoder can find. -/
def PortableWorkflowError.toException (texts : Texts) (err : PortableWorkflowError) :
    PyException where
  typeName := "PortableWorkflowError"
  safeStr := err.safeStr texts
  getattr
    | "message" => some { value := err.message, safeStr := texts.str err.message }
    | "name" => some { value := err.name, safeStr := texts.str err.name }
    | "code" => some { value := err.code, safeStr := texts.str err.code }
    | "data" => some { value := err.data, safeStr := texts.str err.data }
    | _ => none

/-! ## Encoding -/

/-- `isinstance(v, (int, str)) or v is None`; a boolean is an `int`. -/
def isCode : PyValue → Bool
  | .none | .bool _ | .int _ | .str _ => true
  | _ => false

/-- `_extract_code`. -/
def extractCode (err : PyException) : PyValue :=
  let attributes := ["code", "error_code", "errno", "status", "status_code"].filterMap err.getattr
  ((attributes.map Attribute.value).find? isCode).getD .none

/-- The portable form of an attribute, or its text where it has none. -/
def Attribute.portable (attr : Attribute) : PyValue :=
  match portableify attr.value with
  | .ok value => value
  | .error _ => .str attr.safeStr

/-- The first attribute with data. -/
def extractData (err : PyException) : Option PyValue :=
  let attributes :=
    ["data", "details", "payload", "extra", "meta", "metadata"].filterMap err.getattr
  (attributes.find? fun attr ↦ !attr.callable).map Attribute.portable

/-- `exception_to_workflow_error_data`. -/
def exceptionToWorkflowErrorData (err : PyException) : PyValue :=
  let out := [(.str "name", .str err.typeName), (.str "message", .str err.safeStr),
    (.str "code", extractCode err)]
  .mapping <|
    match extractData err with
    | some data => out ++ [(.str "data", data)]
    | none => out

/-- `to_error_data`. -/
def PortableWorkflowError.toErrorData (err : PortableWorkflowError) : PyValue :=
  .mapping <| [(.str "name", err.name), (.str "message", err.message)] ++
    (match err.code with | .none => [] | code => [(.str "code", code)]) ++
    (match err.data with | .none => [] | data => [(.str "data", data)])

/-- A Python object, as the serializers see it. -/
inductive PyObject where
  | value (v : PyValue)
  | exception (err : PyException)
  | portableWorkflowError (err : PortableWorkflowError)

/-- `DBOSPortableJSON`, on any object. -/
def portableObjectJSON (json : Codec) : Serializer PyObject where
  name := portableName
  serialize
    | .value v => (portableJSON json).serialize v
    | .exception err => .error <| .typeError <|
      "Object of type " ++ err.typeName ++ " is not portable JSON serializable"
    | .portableWorkflowError _ => .error <| .typeError
      "Object of type PortableWorkflowError is not portable JSON serializable"
  deserialize text := do
    let v ← json.loads text
    pure (.value v)

section

variable (serializers : Serializers PyObject)

/-- `serialize_exception`. -/
def serializeException (value : PyException) (serialization : Option String) :
    Except DBOSError (String × String) :=
  let serialization := serialization.getD serializers.configured.name
  let object :=
    if serialization = portableName then .value (exceptionToWorkflowErrorData value)
    else .exception value
  serializers.serializeValueAs object (some serialization)

/-! ## Decoding -/

/-- `errdata[key]`. -/
def getRequired (items : List (PyKey × PyValue)) (key : String) : Except DBOSError PyValue :=
  match getItem items key with
  | some value => .ok value
  | none => .error (.exception ("'" ++ key ++ "'"))

/-- What `errdata[key]` raises on a value that is not a map. -/
def notSubscriptable : PyValue → DBOSError
  | .none => .typeError "'NoneType' object is not subscriptable"
  | .bool _ => .typeError "'bool' object is not subscriptable"
  | .int _ => .typeError "'int' object is not subscriptable"
  | .float _ => .typeError "'float' object is not subscriptable"
  | .str _ => .typeError "string indices must be integers, not 'str'"
  | _ => .typeError "list indices must be integers or slices, not str"

/-- The error that portable text stands for. -/
def errorOfPortable : PyValue → Except DBOSError PortableWorkflowError
  | .mapping items => do
    let message ← getRequired items "message"
    let name ← getRequired items "name"
    pure
      { message := message
        name := name
        code := (getItem items "code").getD .none
        data := (getItem items "data").getD .none }
  | value => .error (notSubscriptable value)

/-- `deserialize_exception`. -/
def deserializeException (serializedValue serialization : Option String) :
    Except DBOSError PyObject :=
  let serialization := serialization.getD serializers.configured.name
  match serializedValue with
  | none => .ok (.value .none)
  | some _ => do
    let value ← serializers.deserializeValue serializedValue (some serialization)
    match value with
    | .value errdata =>
      if serialization = portableName then do
        let err ← errorOfPortable errdata
        pure (.portableWorkflowError err)
      else pure value
    | _ => pure value

end

/-! ## The second encoding -/

section

variable (texts : Texts) (err : PortableWorkflowError)

@[simp]
theorem extractCode_toException :
    extractCode (err.toException texts) = if isCode err.code then err.code else .none := by
  by_cases hcode : isCode err.code
  · simp [extractCode, PortableWorkflowError.toException, hcode]
  · simp [extractCode, PortableWorkflowError.toException, hcode]

theorem extractData_toException (hdata : err.data.IsJson) :
    extractData (err.toException texts) = some err.data := by
  simp [extractData, PortableWorkflowError.toException, Attribute.portable,
    portableify_of_isJson hdata]

/-- A portable error is encoded under the name of its class. -/
theorem exceptionToWorkflowErrorData_toException (hdata : err.data.IsJson) :
    exceptionToWorkflowErrorData (err.toException texts) =
      .mapping [(.str "name", .str "PortableWorkflowError"),
        (.str "message", .str (err.safeStr texts)),
        (.str "code", if isCode err.code then err.code else .none),
        (.str "data", err.data)] := by
  rw [exceptionToWorkflowErrorData, extractData_toException texts err hdata,
    extractCode_toException]
  rfl

theorem isJson_errorData (hcode : err.code.IsJson) (hdata : err.data.IsJson) :
    (exceptionToWorkflowErrorData (err.toException texts)).IsJson := by
  rw [exceptionToWorkflowErrorData_toException texts err hdata]
  apply isJson_mapping.mpr
  refine ⟨by simp, by simp, ?_⟩
  intro v hv
  simp only [List.map_cons, List.map_nil, List.mem_cons, List.not_mem_nil, or_false] at hv
  rcases hv with rfl | rfl | rfl | rfl
  · exact isJson_str _
  · exact isJson_str _
  · split
    · exact hcode
    · exact isJson_none
  · exact hdata

/-- The error that comes back. -/
def PortableWorkflowError.encodedTwice : PortableWorkflowError where
  message := .str (err.safeStr texts)
  name := .str "PortableWorkflowError"
  code := if isCode err.code then err.code else .none
  data := err.data

theorem errorOfPortable_errorData (hdata : err.data.IsJson) :
    errorOfPortable (exceptionToWorkflowErrorData (err.toException texts)) =
      .ok (err.encodedTwice texts) := by
  rw [exceptionToWorkflowErrorData_toException texts err hdata]
  simp [errorOfPortable, getRequired, getItem, PortableWorkflowError.encodedTwice, bind,
    Except.bind, pure, Except.pure]

/-- The error that comes back is the one that went in. -/
theorem encodedTwice_eq_iff :
    err.encodedTwice texts = err ↔
      err.name = .str "PortableWorkflowError" ∧ (∃ text, err.message = .str text) ∧
        isCode err.code := by
  obtain ⟨message, name, code, data⟩ := err
  simp only [PortableWorkflowError.encodedTwice, PortableWorkflowError.mk.injEq, and_true]
  constructor
  · rintro ⟨hmessage, hname, hcode⟩
    refine ⟨hname.symm, ⟨_, hmessage.symm⟩, ?_⟩
    by_cases h : isCode code
    · exact h
    · rw [if_neg h] at hcode
      rw [← hcode]
      rfl
  · rintro ⟨hname, ⟨text, hmessage⟩, hcode⟩
    subst hmessage
    exact ⟨rfl, hname.symm, if_pos hcode⟩

end

section RoundTrip

variable {json : Codec} {serializers : Serializers PyObject}

/-- `serialize_exception`, and `deserialize_exception` on what it returns. -/
def encodeError (serializers : Serializers PyObject) (err : PyException)
    (serialization : Option String) : Except DBOSError PyObject := do
  let (text, name) ← serializeException serializers err serialization
  deserializeException serializers (some text) (some name)

/-- Every error comes back as `encodedTwice` says. -/
theorem encodeError_toException (hportable : serializers.portable = portableObjectJSON json)
    {serialization : Option String}
    (hserialization : serialization.getD serializers.configured.name = portableName)
    (texts : Texts) (err : PortableWorkflowError) (hcode : err.code.IsJson)
    (hdata : err.data.IsJson)
    (hjson : json.Undoes (exceptionToWorkflowErrorData (err.toException texts))) :
    encodeError serializers (err.toException texts) serialization =
      .ok (.portableWorkflowError (err.encodedTwice texts)) := by
  obtain ⟨text, hdumps, hloads⟩ := hjson
  let errdata := exceptionToWorkflowErrorData (err.toException texts)
  have hselect : serializers.select (some portableName) = .ok (portableObjectJSON json) := by
    rw [Serializers.select_portable, hportable]
  have hserialize : (portableObjectJSON json).serialize (.value errdata) = .ok text :=
    bind_eq_ok.mpr ⟨errdata, portableify_of_isJson (isJson_errorData texts err hcode hdata), hdumps⟩
  have hencode : serializeException serializers (err.toException texts) serialization =
      .ok (text, portableName) := by
    rw [serializeException, hserialization, if_pos rfl]
    exact bind_eq_ok.mpr ⟨_, hselect, bind_eq_ok.mpr ⟨text, hserialize, rfl⟩⟩
  have hvalue : serializers.deserializeValue (some text) (some portableName) =
      .ok (.value errdata) :=
    bind_eq_ok.mpr ⟨_, hselect, bind_eq_ok.mpr ⟨errdata, hloads, rfl⟩⟩
  have hdecode : deserializeException serializers (some text) (some portableName) =
      .ok (.portableWorkflowError (err.encodedTwice texts)) := by
    apply bind_eq_ok.mpr
    refine ⟨.value errdata, hvalue, ?_⟩
    exact bind_eq_ok.mpr ⟨_, errorOfPortable_errorData texts err hdata, rfl⟩
  exact bind_eq_ok.mpr ⟨(text, portableName), hencode, hdecode⟩

/-- A portable error survives a second encoding exactly if its name is that of its class; a message
that is no string and a code of another type than declared are lost as well. -/
theorem encodeError_eq_self_iff (hportable : serializers.portable = portableObjectJSON json)
    {serialization : Option String}
    (hserialization : serialization.getD serializers.configured.name = portableName)
    (texts : Texts) (err : PortableWorkflowError) (hcode : err.code.IsJson)
    (hdata : err.data.IsJson)
    (hjson : json.Undoes (exceptionToWorkflowErrorData (err.toException texts))) :
    encodeError serializers (err.toException texts) serialization =
        .ok (.portableWorkflowError err) ↔
      err.name = .str "PortableWorkflowError" ∧ (∃ text, err.message = .str text) ∧
        isCode err.code := by
  rw [encodeError_toException hportable hserialization texts err hcode hdata hjson,
    Except.ok.injEq, PyObject.portableWorkflowError.injEq]
  exact encodedTwice_eq_iff texts err

end RoundTrip

/-! ## A deduplication error -/

/-- `_is_queue_deduplicated_error`. -/
def isQueueDeduplicatedError : PyObject → Bool
  | .exception err => err.typeName = "DBOSQueueDeduplicatedError"
  | .portableWorkflowError err =>
    match err.name with
    | .str name => name = "DBOSQueueDeduplicatedError"
    | _ => false
  | .value _ => false

def dedupMessage : String :=
  "Workflow w was deduplicated due to an existing workflow in queue q with deduplication ID d."

/-- `json`, on the encoding of an error with that message and nothing more. -/
def dedupJson : Codec where
  dumps _ := .ok ("\x7b\"name\":\"PortableWorkflowError\",\"message\":\"" ++ dedupMessage ++
    "\",\"code\":null,\"data\":null\x7d")
  loads _ := .ok (.mapping [(.str "name", .str "PortableWorkflowError"),
    (.str "message", .str dedupMessage), (.str "code", .none), (.str "data", .none)])

def dedupSerializers : Serializers PyObject where
  pyNone := .value .none
  portable := portableObjectJSON dedupJson
  native :=
    { name := defaultName
      serialize _ := .error (.typeError "cannot pickle object")
      deserialize _ := .error (.exception "pickle data was truncated") }
  configured := portableObjectJSON dedupJson
  portable_name := rfl
  native_name := rfl

def plainTexts : Texts where
  str
    | .none => "None"
    | .str text => text
    | _ => "<unprintable>"
  repr _ := "<unprintable>"

theorem encodeError_eq_self_iff_plain :
    encodeError dedupSerializers
        (PortableWorkflowError.toException plainTexts
          { message := .str dedupMessage, name := .str "PortableWorkflowError" }) none =
      .ok (.portableWorkflowError
        { message := .str dedupMessage, name := .str "PortableWorkflowError" }) := by
  have hportable : dedupSerializers.portable = portableObjectJSON dedupJson := rfl
  apply (encodeError_eq_self_iff hportable rfl plainTexts _ isJson_none isJson_none
    ⟨_, rfl, rfl⟩).mpr
  exact ⟨rfl, ⟨dedupMessage, rfl⟩, rfl⟩

/-- What a checkpoint holds of a deduplication error. -/
def dedupError : PortableWorkflowError where
  message := .str dedupMessage
  name := .str "DBOSQueueDeduplicatedError"

/-- Recorded again, a deduplication error is no longer recognized as one. -/
theorem dedupError_loses_name :
    isQueueDeduplicatedError (.portableWorkflowError dedupError) ∧
      ∃ object, encodeError dedupSerializers (dedupError.toException plainTexts)
          (some portableName) = .ok object ∧
        object ≠ .portableWorkflowError dedupError ∧ ¬ isQueueDeduplicatedError object := by
  refine ⟨rfl, .portableWorkflowError (dedupError.encodedTwice plainTexts), rfl, ?_, ?_⟩
  · intro h
    simp [PortableWorkflowError.encodedTwice, dedupError] at h
  · simp [PortableWorkflowError.encodedTwice, isQueueDeduplicatedError]

end DBOSModel.Portable
