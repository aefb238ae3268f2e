import DBOSModel.Relational.Transaction
import DBOSModel.SysDb.Schema

/-!
# Serialized values

`dbos/_serialization.py`, for values of an arbitrary type `V`. A serializer turns a value into text
and back, and either direction may raise. Two serializers are always available, the portable JSON
one and the pickle one; a third is the configured one. A serialized value is stored with the name of
its serializer.

A value read back from its text need not be the value that was written: portable JSON reads a tuple
as a list. What the retried operations rely on is weaker: a value that was itself read from text is
read back after it was written again (`Serializer.Stable`).
-/

namespace DBOSModel.SysDb

structure Serializer (V : Type) where
  name : String
  serialize : V → Except DBOSError String
  deserialize : String → Except DBOSError V

namespace Serializer

variable {V : Type} (s : Serializer V)

/-- The value is read back from its text. -/
def RoundTrips (value : V) : Prop :=
  ∀ text, s.serialize value = .ok text → s.deserialize text = .ok value

/-- Values that came from text are read back, and so is `None`. -/
def Stable (pyNone : V) : Prop :=
  s.RoundTrips pyNone ∧ ∀ value source, s.deserialize source = .ok value → s.RoundTrips value

end Serializer

def portableName : String := "portable_json"

def defaultName : String := "py_pickle"

/-- The serializers of a system database, and the value `None`. -/
structure Serializers (V : Type) where
  pyNone : V
  portable : Serializer V
  native : Serializer V
  configured : Serializer V
  portable_name : portable.name = portableName
  native_name : native.name = defaultName

namespace Serializers

variable {V : Type} (serializers : Serializers V)

/-- The serializer that a stored name selects; `None` selects the configured one. -/
def select (serialization : Option String) : Except DBOSError (Serializer V) :=
  if serialization = some portableName then .ok serializers.portable
  else if serialization = some defaultName then .ok serializers.native
  else if serialization.isSome ∧ serialization ≠ some serializers.configured.name then
    .error (.typeError ("Serialization " ++ serialization.getD "" ++ " is not available"))
  else .ok serializers.configured

/-- `serialize_value_as`. -/
def serializeValueAs (value : V) (serialization : Option String) :
    Except DBOSError (String × String) := do
  let s ← serializers.select serialization
  let text ← s.serialize value
  pure (text, s.name)

/-- `deserialize_value`. -/
def deserializeValue (serializedValue serialization : Option String) : Except DBOSError V :=
  match serializedValue with
  | none => .ok serializers.pyNone
  | some text => do
    let s ← serializers.select serialization
    s.deserialize text

/-- What the operations rely on; a configured serializer with the name of a built-in one is that
one. -/
structure Lawful : Prop where
  portable : serializers.portable.Stable serializers.pyNone
  native : serializers.native.Stable serializers.pyNone
  configured : serializers.configured.Stable serializers.pyNone
  portable_unique : serializers.configured.name = portableName →
    serializers.configured = serializers.portable
  native_unique : serializers.configured.name = defaultName →
    serializers.configured = serializers.native

end Serializers

/-- `WorkflowSerializationFormat`. -/
inductive WorkflowSerializationFormat where
  | portable
  | native
  | default
deriving DecidableEq

/-- `serialize_value`. -/
def Serializers.serializeValue {V : Type} (serializers : Serializers V) (value : V)
    (format : WorkflowSerializationFormat) : Except DBOSError (String × String) :=
  serializers.serializeValueAs value <| some <|
    match format with
    | .portable => portableName
    | .native => defaultName
    | .default => serializers.configured.name

namespace Serializers

open Relational

variable {V : Type} {serializers : Serializers V}

theorem select_portable : serializers.select (some portableName) = .ok serializers.portable :=
  if_pos rfl

theorem select_native : serializers.select (some defaultName) = .ok serializers.native := by
  simp [select, portableName, defaultName]

/-- The three ways a name selects a serializer. -/
theorem select_eq_ok {serialization : Option String} {s : Serializer V}
    (h : serializers.select serialization = .ok s) :
    s = serializers.portable ∨ s = serializers.native ∨ s = serializers.configured := by
  unfold select at h
  split at h
  · cases h
    exact Or.inl rfl
  · split at h
    · cases h
      exact Or.inr (Or.inl rfl)
    · split at h
      · cases h
      · cases h
        exact Or.inr (Or.inr rfl)

/-- Only the name of a serializer that the process does not have selects none. -/
theorem select_eq_error {serialization : Option String} {error : DBOSError}
    (h : serializers.select serialization = .error error) :
    error = .typeError ("Serialization " ++ serialization.getD "" ++ " is not available") := by
  unfold select at h
  split at h
  · cases h
  · split at h
    · cases h
    · split at h
      · cases h
        rfl
      · cases h

/-- The name of a selected serializer selects it again. -/
theorem select_name (hlawful : serializers.Lawful) {serialization : Option String}
    {s : Serializer V} (h : serializers.select serialization = .ok s) :
    serializers.select (some s.name) = .ok s := by
  rcases select_eq_ok h with rfl | rfl | rfl
  · rw [serializers.portable_name]
    exact select_portable
  · rw [serializers.native_name]
    exact select_native
  · by_cases hportable : serializers.configured.name = portableName
    · rw [hportable, select_portable, hlawful.portable_unique hportable]
    · by_cases hnative : serializers.configured.name = defaultName
      · rw [hnative, select_native, hlawful.native_unique hnative]
      · simp [select, hportable, hnative]

theorem stable_of_select (hlawful : serializers.Lawful) {serialization : Option String}
    {s : Serializer V} (h : serializers.select serialization = .ok s) :
    s.Stable serializers.pyNone := by
  rcases select_eq_ok h with rfl | rfl | rfl
  · exact hlawful.portable
  · exact hlawful.native
  · exact hlawful.configured

/-- A value that was read from a column, written again under the same serializer, reads back. -/
theorem deserializeValue_serializeValueAs (hlawful : serializers.Lawful) {value : V}
    {source : Option String} {serialization : Option String} {text name : String}
    (hread : serializers.deserializeValue source serialization = .ok value)
    (hwrite : serializers.serializeValueAs value serialization = .ok (text, name)) :
    serializers.deserializeValue (some text) (some name) = .ok value := by
  obtain ⟨s, hselect, hrest⟩ := bind_eq_ok.mp hwrite
  obtain ⟨text', hserialize, hpure⟩ := bind_eq_ok.mp hrest
  cases hpure
  have hstable := stable_of_select hlawful hselect
  have hroundTrips : s.RoundTrips value := by
    cases source with
    | none =>
      cases hread
      exact hstable.1
    | some source =>
      obtain ⟨s', hselect', hdeserialize⟩ := bind_eq_ok.mp hread
      rw [hselect] at hselect'
      cases hselect'
      exact hstable.2 value source hdeserialize
  apply bind_eq_ok.mpr
  exact ⟨s, select_name hlawful hselect, hroundTrips text hserialize⟩

end Serializers

/-! ## Values that are `None` or a boolean -/

/-- The texts of `None`, `True` and `False`. -/
def booleanSerializer (name none true false : String) : Serializer (Option Bool) where
  name := name
  serialize
    | .none => .ok none
    | some .true => .ok true
    | some .false => .ok false
  deserialize text :=
    if text = none then .ok .none
    else if text = true then .ok (some .true)
    else if text = false then .ok (some .false)
    else .error (.valueError "Expecting value")

/-- Portable JSON, and pickle as the configured serializer. -/
def booleanSerializers : Serializers (Option Bool) where
  pyNone := none
  portable := booleanSerializer portableName "null" "true" "false"
  native := booleanSerializer defaultName "gAROLg==" "gASILg==" "gASJLg=="
  configured := booleanSerializer defaultName "gAROLg==" "gASILg==" "gASJLg=="
  portable_name := rfl
  native_name := rfl

/-- The same with portable JSON as the configured serializer. -/
def portableBooleanSerializers : Serializers (Option Bool) :=
  { booleanSerializers with configured := booleanSerializers.portable }

theorem stable_booleanSerializer (name : String) {none true false : String} (htrue : true ≠ none)
    (hfalse : false ≠ none) (hne : false ≠ true) :
    (booleanSerializer name none true false).Stable .none := by
  have hroundTrips (value : Option Bool) :
      (booleanSerializer name none true false).RoundTrips value := by
    intro text htext
    match value with
    | .none =>
      cases htext
      simp [booleanSerializer]
    | some .true =>
      cases htext
      simp [booleanSerializer, htrue]
    | some .false =>
      cases htext
      simp [booleanSerializer, hfalse, hne]
  exact ⟨hroundTrips .none, fun value _ _ ↦ hroundTrips value⟩

theorem lawful_booleanSerializers : booleanSerializers.Lawful where
  portable := stable_booleanSerializer _ (by decide) (by decide) (by decide)
  native := stable_booleanSerializer _ (by decide) (by decide) (by decide)
  configured := stable_booleanSerializer _ (by decide) (by decide) (by decide)
  portable_unique h := absurd h (by decide)
  native_unique _ := rfl

end DBOSModel.SysDb
