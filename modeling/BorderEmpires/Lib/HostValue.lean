/-
  BorderEmpires.Lib.HostValue
  **VALUES OF THE HOST LANGUAGE AND THEIR JSON.**

  A value is a primitive, an array or an object.  Members of an object are
  found by name, so two objects are equal whatever order their members were
  written in.  A member may be `undefined`: it has a name, but writing the
  object as JSON and reading it again loses it.
-/
import Mathlib.Data.Finset.Image
import Mathlib.Data.Fintype.Basic
import Mathlib.Data.Rat.Defs

/-- A value; numbers are finite. -/
inductive HostValue where
  | undefined
  | null
  | bool (b : Bool)
  | number (q : ℚ)
  | text (s : String)
  | array (length : Nat) (item : Fin length → HostValue)
  | object (keys : Finset String) (member : {k // k ∈ keys} → HostValue)

namespace HostValue

/-! ## §1. Reading. -/

def isUndefined : HostValue → Bool
  | .undefined => true
  | _ => false

/-- Neither there nor set. -/
def isNullish : HostValue → Bool
  | .undefined => true
  | .null => true
  | _ => false

/-- `typeof value === "number"`. -/
def isNumber : HostValue → Bool
  | .number _ => true
  | _ => false

def isObject : HostValue → Bool
  | .array _ _ => true
  | .object _ _ => true
  | _ => false

def truthy : HostValue → Bool
  | .undefined => false
  | .null => false
  | .bool b => b
  | .number q => q ≠ 0
  | .text s => s ≠ ""
  | .array _ _ => true
  | .object _ _ => true

/-- `value[name]` of an object. -/
def readMember (keys : Finset String) (member : {k // k ∈ keys} → HostValue) (name : String) :
    HostValue :=
  if h : name ∈ keys then member ⟨name, h⟩ else .undefined

theorem eq_undefined_of_isUndefined {v : HostValue} (h : v.isUndefined = true) :
    v = .undefined := by
  cases v with
  | undefined => rfl
  | _ => cases h

theorem truthy_of_isObject {v : HostValue} (h : v.isObject = true) : v.truthy = true := by
  cases v with
  | array n item => rfl
  | object keys member => rfl
  | _ => cases h

theorem object_ext {keys keys' : Finset String} {member : {k // k ∈ keys} → HostValue}
    {member' : {k // k ∈ keys'} → HostValue} (hkeys : keys = keys')
    (hmember : ∀ k (h : k ∈ keys) (h' : k ∈ keys'), member ⟨k, h⟩ = member' ⟨k, h'⟩) :
    object keys member = object keys' member' := by
  subst hkeys
  have heq : member = member' := funext (fun k => hmember k.1 k.2 k.2)
  rw [heq]

/-! ## §2. JSON. -/

/-- An array has no undefined items once it has been through JSON. -/
def orNull (v : HostValue) : HostValue := if v.isUndefined then .null else v

def writtenKeys (keys : Finset String) (member : {k // k ∈ keys} → HostValue) : Finset String :=
  (keys.attach.filter (fun k => (member k).isUndefined = false)).image Subtype.val

theorem mem_writtenKeys {keys : Finset String} {member : {k // k ∈ keys} → HostValue}
    {k : String} :
    k ∈ writtenKeys keys member ↔ ∃ h : k ∈ keys, (member ⟨k, h⟩).isUndefined = false := by
  unfold writtenKeys
  rw [Finset.mem_image]
  constructor
  · rintro ⟨⟨k', hk'⟩, hkept, rfl⟩
    exact ⟨hk', (Finset.mem_filter.mp hkept).2⟩
  · rintro ⟨hk, hdefined⟩
    exact ⟨⟨k, hk⟩, Finset.mem_filter.mpr ⟨Finset.mem_attach _ _, hdefined⟩, rfl⟩

/-- **What is read back** of a value that was written as JSON. -/
def json : HostValue → HostValue
  | .undefined => .undefined
  | .null => .null
  | .bool b => .bool b
  | .number q => .number q
  | .text s => .text s
  | .array n item => .array n (fun i => orNull (item i).json)
  | .object keys member =>
      .object (writtenKeys keys member)
        (fun k => (member ⟨k.1, (mem_writtenKeys.mp k.2).choose⟩).json)

theorem json_isUndefined (v : HostValue) : v.json.isUndefined = v.isUndefined := by
  cases v <;> rfl

theorem json_isNullish (v : HostValue) : v.json.isNullish = v.isNullish := by
  cases v <;> rfl

theorem json_isObject (v : HostValue) : v.json.isObject = v.isObject := by
  cases v <;> rfl

theorem orNull_of_defined {v : HostValue} (h : v.isUndefined = false) : orNull v = v := by
  unfold orNull
  rw [if_neg (by rw [h]; exact Bool.false_ne_true)]

theorem json_orNull (v : HostValue) (h : v.json.json = v.json) :
    orNull (orNull v.json).json = orNull v.json := by
  cases hv : v.isUndefined with
  | true =>
      rw [eq_undefined_of_isUndefined hv]
      rfl
  | false =>
      have hdefined : v.json.isUndefined = false := (json_isUndefined v).trans hv
      rw [orNull_of_defined hdefined, h, orNull_of_defined hdefined]

/-- **Writing and reading again** changes nothing more. -/
theorem json_json (v : HostValue) : v.json.json = v.json := by
  induction v with
  | undefined => rfl
  | null => rfl
  | bool b => rfl
  | number q => rfl
  | text s => rfl
  | array n item ih =>
      show array n (fun i => orNull (orNull (item i).json).json) = array n _
      exact congrArg (array n) (funext (fun i => json_orNull (item i) (ih i)))
  | object keys member ih =>
      refine object_ext ?_ (fun k _ _ => ih _)
      -- what was written once is all written again
      ext k
      rw [mem_writtenKeys]
      constructor
      · rintro ⟨hk, _⟩
        exact hk
      · intro hk
        refine ⟨hk, ?_⟩
        rw [json_isUndefined]
        exact (mem_writtenKeys.mp hk).choose_spec

/-! ## §3. Plain values. -/

def Plain : HostValue → Prop
  | .undefined => False
  | .array _ item => ∀ i, (item i).Plain
  | .object _ member => ∀ k, (member k).Plain
  | _ => True

theorem Plain.isUndefined {v : HostValue} (h : v.Plain) : v.isUndefined = false := by
  cases v with
  | undefined => exact False.elim h
  | _ => rfl

end HostValue

/-! ## §4. Values of a known kind. -/

abbrev DefinedValue := {v : HostValue // v.isNullish = false}

abbrev HostObject := {v : HostValue // v.isObject = true}

namespace DefinedValue

def json (v : DefinedValue) : DefinedValue := ⟨v.1.json, (HostValue.json_isNullish v.1).trans v.2⟩

theorem json_json (v : DefinedValue) : v.json.json = v.json := Subtype.ext (HostValue.json_json v.1)

end DefinedValue

namespace HostObject

def json (v : HostObject) : HostObject := ⟨v.1.json, (HostValue.json_isObject v.1).trans v.2⟩

theorem json_json (v : HostObject) : v.json.json = v.json := Subtype.ext (HostValue.json_json v.1)

end HostObject
