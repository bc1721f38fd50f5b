/-
  BorderEmpires.Snapshots.Stringifier
  **THE CHUNKED SNAPSHOT STRINGIFIER.**

  A snapshot is written without blocking the event loop: an array of
  `CHUNK_THRESHOLD` elements or more goes out in slices, and an object that
  holds one, itself or one level down, member by member.  Yields between
  slices leave no trace in the text.
-/
import Mathlib.Data.PNat.Basic
import BorderEmpires.Lib.JsonText

namespace BorderEmpires.Snapshots

open JsonLike

section Stringifier

variable {N : Type} (numberText : N → String) (chunkThreshold chunkSize : ℕ+)

/-! ## §1. Arrays. -/

/-- The slices from place `i` on, each joined; one round for each element is
enough. -/
def sliceParts (arr : List (JsonLike N)) : ℕ → ℕ → List String
  | 0, _ => []
  | rounds + 1, i =>
      if i < arr.length then
        let slice := (arr.drop i).take chunkSize
        ",".intercalate (slice.map fun el => (stringify numberText el).getD "null")
          :: sliceParts arr rounds (i + chunkSize)
      else []

def stringifyArrayChunked (arr : List (JsonLike N)) : Option String :=
  if arr.length = 0 then some "[]"
  else if arr.length < chunkThreshold then stringify numberText (.array arr)
  else some ("[" ++ ",".intercalate (sliceParts numberText chunkSize arr arr.length 0) ++ "]")

/-! ## §2. Objects. -/

/-- `Array.isArray(value) && value.length >= CHUNK_THRESHOLD`. -/
def isLargeArray : JsonLike N → Bool
  | .array items => decide ((chunkThreshold : ℕ) ≤ items.length)
  | _ => false

mutual
/-- The text of a member's value, if it has one. -/
def valueChunked : JsonLike N → Option String
  | .array items =>
      if isLargeArray chunkThreshold (.array items) then
        stringifyArrayChunked numberText chunkThreshold chunkSize items
      else stringify numberText (.array items)
  | .object nested =>
      if nested.any fun member => isLargeArray chunkThreshold member.2 then
        some ("\x7b" ++ ",".intercalate (kvParts nested) ++ "\x7d")
      else stringify numberText (.object nested)
  | value => stringify numberText value

def kvParts : List (String × JsonLike N) → List String
  | [] => []
  | (key, value) :: rest =>
      match valueChunked value with
      | none => kvParts rest
      | some valueJson => (quote key ++ ":" ++ valueJson) :: kvParts rest
end

def stringifyObjectChunked (obj : List (String × JsonLike N)) : Option String :=
  some ("\x7b" ++ ",".intercalate (kvParts numberText chunkThreshold chunkSize obj) ++ "\x7d")

/-- What `createChunkedSnapshotStringifier` returns. -/
def chunkedStringifier : JsonLike N → Option String
  | .array arr => stringifyArrayChunked numberText chunkThreshold chunkSize arr
  | .object obj => stringifyObjectChunked numberText chunkThreshold chunkSize obj
  | payload => stringify numberText payload

/-! ## §3. The texts agree. -/

/-- The slices of the elements from place `i` on. -/
def slices (arr : List (JsonLike N)) : ℕ → ℕ → List (List String)
  | 0, _ => []
  | rounds + 1, i =>
      if i < arr.length then
        elementTexts numberText ((arr.drop i).take chunkSize) :: slices arr rounds (i + chunkSize)
      else []

theorem sliceParts_eq (arr : List (JsonLike N)) (rounds : ℕ) :
    ∀ i, sliceParts numberText chunkSize arr rounds i
      = (slices numberText chunkSize arr rounds i).map fun slice => ",".intercalate slice := by
  induction rounds with
  | zero => exact fun _ => rfl
  | succ rounds ih =>
      intro i
      unfold sliceParts slices
      split
      · rw [List.map_cons, elementTexts_eq_map, ih]
      · rfl

theorem slices_ne_nil (arr : List (JsonLike N)) (rounds : ℕ) :
    ∀ i, ∀ slice ∈ slices numberText chunkSize arr rounds i, slice ≠ [] := by
  induction rounds with
  | zero => exact fun _ _ h => absurd h List.not_mem_nil
  | succ rounds ih =>
      intro i slice hslice
      unfold slices at hslice
      split at hslice
      next hlt =>
        obtain rfl | hrest := List.mem_cons.mp hslice
        · have hlength : 0 < ((arr.drop i).take chunkSize).length := by
            rw [List.length_take, List.length_drop]
            have hpos := chunkSize.pos
            omega
          rw [elementTexts_eq_map]
          exact fun hnil => absurd (List.map_eq_nil_iff.mp hnil) (List.ne_nil_of_length_pos hlength)
        · exact ih _ slice hrest
      next => cases hslice

theorem slices_flatten (arr : List (JsonLike N)) (rounds : ℕ) :
    ∀ i, arr.length ≤ i + rounds →
      (slices numberText chunkSize arr rounds i).flatten
        = elementTexts numberText (arr.drop i) := by
  induction rounds with
  | zero =>
      intro i hrounds
      rw [List.drop_eq_nil_of_le (by omega)]
      rfl
  | succ rounds ih =>
      intro i hrounds
      have hpos := chunkSize.pos
      unfold slices
      split
      · rw [List.flatten_cons, ih _ (by omega), elementTexts_eq_map, elementTexts_eq_map,
          elementTexts_eq_map, ← List.map_append, ← List.drop_drop, List.take_append_drop]
      · rw [List.drop_eq_nil_of_le (by omega)]
        rfl

theorem stringifyArrayChunked_eq (arr : List (JsonLike N)) :
    stringifyArrayChunked numberText chunkThreshold chunkSize arr
      = stringify numberText (.array arr) := by
  unfold stringifyArrayChunked
  split
  next hempty =>
    rw [List.length_eq_zero_iff.mp hempty]
    rfl
  · split
    · rfl
    · rw [sliceParts_eq, intercalate_parts _ _ (slices_ne_nil numberText chunkSize arr _ 0),
        slices_flatten numberText chunkSize arr _ 0 (by omega), List.drop_zero, stringify]

mutual
theorem valueChunked_eq : ∀ value : JsonLike N,
    valueChunked numberText chunkThreshold chunkSize value = stringify numberText value
  | .undefined => rfl
  | .null => rfl
  | .bool _ => rfl
  | .number _ => rfl
  | .text _ => rfl
  | .array items => by
      unfold valueChunked
      split
      · exact stringifyArrayChunked_eq numberText chunkThreshold chunkSize items
      · rfl
  | .object nested => by
      unfold valueChunked
      by_cases hlarge : (nested.any fun member => isLargeArray chunkThreshold member.2) = true
      · exact (if_pos hlarge).trans (congrArg
          (fun parts => some ("\x7b" ++ ",".intercalate parts ++ "\x7d")) (kvParts_eq nested))
      · exact if_neg hlarge

theorem kvParts_eq : ∀ members : List (String × JsonLike N),
    kvParts numberText chunkThreshold chunkSize members = memberTexts numberText members
  | [] => rfl
  | (_, value) :: rest => by
      have hvalue := valueChunked_eq value
      have hrest := kvParts_eq rest
      unfold kvParts memberTexts
      cases htext : stringify numberText value with
      | none =>
          rw [htext] at hvalue
          simp only [hvalue, hrest]
      | some valueJson =>
          rw [htext] at hvalue
          simp only [hvalue, hrest]
end

/-- **The chunked text is the plain one**, for every payload and at every
threshold and slice size. -/
theorem chunkedStringifier_eq (payload : JsonLike N) :
    chunkedStringifier numberText chunkThreshold chunkSize payload
      = stringify numberText payload := by
  cases payload with
  | array arr => exact stringifyArrayChunked_eq numberText chunkThreshold chunkSize arr
  | object obj =>
      show some ("\x7b" ++ ",".intercalate
        (kvParts numberText chunkThreshold chunkSize obj) ++ "\x7d") = _
      rw [kvParts_eq, stringify]
  | _ => rfl

/-- An undefined element at the border of two slices, an undefined member,
and an array below the threshold. -/
example :
    chunkedStringifier (fun n : ℕ => toString n) 3 2
      (.object [("gone", .undefined),
        ("tiles", .array [.number 1, .undefined, .array [.undefined], .text "\n"])])
      = some "\x7b\"tiles\":[1,null,[null],\"\\n\"]\x7d" := by
  decide +kernel

end Stringifier

end BorderEmpires.Snapshots
