/-
  BorderEmpires.Lib.JsonText
  **VALUES OF THE HOST LANGUAGE, WRITTEN AS JSON TEXT.**

  A value is a scalar, an array or a plain object; members stand in the
  order the host lists them.  `stringify` is the host's encoder: an
  undefined value has no text, as an element it is written as null, as a
  member it is left out.
-/

/-- A value; its numbers are the host's. -/
inductive JsonLike (N : Type) where
  | undefined
  | null
  | bool (b : Bool)
  | number (n : N)
  | text (s : String)
  | array (items : List (JsonLike N))
  | object (members : List (String × JsonLike N))

namespace JsonLike

/-! ## §1. The encoder. -/

/-- A code unit below 32 that has no letter: two hexadecimal digits. -/
def hexPair (n : Nat) : String := String.ofList [Nat.digitChar (n / 16), Nat.digitChar (n % 16)]

def quoteChar (c : Char) : String :=
  match c.toNat with
  | 8 => "\\b"
  | 9 => "\\t"
  | 10 => "\\n"
  | 12 => "\\f"
  | 13 => "\\r"
  | 34 => "\\\""
  | 92 => "\\\\"
  | n => if n < 32 then "\\u00" ++ hexPair n else String.singleton c

def quote (s : String) : String := "\"" ++ String.join (s.toList.map quoteChar) ++ "\""

variable {N : Type} (numberText : N → String)

mutual
def stringify : JsonLike N → Option String
  | .undefined => none
  | .null => some "null"
  | .bool b => some (if b then "true" else "false")
  | .number n => some (numberText n)
  | .text s => some (quote s)
  | .array items => some ("[" ++ ",".intercalate (elementTexts items) ++ "]")
  | .object members => some ("\x7b" ++ ",".intercalate (memberTexts members) ++ "\x7d")

def elementTexts : List (JsonLike N) → List String
  | [] => []
  | item :: rest => (stringify item).getD "null" :: elementTexts rest

def memberTexts : List (String × JsonLike N) → List String
  | [] => []
  | (key, value) :: rest =>
      match stringify value with
      | none => memberTexts rest
      | some valueJson => (quote key ++ ":" ++ valueJson) :: memberTexts rest
end

theorem elementTexts_eq_map (items : List (JsonLike N)) :
    elementTexts numberText items
      = items.map fun item => (stringify numberText item).getD "null" := by
  induction items with
  | nil => rfl
  | cons item rest ih => rw [elementTexts, ih, List.map_cons]

end JsonLike

/-! ## §2. Joining parts. -/

/-- **Parts joined by the separator they are made of**: no part is empty, and
the joined parts are the joined whole. -/
theorem intercalate_parts (separator : String) (parts : List (List String))
    (hparts : ∀ part ∈ parts, part ≠ []) :
    separator.intercalate (parts.map fun part => separator.intercalate part)
      = separator.intercalate parts.flatten := by
  induction parts with
  | nil => rfl
  | cons part parts ih =>
      have hrest := ih (fun p hp => hparts p (List.mem_cons_of_mem _ hp))
      cases parts with
      | nil =>
          rw [List.map_singleton, String.intercalate_singleton, List.flatten_singleton]
      | cons next parts =>
          have hpart : part ≠ [] := hparts part List.mem_cons_self
          have hnext : next ≠ [] := hparts next (List.mem_cons_of_mem _ List.mem_cons_self)
          have hmore : (next :: parts).flatten ≠ [] := by
            rw [List.flatten_cons]
            exact List.append_ne_nil_of_left_ne_nil hnext _
          rw [List.map_cons, List.map_cons, String.intercalate_cons_cons, ← List.map_cons, hrest]
          exact (String.intercalate_append_of_ne_nil hpart hmore).symm
