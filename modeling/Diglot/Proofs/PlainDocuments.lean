import Diglot.Json.Decode

/-!
# Plain documents

The documents that are written for values are plain: there are no numbers in them, and
everything in them has a value (`Json.isPlain`).

* A plain document is held back without a fault (`hold_of_isPlain`).
* `Json.depth` counts how deep arrays and objects are nested. Up to that depth nothing is lost
  (`within_of_depth_le`).
-/

namespace Diglot.Json

mutual

/-- Whether a document is made of names, texts and truth values only. -/
def isPlain : Json → Bool
  | array elements => arePlain elements
  | object fields => fieldsArePlain fields
  | null | bool _ | string _ => true
  | number _ | truncated | unreadable | unnamed _ => false

/-- Whether all elements are plain. -/
def arePlain : List Json → Bool
  | [] => true
  | first :: rest => first.isPlain && arePlain rest

/-- Whether all fields are plain. -/
def fieldsArePlain : List (String × Json) → Bool
  | [] => true
  | (_, value) :: rest => value.isPlain && fieldsArePlain rest

end

theorem arePlain_iff {elements : List Json} :
    arePlain elements = true ↔ ∀ element ∈ elements, element.isPlain = true := by
  induction elements with
  | nil => simp [arePlain]
  | cons first rest ih => simp [arePlain, ih]

theorem fieldsArePlain_iff {fields : List (String × Json)} :
    fieldsArePlain fields = true ↔ ∀ field ∈ fields, field.2.isPlain = true := by
  induction fields with
  | nil => simp [fieldsArePlain]
  | cons first rest ih => simp [fieldsArePlain, ih]

mutual

/-- Everything in a plain document has a value. -/
theorem isReadable_of_isPlain : ∀ {document : Json}, document.isPlain = true →
    document.isReadable = true
  | array _, plain => areReadable_of_arePlain plain
  | object _, plain => fieldsAreReadable_of_fieldsArePlain plain
  | null, _ | bool _, _ | string _, _ => rfl

theorem areReadable_of_arePlain : ∀ {elements : List Json}, arePlain elements = true →
    areReadable elements = true
  | [], _ => rfl
  | first :: rest, plain => by
    rw [arePlain, Bool.and_eq_true] at plain
    rw [areReadable, isReadable_of_isPlain plain.1, areReadable_of_arePlain plain.2]
    rfl

theorem fieldsAreReadable_of_fieldsArePlain : ∀ {fields : List (String × Json)},
    fieldsArePlain fields = true → fieldsAreReadable fields = true
  | [], _ => rfl
  | (_, value) :: rest, plain => by
    rw [fieldsArePlain, Bool.and_eq_true] at plain
    rw [fieldsAreReadable, isReadable_of_isPlain plain.1,
      fieldsAreReadable_of_fieldsArePlain plain.2]
    rfl

end

/-- A plain document is held back. -/
theorem hold_of_isPlain {document : Json} (plain : document.isPlain = true) :
    document.hold = .ok () := by
  rw [hold, isReadable_of_isPlain plain]
  rfl

mutual

/-- How deep arrays and objects are nested. -/
def depth : Json → Nat
  | array elements => elementsDepth elements + 1
  | object fields => fieldsDepth fields + 1
  | unnamed value => value.depth
  | null | bool _ | number _ | string _ | truncated | unreadable => 0

/-- How deep arrays and objects are nested in elements. -/
def elementsDepth : List Json → Nat
  | [] => 0
  | first :: rest => max first.depth (elementsDepth rest)

/-- How deep arrays and objects are nested in fields. -/
def fieldsDepth : List (String × Json) → Nat
  | [] => 0
  | (_, value) :: rest => max value.depth (fieldsDepth rest)

end

mutual

/-- **Nothing is lost** of a document that is not nested too deep. -/
theorem within_of_depth_le : ∀ {document : Json} {limit : Nat}, document.depth ≤ limit →
    document.within limit = document
  | array elements, 0, le => absurd le (by simp [depth])
  | array elements, limit + 1, le => by
    rw [within, elementsWithin_of_depth_le (Nat.le_of_succ_le_succ le)]
  | object fields, 0, le => absurd le (by simp [depth])
  | object fields, limit + 1, le => by
    rw [within, fieldsWithin_of_depth_le (Nat.le_of_succ_le_succ le)]
  | unnamed value, limit, le => by
    have same : value.within limit = value := within_of_depth_le le
    simp only [within, same]
  | null, limit, _ | bool _, limit, _ | number _, limit, _ | string _, limit, _
  | truncated, limit, _ | unreadable, limit, _ => by
    cases limit <;> rfl

theorem elementsWithin_of_depth_le : ∀ {elements : List Json} {limit : Nat},
    elementsDepth elements ≤ limit → elementsWithin limit elements = elements
  | [], _, _ => rfl
  | first :: rest, limit, le => by
    obtain ⟨leFirst, leRest⟩ := Nat.max_le.mp le
    rw [elementsWithin, within_of_depth_le leFirst, elementsWithin_of_depth_le leRest]

theorem fieldsWithin_of_depth_le : ∀ {fields : List (String × Json)} {limit : Nat},
    fieldsDepth fields ≤ limit → fieldsWithin limit fields = fields
  | [], _, _ => rfl
  | (name, value) :: rest, limit, le => by
    obtain ⟨leValue, leRest⟩ := Nat.max_le.mp le
    rw [fieldsWithin, within_of_depth_le leValue, fieldsWithin_of_depth_le leRest]

end

end Diglot.Json
