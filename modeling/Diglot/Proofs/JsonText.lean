import Diglot.Json.Writer
import Diglot.Proofs.PlainDocuments
import Mathlib.Data.List.DropRight

/-!
# Reading undoes writing

A plain document is read from the text that is written for it, on one line or on many.

* `scanString_escape`, `joinCodes_map_toNat` — a text is read from the characters in a string.
* `Layout` — the blanks that a writer puts between the parts of a document. Both writers write
  a document the same way but for the layout (`toList_compact`, `toList_pretty`).
* `readValue_laidOut` — whatever the layout, the document is read, and what follows it is left.
* `decodeText_compact`, `decodeText_pretty` — a value is decoded from the text as it is from the
  document, if this is not nested too deep.
-/

namespace Diglot.Json

/-! ## Strings -/

/-- The digits of a control character stand for it. -/
theorem hexQuad?_hexDigit {code : Nat} (lt : code < 0x20) :
    hexQuad? '0' '0' (hexDigit (code / 16)) (hexDigit (code % 16)) = some code := by
  have each : ∀ code < 0x20,
      hexQuad? '0' '0' (hexDigit (code / 16)) (hexDigit (code % 16)) = some code := by decide
  exact each code lt

/-- A character is read from how it is written. -/
theorem scanString_escape (c : Char) (done : List Nat) (rest : List Char) :
    scanString done (escape c ++ rest) = scanString (c.toNat :: done) rest := by
  unfold escape
  split
  · simp [scanString, escaped?]
  · simp [scanString, escaped?]
  · simp [scanString, escaped?]
  · simp [scanString, escaped?]
  · simp [scanString, escaped?]
  · rename_i quote backslash _ _ _
    split
    · rename_i backspace
      simp [scanString, escaped?, backspace]
    split
    · rename_i feed
      simp [scanString, escaped?, feed]
    split
    · rename_i control
      simp [scanString, hexQuad?_hexDigit control]
    · rename_i printed
      have kept : (decide (c.toNat < 0x20) || decide (c = '\\')) = false := by
        rw [decide_eq_false printed, decide_eq_false backslash]
        rfl
      rw [List.singleton_append, scanString, kept]
      · rfl
      · exact quote
      · exact fun _ _ _ _ _ eq => absurd eq backslash
      · exact fun _ _ eq => absurd eq backslash

/-- A string is read up to its closing quote. -/
theorem scanString_quoted (text : List Char) (done : List Nat) (rest : List Char) :
    scanString done (text.flatMap escape ++ '"' :: rest) =
      some (done.reverse ++ text.map Char.toNat, rest) := by
  induction text generalizing done with
  | nil => simp [scanString]
  | cons c text ih =>
    rw [List.flatMap_cons, List.append_assoc, scanString_escape, ih]
    simp

/-- No character is half of a pair. -/
theorem not_surrogate (c : Char) : ¬ (0xd800 ≤ c.toNat ∧ c.toNat < 0xe000) := by
  have valid := c.valid
  change c.toNat < 0xd800 ∨ 0xdfff < c.toNat ∧ c.toNat < 0x110000 at valid
  omega

/-- The codes of characters are put together to these characters. -/
theorem joinCodes_map_toNat (text : List Char) :
    joinCodes (text.map Char.toNat) = some text := by
  induction text with
  | nil => rfl
  | cons c text ih =>
    have single := not_surrogate c
    cases text with
    | nil => simp [joinCodes, single]
    | cons next text =>
      have pair : ¬ (0xd800 ≤ c.toNat ∧ c.toNat < 0xdc00) := fun h => single ⟨h.1, by omega⟩
      simp only [List.map_cons] at ih
      simp [joinCodes, single, pair, ih]

/-! ## Blanks -/

/-- Blanks in front do not matter. -/
theorem skipBlank_append {blanks : List Char} (all : blanks.all isBlank = true)
    (cs : List Char) : skipBlank (blanks ++ cs) = skipBlank cs := by
  induction blanks with
  | nil => rfl
  | cons c blanks ih =>
    rw [List.all_cons, Bool.and_eq_true] at all
    rw [List.cons_append, skipBlank, List.dropWhile_cons, if_pos all.1]
    exact ih all.2

/-- What is not blank stays. -/
theorem skipBlank_cons {c : Char} (other : isBlank c = false) (cs : List Char) :
    skipBlank (c :: cs) = c :: cs := by
  rw [skipBlank, List.dropWhile_cons, other]
  rfl

theorem skipBlank_skipBlank (cs : List Char) : skipBlank (skipBlank cs) = skipBlank cs :=
  List.dropWhile_idempotent isBlank cs

theorem readValue_skipBlank (fuel : Nat) (cs : List Char) :
    readValue fuel (skipBlank cs) = readValue fuel cs := by
  cases fuel with
  | zero => rfl
  | succ fuel => rw [readValue, readValue, skipBlank_skipBlank]

theorem readElements_skipBlank (fuel : Nat) (cs : List Char) :
    readElements fuel (skipBlank cs) = readElements fuel cs := by
  cases fuel with
  | zero => rfl
  | succ fuel => rw [readElements, readElements, readValue_skipBlank]

theorem readFields_skipBlank (fuel : Nat) (cs : List Char) :
    readFields fuel (skipBlank cs) = readFields fuel cs := by
  cases fuel with
  | zero => rfl
  | succ fuel => rw [readFields, readFields, skipBlank_skipBlank]

theorem readValue_append {blanks : List Char} (all : blanks.all isBlank = true) (fuel : Nat)
    (cs : List Char) : readValue fuel (blanks ++ cs) = readValue fuel cs := by
  rw [← readValue_skipBlank, skipBlank_append all, readValue_skipBlank]

theorem readFields_append {blanks : List Char} (all : blanks.all isBlank = true) (fuel : Nat)
    (cs : List Char) : readFields fuel (blanks ++ cs) = readFields fuel cs := by
  rw [← readFields_skipBlank, skipBlank_append all, readFields_skipBlank]

/-- Where an array ends, no element begins. -/
theorem readElements_bracket (fuel : Nat) (cs : List Char) :
    (readElements fuel (']' :: cs)).2 = none := by
  cases fuel with
  | zero => rfl
  | succ fuel =>
    cases fuel with
    | zero => rfl
    | succ fuel => rfl

/-- Where an object ends, no field begins. -/
theorem readFields_brace (fuel : Nat) (cs : List Char) :
    (readFields fuel ('\x7d' :: cs)).2 = none := by
  cases fuel with
  | zero => rfl
  | succ fuel => rfl

/-! ## Layouts -/

/-- What a writer puts between the parts of a document. -/
structure Layout where
  /-- what stands in front of elements and fields, and of the end, inside of some arrays and
  objects -/
  line : Nat → List Char
  /-- what stands behind a colon -/
  gap : List Char
  /-- these are blanks -/
  isBlank_line : ∀ depth, (line depth).all isBlank = true
  /-- so are these -/
  isBlank_gap : gap.all isBlank = true

/-- No blanks at all. -/
def Layout.compact : Layout where
  line _ := []
  gap := []
  isBlank_line _ := rfl
  isBlank_gap := rfl

/-- Every element and field on a line of its own. -/
def Layout.pretty : Layout where
  line depth := (newLine depth).toList
  gap := [' ']
  isBlank_line depth := by simp [newLine, isBlank]
  isBlank_gap := rfl

mutual

/-- A document with the blanks of a layout, inside of `depth` arrays and objects. -/
def laidOut (layout : Layout) (depth : Nat) : Json → List Char
  | array [] => ['[', ']']
  | array (first :: rest) =>
    '[' :: elementsLaidOut layout (depth + 1) (first :: rest) ++ (layout.line depth ++ [']'])
  | object [] => ['\x7b', '\x7d']
  | object (first :: rest) =>
    '\x7b' :: fieldsLaidOut layout (depth + 1) (first :: rest) ++ (layout.line depth ++ ['\x7d'])
  | other => other.compact.toList

/-- Elements with the blanks of a layout. -/
def elementsLaidOut (layout : Layout) (depth : Nat) : List Json → List Char
  | [] => []
  | [last] => layout.line depth ++ last.laidOut layout depth
  | first :: rest =>
    layout.line depth ++ (first.laidOut layout depth ++ ',' :: elementsLaidOut layout depth rest)

/-- Fields with the blanks of a layout. -/
def fieldsLaidOut (layout : Layout) (depth : Nat) : List (String × Json) → List Char
  | [] => []
  | [(name, value)] =>
    layout.line depth ++
      ((quoted name).toList ++ ':' :: (layout.gap ++ value.laidOut layout depth))
  | (name, value) :: rest =>
    layout.line depth ++
      ((quoted name).toList ++ ':' :: (layout.gap ++ (value.laidOut layout depth ++
        ',' :: fieldsLaidOut layout depth rest)))

end

/-! ## Reading -/

/-- The characters of a string with its quotes. -/
theorem toList_quoted (text : String) :
    (quoted text).toList = '"' :: (text.toList.flatMap escape ++ ['"']) := by
  simp [quoted]

/-- The name of a field is read as it is written. -/
theorem namedField_map_toNat (name : String) (value : Json) :
    namedField (name.toList.map Char.toNat) value = (name, value) := by
  rw [namedField, joinCodes_map_toNat]
  simp

/-- A string is read. -/
theorem readValue_quoted (text : String) (fuel : Nat) (more : List Char) :
    readValue (fuel + 1) ((quoted text).toList ++ more) = (string text, some more) := by
  have start : isBlank '"' = false := by decide
  simp only [toList_quoted, List.cons_append, List.append_assoc, List.nil_append, readValue,
    skipBlank_cons start, scanString_quoted, List.reverse_nil, joinCodes_map_toNat,
    String.ofList_toList]

/-- An array is read if its elements are. -/
theorem readValue_array {fuel : Nat} {cs more : List Char} {elements : List Json}
    (inside : readElements fuel cs = (elements, some more)) :
    readValue (fuel + 1) ('[' :: cs) = (array elements, some more) := by
  have start : isBlank '[' = false := by decide
  simp only [readValue, skipBlank_cons start]
  split
  · -- there is an element before the end
    rename_i rest ends
    have none := readElements_bracket fuel rest
    rw [← ends, readElements_skipBlank, inside] at none
    cases none
  · rw [readElements_skipBlank, inside]

/-- An object is read if its fields are. -/
theorem readValue_object {fuel : Nat} {cs more : List Char} {fields : List (String × Json)}
    (inside : readFields fuel cs = (fields, some more)) :
    readValue (fuel + 1) ('\x7b' :: cs) = (object fields, some more) := by
  have start : isBlank '\x7b' = false := by decide
  simp only [readValue, skipBlank_cons start]
  split
  · rename_i rest ends
    have none := readFields_brace fuel rest
    rw [← ends, readFields_skipBlank, inside] at none
    cases none
  · rw [readFields_skipBlank, inside]

section

variable {fuel : Nat} {cs close behind more : List Char} {name : String} {value : Json}

/-- The last element is read up to the bracket behind it. -/
theorem readElements_last (blank : close.all isBlank = true)
    (inside : readValue fuel cs = (value, some (close ++ ']' :: more))) :
    readElements (fuel + 1) cs = ([value], some more) := by
  have stop : isBlank ']' = false := by decide
  simp only [readElements, inside, skipBlank_append blank, skipBlank_cons stop]

/-- An element with others behind it is read up to the comma. -/
theorem readElements_cons {rest : List Json}
    (inside : readValue fuel cs = (value, some (',' :: behind)))
    (others : readElements fuel behind = (rest, some more)) :
    readElements (fuel + 1) cs = (value :: rest, some more) := by
  have stop : isBlank ',' = false := by decide
  simp only [readElements, inside, skipBlank_cons stop, others]

/-- The last field is read up to the brace behind it. -/
theorem readFields_last (blank : close.all isBlank = true)
    (inside : readValue fuel cs = (value, some (close ++ '\x7d' :: more))) :
    readFields (fuel + 1) ((quoted name).toList ++ ':' :: cs) = ([(name, value)], some more) := by
  have start : isBlank '"' = false := by decide
  have colon : isBlank ':' = false := by decide
  have stop : isBlank '\x7d' = false := by decide
  simp only [toList_quoted, List.cons_append, List.append_assoc, List.nil_append, readFields,
    skipBlank_cons start, scanString_quoted, skipBlank_cons colon, inside,
    skipBlank_append blank, skipBlank_cons stop, List.reverse_nil, namedField_map_toNat]

/-- A field with others behind it is read up to the comma. -/
theorem readFields_cons {rest : List (String × Json)}
    (inside : readValue fuel cs = (value, some (',' :: behind)))
    (others : readFields fuel behind = (rest, some more)) :
    readFields (fuel + 1) ((quoted name).toList ++ ':' :: cs) =
      ((name, value) :: rest, some more) := by
  have start : isBlank '"' = false := by decide
  have colon : isBlank ':' = false := by decide
  have stop : isBlank ',' = false := by decide
  simp only [toList_quoted, List.cons_append, List.append_assoc, List.nil_append, readFields,
    skipBlank_cons start, scanString_quoted, skipBlank_cons colon, inside,
    skipBlank_cons stop, others, List.reverse_nil, namedField_map_toNat]

end

mutual

/-- **A plain document is read in any layout**, and what follows it is left. The length of the
text bounds the depth of the recursion. -/
theorem readValue_laidOut (layout : Layout) : ∀ (document : Json), document.isPlain = true →
    ∀ (depth fuel : Nat) (more : List Char), (document.laidOut layout depth).length ≤ fuel →
      readValue (fuel + 1) (document.laidOut layout depth ++ more) = (document, some more)
  | null, _ | bool true, _ | bool false, _ | array [], _ | object [], _ => fun _ _ _ _ => rfl
  | string text, _ => fun _ fuel more _ => readValue_quoted text fuel more
  | array (first :: rest), plain => by
    intro depth fuel more le
    -- the bracket pays for the elements
    simp only [laidOut, List.cons_append, List.append_assoc, List.nil_append, List.length_cons,
      List.length_append] at le ⊢
    obtain ⟨fuel, rfl⟩ := Nat.exists_eq_add_of_le' (Nat.le_of_add_left_le le : 1 ≤ fuel)
    refine readValue_array (readElements_laidOut layout (first :: rest) plain nofun (depth + 1)
      fuel (layout.line depth) more (layout.isBlank_line depth) ?_)
    omega
  | object (first :: rest), plain => by
    intro depth fuel more le
    simp only [laidOut, List.cons_append, List.append_assoc, List.nil_append, List.length_cons,
      List.length_append] at le ⊢
    obtain ⟨fuel, rfl⟩ := Nat.exists_eq_add_of_le' (Nat.le_of_add_left_le le : 1 ≤ fuel)
    refine readValue_object (readFields_laidOut layout (first :: rest) plain nofun (depth + 1)
      fuel (layout.line depth) more (layout.isBlank_line depth) ?_)
    omega

/-- The elements of an array are read in any layout, up to its end. -/
theorem readElements_laidOut (layout : Layout) : ∀ (elements : List Json),
    arePlain elements = true → elements ≠ [] →
      ∀ (depth fuel : Nat) (close more : List Char), close.all isBlank = true →
        (elementsLaidOut layout depth elements).length < fuel →
          readElements (fuel + 1)
              (elementsLaidOut layout depth elements ++ (close ++ ']' :: more)) =
            (elements, some more)
  | [], _ => fun ne => absurd rfl ne
  | [last], plain => by
    intro _ depth fuel close more blank lt
    obtain ⟨fuel, rfl⟩ := Nat.exists_eq_add_of_le' (Nat.lt_of_le_of_lt (Nat.zero_le _) lt)
    simp only [elementsLaidOut, List.append_assoc, List.length_append] at lt ⊢
    refine readElements_last blank ?_
    rw [readValue_append (layout.isBlank_line depth)]
    exact readValue_laidOut layout last (Bool.and_eq_true_iff.mp plain).1 depth fuel _ (by omega)
  | first :: second :: rest, plain => by
    intro _ depth fuel close more blank lt
    obtain ⟨fuel, rfl⟩ := Nat.exists_eq_add_of_le' (Nat.lt_of_le_of_lt (Nat.zero_le _) lt)
    obtain ⟨plainFirst, plainRest⟩ := Bool.and_eq_true_iff.mp plain
    have parts : elementsLaidOut layout depth (first :: second :: rest) =
        layout.line depth ++ (first.laidOut layout depth ++
          ',' :: elementsLaidOut layout depth (second :: rest)) := rfl
    simp only [parts, List.append_assoc, List.cons_append, List.length_append,
      List.length_cons] at lt ⊢
    refine readElements_cons ?_ (readElements_laidOut layout (second :: rest) plainRest nofun
      depth fuel close more blank (by omega))
    rw [readValue_append (layout.isBlank_line depth)]
    exact readValue_laidOut layout first plainFirst depth fuel _ (by omega)

/-- The fields of an object are read in any layout, up to its end. -/
theorem readFields_laidOut (layout : Layout) : ∀ (fields : List (String × Json)),
    fieldsArePlain fields = true → fields ≠ [] →
      ∀ (depth fuel : Nat) (close more : List Char), close.all isBlank = true →
        (fieldsLaidOut layout depth fields).length < fuel →
          readFields (fuel + 1)
              (fieldsLaidOut layout depth fields ++ (close ++ '\x7d' :: more)) =
            (fields, some more)
  | [], _ => fun ne => absurd rfl ne
  | [(name, value)], plain => by
    intro _ depth fuel close more blank lt
    obtain ⟨fuel, rfl⟩ := Nat.exists_eq_add_of_le' (Nat.lt_of_le_of_lt (Nat.zero_le _) lt)
    simp only [fieldsLaidOut, List.append_assoc, List.cons_append, List.length_append,
      List.length_cons] at lt ⊢
    rw [readFields_append (layout.isBlank_line depth)]
    refine readFields_last blank ?_
    rw [readValue_append layout.isBlank_gap]
    exact readValue_laidOut layout value (Bool.and_eq_true_iff.mp plain).1 depth fuel _ (by omega)
  | (name, value) :: second :: rest, plain => by
    intro _ depth fuel close more blank lt
    obtain ⟨fuel, rfl⟩ := Nat.exists_eq_add_of_le' (Nat.lt_of_le_of_lt (Nat.zero_le _) lt)
    obtain ⟨plainFirst, plainRest⟩ := Bool.and_eq_true_iff.mp plain
    have parts : fieldsLaidOut layout depth ((name, value) :: second :: rest) =
        layout.line depth ++ ((quoted name).toList ++
          ':' :: (layout.gap ++ (value.laidOut layout depth ++
            ',' :: fieldsLaidOut layout depth (second :: rest)))) := rfl
    simp only [parts, List.append_assoc, List.cons_append, List.length_append,
      List.length_cons] at lt ⊢
    rw [readFields_append (layout.isBlank_line depth)]
    refine readFields_cons ?_ (readFields_laidOut layout (second :: rest) plainRest nofun
      depth fuel close more blank (by omega))
    rw [readValue_append layout.isBlank_gap]
    exact readValue_laidOut layout value plainFirst depth fuel _ (by omega)

end

/-! ## Whole texts -/

mutual

/-- The compact writer uses no blanks. -/
theorem toList_compact : ∀ (document : Json) (depth : Nat),
    document.compact.toList = document.laidOut .compact depth
  | null, _ | bool _, _ | number _, _ | string _, _ | truncated, _ | unreadable, _
  | unnamed _, _ => rfl
  | array [], _ | object [], _ => by simp [compact, compactElements, compactFields, laidOut]
  | array (first :: rest), depth => by
    simp [compact, laidOut, toList_compactElements (first :: rest) (depth + 1), Layout.compact]
  | object (first :: rest), depth => by
    simp [compact, laidOut, toList_compactFields (first :: rest) (depth + 1), Layout.compact]

theorem toList_compactElements : ∀ (elements : List Json) (depth : Nat),
    (compactElements elements).toList = elementsLaidOut .compact depth elements
  | [], _ => rfl
  | [last], depth => toList_compact last depth
  | first :: second :: rest, depth => by
    simp [compactElements, elementsLaidOut, toList_compact first depth,
      toList_compactElements (second :: rest) depth, Layout.compact]

theorem toList_compactFields : ∀ (fields : List (String × Json)) (depth : Nat),
    (compactFields fields).toList = fieldsLaidOut .compact depth fields
  | [], _ => rfl
  | [(name, value)], depth => by
    simp [compactFields, fieldsLaidOut, toList_compact value depth, Layout.compact]
  | (name, value) :: second :: rest, depth => by
    simp [compactFields, fieldsLaidOut, toList_compact value depth,
      toList_compactFields (second :: rest) depth, Layout.compact]

end

mutual

/-- The pretty writer starts new lines. -/
theorem toList_prettyAt : ∀ (document : Json) (depth : Nat),
    (document.prettyAt depth).toList = document.laidOut .pretty depth
  | null, _ | bool _, _ | number _, _ | string _, _ | truncated, _ | unreadable, _
  | unnamed _, _ => rfl
  | array [], _ | object [], _ => by simp [prettyAt, laidOut]
  | array (first :: rest), depth => by
    simp [prettyAt, laidOut, toList_prettyElements (first :: rest) (depth + 1), Layout.pretty]
  | object (first :: rest), depth => by
    simp [prettyAt, laidOut, toList_prettyFields (first :: rest) (depth + 1), Layout.pretty]

theorem toList_prettyElements : ∀ (elements : List Json) (depth : Nat),
    (prettyElements depth elements).toList = elementsLaidOut .pretty depth elements
  | [], _ => rfl
  | [last], depth => by
    simp [prettyElements, elementsLaidOut, toList_prettyAt last depth, Layout.pretty]
  | first :: second :: rest, depth => by
    simp [prettyElements, elementsLaidOut, toList_prettyAt first depth,
      toList_prettyElements (second :: rest) depth, Layout.pretty]

theorem toList_prettyFields : ∀ (fields : List (String × Json)) (depth : Nat),
    (prettyFields depth fields).toList = fieldsLaidOut .pretty depth fields
  | [], _ => rfl
  | [(name, value)], depth => by
    simp [prettyFields, fieldsLaidOut, toList_prettyAt value depth, Layout.pretty]
  | (name, value) :: second :: rest, depth => by
    simp [prettyFields, fieldsLaidOut, toList_prettyAt value depth,
      toList_prettyFields (second :: rest) depth, Layout.pretty]

end

/-- A plain document is the whole of its text. -/
theorem read_of_toList {document : Json} {text : String} (layout : Layout)
    (laidOut : text.toList = document.laidOut layout 0) (plain : document.isPlain = true) :
    read text = (document, true) := by
  have found := readValue_laidOut layout document plain 0 text.toList.length []
    (laidOut ▸ Nat.le_refl _)
  rw [List.append_nil, ← laidOut] at found
  rw [read, found]
  rfl

/-- A value is decoded from the text of a document as it is from the document. -/
theorem decodeText_of_read {α : Type} {document : Json} {text : String}
    (found : read text = (document, true)) (shallow : document.depth ≤ maxDepth)
    (decode : Json → Decoded α) : decodeText decode text = decode document := by
  rw [decodeText, found]
  dsimp only
  rw [within_of_depth_le shallow]
  cases decode document <;> rfl

section

variable {α : Type} {document : Json} (plain : document.isPlain = true)
  (shallow : document.depth ≤ maxDepth) (decode : Json → Decoded α)

include plain shallow

/-- **A value is decoded from a text on one line** as it is from the document. -/
theorem decodeText_compact : decodeText decode document.compact = decode document :=
  decodeText_of_read (read_of_toList .compact (toList_compact document 0) plain) shallow decode

/-- **A value is decoded from a text on many lines** as it is from the document. -/
theorem decodeText_pretty : decodeText decode document.pretty = decode document :=
  decodeText_of_read (read_of_toList .pretty (toList_prettyAt document 0) plain) shallow decode

end

end Diglot.Json
