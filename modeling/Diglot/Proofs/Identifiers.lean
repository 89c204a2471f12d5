import Diglot.Proofs.EnclosedTexts
import Diglot.Proofs.Placement

/-!
# What an identifier tells

Annotations with the same identifier are duplicates, of which the first is displayed. An identifier
is one line in which nothing is quoted, so different annotations can have the same one
(`identifiers_collide`).

* `Annotation.isClear` — annotations in which no name and no value looks like something else.
* `Annotation.enclosed_identifier` — what is written for a clear annotation is enclosed.
* `Context.shownAnnotation_eq_of_identifier` — clear annotations with the same identifier are
  displayed the same, if classes with the same name have the same link.
* `duplicates_displayed_alike` — so what is dropped as a duplicate is displayed all the same.
-/

namespace Diglot

open Annotation

/-! ## Clear annotations -/

/-- Whether a name inside of `depth` brackets is enclosed, and ends where `stop` follows. -/
def isClearName (depth : Nat) (stop : Char) (name : String) : Bool :=
  Enclosed depth name.toList && name.toList.all fun c => c ≠ stop

theorem isClearName_iff {depth : Nat} {stop : Char} {name : String} :
    isClearName depth stop name = true ↔
      Enclosed depth name.toList ∧ ∀ c ∈ name.toList, c ∉ [stop] := by
  simp [isClearName]

/-- Whether a text can be a value other than an array and an annotation, which begin with a mark. -/
def isClearValue (text : String) : Bool :=
  Enclosed 0 text.toList && text.toList.head?.any fun c => c ≠ '\x7b' && c ≠ '@'

mutual

/-- Whether a value is what it looks like, with classes from the list only. -/
def AnnotationValue.isClear (classes : List Identity) : AnnotationValue → Bool
  | .array elements => AnnotationValue.areClear classes elements
  | .nested inner => inner.isClear classes
  | .string text => isClearValue (AnnotationValue.string text).text
  | .literal text => isClearValue text
  | .enumConstant text => isClearValue text
  | .classLiteral text => isClearValue text

/-- Whether all values of a list are clear. -/
def AnnotationValue.areClear (classes : List Identity) : List AnnotationValue → Bool
  | [] => true
  | value :: rest => value.isClear classes && AnnotationValue.areClear classes rest

/-- Whether all arguments of a list are clear. -/
def AnnotationArgument.areClear (classes : List Identity) : List AnnotationArgument → Bool
  | [] => true
  | ⟨name, value⟩ :: rest =>
    isClearName 1 '=' name && value.isClear classes && AnnotationArgument.areClear classes rest

/-- **Whether an annotation is what it looks like**, with classes from the list only: no name and no
value in it, however deep, can be taken for something else. -/
def Annotation.isClear (classes : List Identity) : Annotation → Bool
  | ⟨identity, arguments⟩ =>
    classes.contains identity && isClearName 0 '(' identity.fullName &&
      AnnotationArgument.areClear classes arguments

end

/-! ## What is written -/

/-- What `write` writes for the members of a list behind another one. -/
def behind {α : Type} (write : List α → String) : List α → List Char
  | [] => []
  | first :: rest => ',' :: ' ' :: (write (first :: rest)).toList

section

variable {α : Type} {write : List α → String}

/-- What is written for the other members of a list begins with a comma. -/
theorem stopsAt_behind (write : List α → String) (rest : List α) :
    StopsAt [','] (behind write rest) := by
  cases rest with
  | nil => exact StopsAt.nil _
  | cons first rest => exact StopsAt.cons (by decide) _

/-- Inside of a bracket, what is written for the other members can be read if the list can. -/
theorem enclosed_behind {depth : Nat} {rest : List α}
    (inside : Enclosed (depth + 1) (write rest).toList) :
    Enclosed (depth + 1) (behind write rest) := by
  cases rest with
  | nil => exact Enclosed.nil _
  | cons first rest => exact Enclosed.comma (Enclosed.cons rfl inside)

/-- The list is written the same if what is behind another member is. -/
theorem write_eq_of_behind {rest rest' : List α} (same : behind write rest = behind write rest') :
    write rest = write rest' := by
  cases rest with
  | nil =>
    cases rest' with
    | nil => rfl
    | cons first' rest' => cases same
  | cons first rest =>
    cases rest' with
    | nil => cases same
    | cons first' rest' =>
      rw [behind, behind, List.cons.injEq, List.cons.injEq, String.toList_inj] at same
      exact same.2.2

end

namespace AnnotationValue

/-- The character that an array or an annotation begins with. -/
def mark? : AnnotationValue → Option Char
  | array _ => some '\x7b'
  | nested _ => some '@'
  | string _ | literal _ | enumConstant _ | classLiteral _ => none

theorem toList_text_array (elements : List AnnotationValue) :
    (array elements).text.toList = '\x7b' :: ((textList elements).toList ++ ['\x7d']) := by
  simp [text]

theorem toList_text_nested (inner : Annotation) :
    (nested inner).text.toList = '@' :: inner.identifier.toList := by
  simp [text]

theorem toList_textList_cons (value : AnnotationValue) (rest : List AnnotationValue) :
    (textList (value :: rest)).toList = value.text.toList ++ behind textList rest := by
  cases rest with
  | nil => simp [textList, behind]
  | cons next others => simp [textList, behind]

variable {classes : List Identity} {a b : AnnotationValue}

/-- **The first character tells** whether a value is an array, an annotation or neither. -/
theorem exists_toList_text (clear : a.isClear classes = true) :
    ∃ c rest, a.text.toList = c :: rest ∧
      a.mark? = if c = '\x7b' ∨ c = '@' then some c else none := by
  have atom : ∀ text : String, isClearValue text = true →
      ∃ c rest, text.toList = c :: rest ∧
        none = if c = '\x7b' ∨ c = '@' then some c else none := by
    intro text clear
    rw [isClearValue, Bool.and_eq_true] at clear
    cases chars : text.toList with
    | nil =>
      rw [chars] at clear
      cases clear.2
    | cons c rest =>
      rw [chars] at clear
      have unmarked : ¬ (c = '\x7b' ∨ c = '@') := by simpa using clear.2
      exact ⟨c, rest, rfl, (if_neg unmarked).symm⟩
  cases a with
  | array elements => exact ⟨_, _, toList_text_array elements, rfl⟩
  | nested inner => exact ⟨_, _, toList_text_nested inner, rfl⟩
  | string | literal | enumConstant | classLiteral => exact atom _ clear

/-- Values with the same text begin alike. -/
theorem mark?_eq (clearA : a.isClear classes = true) (clearB : b.isClear classes = true)
    (same : a.text = b.text) : a.mark? = b.mark? := by
  obtain ⟨c, rest, textA, markA⟩ := exists_toList_text clearA
  obtain ⟨d, others, textB, markB⟩ := exists_toList_text clearB
  rw [same, textB, List.cons.injEq] at textA
  rw [markA, markB, textA.1]

/-- Lists with members are not written like the empty one. -/
theorem textList_cons_ne (clear : a.isClear classes = true) (rest : List AnnotationValue) :
    textList (a :: rest) ≠ textList [] := by
  obtain ⟨c, more, text, -⟩ := exists_toList_text clear
  rw [← String.toList_inj.ne, toList_textList_cons, text]
  exact List.cons_ne_nil _ _

end AnnotationValue

namespace AnnotationArgument

theorem toList_textList_cons (name : String) (value : AnnotationValue)
    (rest : List AnnotationArgument) :
    (textList (⟨name, value⟩ :: rest)).toList =
      name.toList ++ '=' :: (value.text.toList ++ behind textList rest) := by
  cases rest with
  | nil => simp [textList, behind]
  | cons next others => simp [textList, behind]

/-- Lists with members are not written like the empty one. -/
theorem textList_cons_ne : ∀ (first : AnnotationArgument) (rest : List AnnotationArgument),
    textList (first :: rest) ≠ textList [] := by
  rintro ⟨name, value⟩ rest
  rw [← String.toList_inj.ne, toList_textList_cons]
  exact List.append_ne_nil_of_right_ne_nil _ (List.cons_ne_nil _ _)

/-- What is written for arguments behind the name of the class. -/
def inParentheses : List AnnotationArgument → List Char
  | [] => []
  | first :: rest => '(' :: ((textList (first :: rest)).toList ++ [')'])

/-- What is written for arguments behind the class begins with a parenthesis. -/
theorem stopsAt_inParentheses (arguments : List AnnotationArgument) :
    StopsAt ['('] (inParentheses arguments) := by
  cases arguments with
  | nil => exact StopsAt.nil _
  | cons first rest => exact StopsAt.cons (List.mem_singleton_self _) _

/-- What is written for arguments behind the class is enclosed if the arguments can stand in
parentheses. -/
theorem enclosed_inParentheses {depth : Nat} {arguments : List AnnotationArgument}
    (inside : Enclosed (depth + 1) (textList arguments).toList) :
    Enclosed depth (inParentheses arguments) := by
  cases arguments with
  | nil => exact Enclosed.nil _
  | cons first rest => exact Enclosed.bracket rfl rfl inside

/-- What is written for arguments behind the class tells what is written for the arguments. -/
theorem textList_eq_of_inParentheses {as bs : List AnnotationArgument}
    (same : inParentheses as = inParentheses bs) : textList as = textList bs := by
  cases as with
  | nil =>
    cases bs with
    | nil => rfl
    | cons b bs => cases same
  | cons a as =>
    cases bs with
    | nil => cases same
    | cons b bs =>
      rw [inParentheses, inParentheses, List.cons.injEq, List.append_cancel_right_eq,
        String.toList_inj] at same
      exact same.2

end AnnotationArgument

theorem Annotation.toList_identifier (identity : Identity) (arguments : List AnnotationArgument) :
    (identifier ⟨identity, arguments⟩).toList =
      identity.fullName.toList ++ AnnotationArgument.inParentheses arguments := by
  cases arguments with
  | nil => simp [identifier, AnnotationArgument.inParentheses]
  | cons first rest => simp [identifier, AnnotationArgument.inParentheses]

/-! ## What is written is enclosed -/

section

variable {classes : List Identity}

mutual

/-- **What is written for a clear value is enclosed.** -/
theorem AnnotationValue.enclosed_text : ∀ value : AnnotationValue, value.isClear classes = true →
    ∀ depth, Enclosed depth value.text.toList
  | .array elements, clear, depth => by
    rw [AnnotationValue.toList_text_array]
    exact Enclosed.bracket rfl rfl (AnnotationValue.enclosed_textList elements clear depth)
  | .nested inner, clear, depth => by
    rw [AnnotationValue.toList_text_nested]
    exact Enclosed.cons rfl (inner.enclosed_identifier clear depth)
  | .string _, clear, depth | .literal _, clear, depth | .enumConstant _, clear, depth
  | .classLiteral _, clear, depth =>
    Enclosed.deeper depth (of_decide_eq_true (Bool.and_eq_true_iff.mp clear).1)

/-- In brackets, what is written for clear elements is enclosed. -/
theorem AnnotationValue.enclosed_textList : ∀ values : List AnnotationValue,
    AnnotationValue.areClear classes values = true →
      ∀ depth, Enclosed (depth + 1) (AnnotationValue.textList values).toList
  | [], _, _ => Enclosed.nil _
  | value :: rest, clear, depth => by
    rw [AnnotationValue.areClear, Bool.and_eq_true] at clear
    obtain ⟨clearValue, clearRest⟩ := clear
    have valued := value.enclosed_text clearValue (depth + 1)
    have rested := enclosed_behind (AnnotationValue.enclosed_textList rest clearRest depth)
    rw [AnnotationValue.toList_textList_cons]
    exact valued.append rested

/-- In parentheses, what is written for clear arguments is enclosed. -/
theorem AnnotationArgument.enclosed_textList : ∀ arguments : List AnnotationArgument,
    AnnotationArgument.areClear classes arguments = true →
      ∀ depth, Enclosed (depth + 1) (AnnotationArgument.textList arguments).toList
  | [], _, _ => Enclosed.nil _
  | ⟨name, value⟩ :: rest, clear, depth => by
    rw [AnnotationArgument.areClear, Bool.and_eq_true, Bool.and_eq_true] at clear
    obtain ⟨⟨clearName, clearValue⟩, clearRest⟩ := clear
    have named : Enclosed (depth + 1) name.toList := (isClearName_iff.mp clearName).1.deeper depth
    have valued := value.enclosed_text clearValue (depth + 1)
    have rested := enclosed_behind (AnnotationArgument.enclosed_textList rest clearRest depth)
    rw [AnnotationArgument.toList_textList_cons]
    exact named.append (Enclosed.cons rfl (valued.append rested))

/-- **What is written for a clear annotation is enclosed.** -/
theorem Annotation.enclosed_identifier : ∀ a : Annotation, a.isClear classes = true →
    ∀ depth, Enclosed depth a.identifier.toList
  | ⟨identity, arguments⟩, clear, depth => by
    rw [isClear, Bool.and_eq_true, Bool.and_eq_true] at clear
    obtain ⟨⟨-, clearName⟩, clearArguments⟩ := clear
    have named := (isClearName_iff.mp clearName).1.deeper depth
    have inside := AnnotationArgument.enclosed_textList arguments clearArguments depth
    rw [toList_identifier]
    exact named.append (AnnotationArgument.enclosed_inParentheses inside)

end

end

/-! ## What is displayed -/

namespace Context

/-- Whether two classes of a list with the same name have the same link. -/
def LinksByName (context : Context) (classes : List Identity) : Prop :=
  ∀ i ∈ classes, ∀ j ∈ classes, i.fullName = j.fullName → context.link i = context.link j

instance (context : Context) (classes : List Identity) : Decidable (context.LinksByName classes) :=
  inferInstanceAs (Decidable (∀ i ∈ classes, ∀ j ∈ classes, _ → _))

variable {context : Context} {classes : List Identity}

mutual

/-- **Clear values with the same text** are displayed the same. -/
theorem shownArgument_eq_of_text (linked : context.LinksByName classes) :
    ∀ a b : AnnotationValue, a.isClear classes = true → b.isClear classes = true →
      a.text = b.text → ∀ name, context.shownArgument name a = context.shownArgument name b
  | .array elements, b, clearA, clearB, same, name => by
    have marks := AnnotationValue.mark?_eq clearA clearB same
    cases b with
    | array others =>
      rw [← String.toList_inj, AnnotationValue.toList_text_array, AnnotationValue.toList_text_array,
        List.cons.injEq, List.append_cancel_right_eq, String.toList_inj] at same
      exact congrArg (ShownArgument.array name)
        (shownElements_eq_of_text linked elements others clearA clearB same.2)
    | nested | string | literal | enumConstant | classLiteral => cases marks
  | .nested inner, b, clearA, clearB, same, name => by
    have marks := AnnotationValue.mark?_eq clearA clearB same
    cases b with
    | nested other =>
      rw [← String.toList_inj, AnnotationValue.toList_text_nested,
        AnnotationValue.toList_text_nested, List.cons.injEq, String.toList_inj] at same
      exact congrArg (ShownArgument.nested name)
        (shownAnnotation_eq_of_identifier linked inner other clearA clearB same.2)
    | array | string | literal | enumConstant | classLiteral => cases marks
  | .string _, b, clearA, clearB, same, name | .literal _, b, clearA, clearB, same, name
  | .enumConstant _, b, clearA, clearB, same, name
  | .classLiteral _, b, clearA, clearB, same, name => by
    have marks := AnnotationValue.mark?_eq clearA clearB same
    cases b with
    | array | nested => cases marks
    | string | literal | enumConstant | classLiteral =>
      exact congrArg (ShownArgument.value name) same

/-- Lists of clear elements with the same text are displayed the same. -/
theorem shownElements_eq_of_text (linked : context.LinksByName classes) :
    ∀ as bs : List AnnotationValue, AnnotationValue.areClear classes as = true →
      AnnotationValue.areClear classes bs = true →
      AnnotationValue.textList as = AnnotationValue.textList bs →
        context.shownElements as = context.shownElements bs
  | [], [], _, _, _ => rfl
  | [], b :: bs, _, clearB, same => by
    rw [AnnotationValue.areClear, Bool.and_eq_true] at clearB
    exact absurd same.symm (AnnotationValue.textList_cons_ne clearB.1 bs)
  | a :: as, [], clearA, _, same => by
    rw [AnnotationValue.areClear, Bool.and_eq_true] at clearA
    exact absurd same (AnnotationValue.textList_cons_ne clearA.1 as)
  | a :: as, b :: bs, clearA, clearB, same => by
    rw [AnnotationValue.areClear, Bool.and_eq_true] at clearA clearB
    obtain ⟨valueA, restA⟩ := clearA
    obtain ⟨valueB, restB⟩ := clearB
    rw [← String.toList_inj, AnnotationValue.toList_textList_cons,
      AnnotationValue.toList_textList_cons] at same
    obtain ⟨first, rest⟩ := eq_of_enclosed (a.enclosed_text valueA 0) (b.enclosed_text valueB 0)
      (stopsAt_behind _ as) (stopsAt_behind _ bs) same
    rw [String.toList_inj] at first
    exact congrArg₂ List.cons (shownArgument_eq_of_text linked a b valueA valueB first "")
      (shownElements_eq_of_text linked as bs restA restB (write_eq_of_behind rest))

/-- Lists of clear arguments with the same text are displayed the same. -/
theorem shownArguments_eq_of_text (linked : context.LinksByName classes) :
    ∀ as bs : List AnnotationArgument, AnnotationArgument.areClear classes as = true →
      AnnotationArgument.areClear classes bs = true →
      AnnotationArgument.textList as = AnnotationArgument.textList bs →
        context.shownArguments as = context.shownArguments bs
  | [], [], _, _, _ => rfl
  | [], b :: bs, _, _, same => absurd same.symm (AnnotationArgument.textList_cons_ne b bs)
  | a :: as, [], _, _, same => absurd same (AnnotationArgument.textList_cons_ne a as)
  | ⟨name, a⟩ :: as, ⟨name', b⟩ :: bs, clearA, clearB, same => by
    rw [AnnotationArgument.areClear, Bool.and_eq_true, Bool.and_eq_true] at clearA clearB
    obtain ⟨⟨nameA, valueA⟩, restA⟩ := clearA
    obtain ⟨⟨nameB, valueB⟩, restB⟩ := clearB
    rw [← String.toList_inj, AnnotationArgument.toList_textList_cons,
      AnnotationArgument.toList_textList_cons] at same
    -- a name ends at the first `=`, and a value at the first comma outside of brackets and quotes
    obtain ⟨names, values⟩ := eq_of_append_eq (isClearName_iff.mp nameA).2
      (isClearName_iff.mp nameB).2 (StopsAt.cons (List.mem_singleton_self _) _)
      (StopsAt.cons (List.mem_singleton_self _) _) same
    obtain ⟨first, rest⟩ := eq_of_enclosed (a.enclosed_text valueA 0) (b.enclosed_text valueB 0)
      (stopsAt_behind _ as) (stopsAt_behind _ bs) (List.cons.inj values).2
    rw [String.toList_inj] at names first
    have value := shownArgument_eq_of_text linked a b valueA valueB first name
    exact congrArg₂ List.cons (names ▸ value)
      (shownArguments_eq_of_text linked as bs restA restB (write_eq_of_behind rest))

/-- **Clear annotations with the same identifier are displayed the same.** -/
theorem shownAnnotation_eq_of_identifier (linked : context.LinksByName classes) :
    ∀ a b : Annotation, a.isClear classes = true → b.isClear classes = true →
      a.identifier = b.identifier → context.shownAnnotation a = context.shownAnnotation b
  | ⟨identity, arguments⟩, ⟨other, others⟩, clearA, clearB, same => by
    rw [isClear, Bool.and_eq_true, Bool.and_eq_true, List.contains_iff_mem]
      at clearA clearB
    obtain ⟨⟨memA, nameA⟩, argumentsA⟩ := clearA
    obtain ⟨⟨memB, nameB⟩, argumentsB⟩ := clearB
    rw [← String.toList_inj, toList_identifier, toList_identifier] at same
    -- without arguments nothing follows the name, so it ends at a parenthesis or with the text
    obtain ⟨names, behindNames⟩ := eq_of_append_eq (isClearName_iff.mp nameA).2
      (isClearName_iff.mp nameB).2 (AnnotationArgument.stopsAt_inParentheses arguments)
      (AnnotationArgument.stopsAt_inParentheses others) same
    rw [String.toList_inj] at names
    exact congrArg₂ ShownAnnotation.mk (linked identity memA other memB names)
      (shownArguments_eq_of_text linked arguments others argumentsA argumentsB
        (AnnotationArgument.textList_eq_of_inParentheses behindNames))

end

end Context

/-- **What is dropped as a duplicate is displayed all the same.** Annotations with the same
identifier are displayed the same if they are clear and classes with the same name have the same
link. So of a list of such annotations, every member is displayed as one that is kept. -/
theorem duplicates_displayed_alike (context : Context) (classes : List Identity)
    (linked : context.LinksByName classes) :
    (∀ a b : Annotation, a.isClear classes = true → b.isClear classes = true →
      a.identifier = b.identifier → context.shownAnnotation a = context.shownAnnotation b) ∧
    ∀ annotations : List Annotation, (∀ a ∈ annotations, a.isClear classes = true) →
      ∀ a ∈ annotations, ∃ kept ∈ distinct annotations,
        kept.identifier = a.identifier ∧
          context.shownAnnotation kept = context.shownAnnotation a := by
  have alike := context.shownAnnotation_eq_of_identifier linked
  refine ⟨alike, fun annotations clear a mem => ?_⟩
  obtain ⟨kept, memKept, same⟩ := exists_mem_distinct mem
  have memAll := (mem_distinct.mp memKept).mem
  exact ⟨kept, memKept, same, alike kept a (clear kept memAll) (clear a mem) same⟩

/-- An annotation with a nested one, of which an argument is given. -/
def columnsOf (width : AnnotationValue) : Annotation :=
  ⟨.ofClass "com.example" "Columns",
    [⟨"value", .array [.nested ⟨.ofClass "com.example" "Column", [⟨"width", width⟩]⟩]⟩,
      ⟨"separator", .string ", "⟩]⟩

/-- Whether a width is a literal or a constant makes a difference to no reader. -/
theorem duplicates_displayed_alike_columnsOf :
    let context := Context.reference .kotlin {}
    let classes := [.ofClass "com.example" "Columns", .ofClass "com.example" "Column"]
    let a := columnsOf (.literal "MAX")
    let b := columnsOf (.enumConstant "MAX")
    a ≠ b ∧ context.LinksByName classes ∧ a.isClear classes = true ∧ b.isClear classes = true ∧
      a.identifier = b.identifier ∧ context.shownAnnotation a = context.shownAnnotation b ∧
      ∃ kept ∈ distinct [a, b], kept.identifier = b.identifier ∧
        context.shownAnnotation kept = context.shownAnnotation b := by
  intro context classes a b
  have linked : context.LinksByName classes := by decide +kernel
  have clearA : a.isClear classes = true := by decide +kernel
  have clearB : b.isClear classes = true := by decide +kernel
  have same : a.identifier = b.identifier := by decide +kernel
  obtain ⟨alike, kept⟩ := duplicates_displayed_alike context classes linked
  refine ⟨by decide +kernel, linked, clearA, clearB, same, alike a b clearA clearB same,
    kept [a, b] ?_ b (by simp)⟩
  simp [clearA, clearB]

/-- An annotation of the class `Tag`. -/
def tag (arguments : List AnnotationArgument) : Annotation :=
  ⟨.ofClass "com.example" "Tag", arguments⟩

/-- Pairs of different annotations with the same identifier. Each breaks one of the conditions under
which annotations are clear, or are linked by name. -/
def lookalikes : List (Prod Annotation Annotation) :=
  [(.ofClass "com.example.Outer" "Inner", .ofClass "com.example" "Outer.Inner"),
    (.ofClass "com.example" "Tag(value=1)", tag [⟨"value", .literal "1"⟩]),
    (tag [⟨"value", .array [.nested (.ofClass "com.example" "A, @com.example.B")]⟩],
      tag [⟨"value", .array [.nested (.ofClass "com.example" "A"),
        .nested (.ofClass "com.example" "B")]⟩]),
    (tag [⟨"value=a", .literal "1"⟩], tag [⟨"value", .literal "a=1"⟩]),
    (tag [⟨"value", .literal "\x7b1\x7d"⟩], tag [⟨"value", .array [.literal "1"]⟩]),
    (tag [⟨"value", .literal "@com.example.A"⟩],
      tag [⟨"value", .nested (.ofClass "com.example" "A")⟩]),
    (tag [⟨"value", .array [.literal ""]⟩], tag [⟨"value", .array []⟩]),
    (tag [⟨"value", .literal "1, other=2"⟩],
      tag [⟨"value", .literal "1"⟩, ⟨"other", .literal "2"⟩]),
    (tag [⟨"value", .array [.string "a\", \"b"]⟩],
      tag [⟨"value", .array [.string "a", .string "b"]⟩])]

/-- **Identifiers collide.** Annotations of a class and of another one with the same name, or with
values that look alike, have the same identifier and are displayed differently, and only the first
is kept. -/
theorem identifiers_collide :
    let context := Context.reference .kotlin {}
    ∀ pair ∈ lookalikes, pair.1.identifier = pair.2.identifier ∧
      context.shownAnnotation pair.1 ≠ context.shownAnnotation pair.2 ∧
        distinct [pair.1, pair.2] = [pair.1] := by
  decide +kernel

end Diglot
