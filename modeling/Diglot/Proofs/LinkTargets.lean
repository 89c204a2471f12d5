import Diglot.Proofs.Texts

/-!
# Where links lead

`retarget` moves the targets of all links in what is displayed, and leaves everything else as it
is. To erase the targets is to move them all to nowhere.

* `retarget_retarget`, `retarget_id` — targets that are moved twice, and targets that stay.
* `Signature.retarget_injective` — if no two targets become one, signatures remain different.
* `Signature.text_retarget` — the text does not depend on targets.
-/

namespace Diglot

/-- The link with its target moved. -/
def Link.retarget (move : String → String) (link : Link) : Link := ⟨link.name, move link.url⟩

theorem Link.retarget_unlinked {move : String → String} (stays : move "" = "") (name : String) :
    (unlinked name).retarget move = unlinked name := by
  rw [retarget, unlinked, stays]

/-- Leaves no target. -/
def nowhere (_ : String) : String := ""

section

variable (move again : String → String)

/-! ## Annotations -/

mutual

/-- The argument with its targets moved. -/
def ShownArgument.retarget : ShownArgument → ShownArgument
  | .value name value => .value name value
  | .array name elements => .array name (ShownArgument.retargetList elements)
  | .nested name inner => .nested name inner.retarget

/-- The arguments of a list with their targets moved. -/
def ShownArgument.retargetList : List ShownArgument → List ShownArgument
  | [] => []
  | argument :: rest => argument.retarget :: ShownArgument.retargetList rest

/-- The annotation with its targets moved. -/
def ShownAnnotation.retarget : ShownAnnotation → ShownAnnotation
  | ⟨link, arguments⟩ => ⟨link.retarget move, ShownArgument.retargetList arguments⟩

end

mutual

@[simp]
theorem ShownArgument.retarget_retarget : ∀ argument : ShownArgument,
    (argument.retarget move).retarget again = argument.retarget (again ∘ move)
  | .value name value => rfl
  | .array name elements => by
    simp only [ShownArgument.retarget, ShownArgument.retargetList_retargetList elements]
  | .nested name inner => by
    simp only [ShownArgument.retarget, ShownAnnotation.retarget_retarget inner]

@[simp]
theorem ShownArgument.retargetList_retargetList : ∀ arguments : List ShownArgument,
    ShownArgument.retargetList again (ShownArgument.retargetList move arguments) =
      ShownArgument.retargetList (again ∘ move) arguments
  | [] => rfl
  | argument :: rest => by
    simp only [ShownArgument.retargetList, ShownArgument.retarget_retarget argument,
      ShownArgument.retargetList_retargetList rest]

@[simp]
theorem ShownAnnotation.retarget_retarget : ∀ a : ShownAnnotation,
    (a.retarget move).retarget again = a.retarget (again ∘ move)
  | ⟨link, arguments⟩ => by
    simp only [ShownArgument.retargetList_retargetList arguments, ShownAnnotation.retarget]
    rfl

end

mutual

@[simp]
theorem ShownArgument.retarget_id : ∀ argument : ShownArgument, argument.retarget id = argument
  | .value name value => rfl
  | .array name elements => by
    simp only [ShownArgument.retarget, ShownArgument.retargetList_id elements]
  | .nested name inner => by
    simp only [ShownArgument.retarget, ShownAnnotation.retarget_id inner]

@[simp]
theorem ShownArgument.retargetList_id : ∀ arguments : List ShownArgument,
    ShownArgument.retargetList id arguments = arguments
  | [] => rfl
  | argument :: rest => by
    simp only [ShownArgument.retargetList, ShownArgument.retarget_id argument,
      ShownArgument.retargetList_id rest]

@[simp]
theorem ShownAnnotation.retarget_id : ∀ annotation : ShownAnnotation,
    annotation.retarget id = annotation
  | ⟨link, arguments⟩ => by
    simp only [ShownArgument.retargetList_id arguments, ShownAnnotation.retarget]
    rfl

end

mutual

@[simp]
theorem ShownArgument.visible_retarget : ∀ argument : ShownArgument,
    (argument.retarget move).visible = argument.visible
  | .value name value => rfl
  | .array name elements => by
    simp only [ShownArgument.retarget, ShownArgument.visible,
      ShownArgument.visibleList_retargetList elements]
  | .nested name inner => by
    simp only [ShownArgument.retarget, ShownArgument.visible,
      ShownAnnotation.visible_retarget inner]

@[simp]
theorem ShownArgument.visibleList_retargetList : ∀ arguments : List ShownArgument,
    ShownArgument.visibleList (ShownArgument.retargetList move arguments) =
      ShownArgument.visibleList arguments
  | [] => rfl
  | argument :: rest => by
    simp only [ShownArgument.retargetList, ShownArgument.visibleList,
      ShownArgument.visible_retarget argument, ShownArgument.visibleList_retargetList rest]

@[simp]
theorem ShownAnnotation.visible_retarget : ∀ a : ShownAnnotation,
    (a.retarget move).visible = a.visible
  | ⟨link, arguments⟩ => by
    simp only [ShownArgument.visibleList_retargetList arguments, ShownAnnotation.visible,
      ShownAnnotation.retarget]
    rfl

end

/-! ## Types -/

/-- The face with the targets of its annotations moved. -/
def Face.retarget (face : Face) : Face :=
  { face with annotations := face.annotations.map (.retarget move) }

mutual

/-- The type with its targets moved. -/
def ShownType.retarget : ShownType → ShownType
  | .plain face link arguments =>
    .plain (face.retarget move) (link.retarget move) (ShownType.retargetList arguments)
  | .mapped face link mutable arguments =>
    .mapped (face.retarget move) (link.retarget move) (mutable.retarget move)
      (ShownType.retargetList arguments)
  | .lambda face isSuspend receiver parameters returnType =>
    .lambda (face.retarget move) isSuspend (ShownType.retargetReceiver receiver)
      (ShownParameter.retargetList parameters) returnType.retarget

/-- The types of a list with their targets moved. -/
def ShownType.retargetList : List ShownType → List ShownType
  | [] => []
  | type :: rest => type.retarget :: ShownType.retargetList rest

/-- A receiver with its targets moved. -/
def ShownType.retargetReceiver : Option ShownType → Option ShownType
  | none => none
  | some receiver => some receiver.retarget

/-- The parameters of a list with their targets moved. -/
def ShownParameter.retargetList : List ShownParameter → List ShownParameter
  | [] => []
  | parameter :: rest => parameter.retarget :: ShownParameter.retargetList rest

/-- The parameter with its targets moved. -/
def ShownParameter.retarget : ShownParameter → ShownParameter
  | ⟨name, type, default, modifiers, annotations, dialect⟩ =>
    ⟨name, type.retarget, default, modifiers, annotations.map (.retarget move),
      dialect⟩

end

theorem ShownType.retargetList_eq_map (types : List ShownType) :
    retargetList move types = types.map (retarget move) := by
  induction types with
  | nil => rfl
  | cons type rest ih => rw [retargetList, ih, List.map_cons]

theorem ShownType.retargetReceiver_eq_map (receiver : Option ShownType) :
    retargetReceiver move receiver = receiver.map (retarget move) := by
  cases receiver <;> rfl

theorem ShownParameter.retargetList_eq_map (parameters : List ShownParameter) :
    retargetList move parameters = parameters.map (retarget move) := by
  induction parameters with
  | nil => rfl
  | cons parameter rest ih => rw [retargetList, ih, List.map_cons]

@[simp]
theorem Face.retarget_retarget (face : Face) :
    (face.retarget move).retarget again = face.retarget (again ∘ move) := by
  simp [Face.retarget, Function.comp_def]

@[simp]
theorem Face.retarget_id (face : Face) : face.retarget id = face := by
  obtain ⟨nullability, dialect, annotations⟩ := face
  simp [Face.retarget, List.map_id'' ShownAnnotation.retarget_id]

@[simp]
theorem Face.visible_retarget (face : Face) : (face.retarget move).visible = face.visible := by
  simp [Face.retarget, Face.visible, Function.comp_def]

@[simp]
theorem Face.visibleLambda_retarget (face : Face) :
    (face.retarget move).visibleLambda = face.visibleLambda := by
  simp [Face.retarget, Face.visibleLambda, Function.comp_def]

mutual

@[simp]
theorem ShownType.retarget_retarget : ∀ type : ShownType,
    (type.retarget move).retarget again = type.retarget (again ∘ move)
  | .plain face link arguments => by
    simp only [ShownType.retarget, Face.retarget_retarget,
      ShownType.retargetList_retargetList arguments]
    rfl
  | .mapped face link mutable arguments => by
    simp only [ShownType.retarget, Face.retarget_retarget,
      ShownType.retargetList_retargetList arguments]
    rfl
  | .lambda face isSuspend receiver parameters returnType => by
    simp only [ShownType.retarget, Face.retarget_retarget,
      ShownType.retargetReceiver_retargetReceiver receiver,
      ShownParameter.retargetList_retargetList parameters,
      ShownType.retarget_retarget returnType]

@[simp]
theorem ShownType.retargetList_retargetList : ∀ types : List ShownType,
    ShownType.retargetList again (ShownType.retargetList move types) =
      ShownType.retargetList (again ∘ move) types
  | [] => rfl
  | type :: rest => by
    simp only [ShownType.retargetList, ShownType.retarget_retarget type,
      ShownType.retargetList_retargetList rest]

@[simp]
theorem ShownType.retargetReceiver_retargetReceiver : ∀ receiver : Option ShownType,
    ShownType.retargetReceiver again (ShownType.retargetReceiver move receiver) =
      ShownType.retargetReceiver (again ∘ move) receiver
  | none => rfl
  | some receiver => by
    simp only [ShownType.retargetReceiver, ShownType.retarget_retarget receiver]

@[simp]
theorem ShownParameter.retargetList_retargetList : ∀ parameters : List ShownParameter,
    ShownParameter.retargetList again (ShownParameter.retargetList move parameters) =
      ShownParameter.retargetList (again ∘ move) parameters
  | [] => rfl
  | parameter :: rest => by
    simp only [ShownParameter.retargetList, ShownParameter.retarget_retarget parameter,
      ShownParameter.retargetList_retargetList rest]

@[simp]
theorem ShownParameter.retarget_retarget : ∀ parameter : ShownParameter,
    (parameter.retarget move).retarget again = parameter.retarget (again ∘ move)
  | ⟨name, type, default, modifiers, annotations, dialect⟩ => by
    simp only [ShownParameter.retarget, ShownType.retarget_retarget type, List.map_map,
      Function.comp_def, ShownAnnotation.retarget_retarget]

end

mutual

@[simp]
theorem ShownType.retarget_id : ∀ type : ShownType, type.retarget id = type
  | .plain face link arguments => by
    simp only [ShownType.retarget, Face.retarget_id, ShownType.retargetList_id arguments]
    rfl
  | .mapped face link mutable arguments => by
    simp only [ShownType.retarget, Face.retarget_id, ShownType.retargetList_id arguments]
    rfl
  | .lambda face isSuspend receiver parameters returnType => by
    simp only [ShownType.retarget, Face.retarget_id, ShownType.retargetReceiver_id receiver,
      ShownParameter.retargetList_id parameters, ShownType.retarget_id returnType]

@[simp]
theorem ShownType.retargetList_id : ∀ types : List ShownType,
    ShownType.retargetList id types = types
  | [] => rfl
  | type :: rest => by
    simp only [ShownType.retargetList, ShownType.retarget_id type, ShownType.retargetList_id rest]

@[simp]
theorem ShownType.retargetReceiver_id : ∀ receiver : Option ShownType,
    ShownType.retargetReceiver id receiver = receiver
  | none => rfl
  | some receiver => by
    simp only [ShownType.retargetReceiver, ShownType.retarget_id receiver]

@[simp]
theorem ShownParameter.retargetList_id : ∀ parameters : List ShownParameter,
    ShownParameter.retargetList id parameters = parameters
  | [] => rfl
  | parameter :: rest => by
    simp only [ShownParameter.retargetList, ShownParameter.retarget_id parameter,
      ShownParameter.retargetList_id rest]

@[simp]
theorem ShownParameter.retarget_id : ∀ parameter : ShownParameter,
    parameter.retarget id = parameter
  | ⟨name, type, default, modifiers, annotations, dialect⟩ => by
    simp only [ShownParameter.retarget, ShownType.retarget_id type,
      List.map_id'' ShownAnnotation.retarget_id]

end

mutual

@[simp]
theorem ShownType.visible_retarget : ∀ type : ShownType,
    (type.retarget move).visible = type.visible
  | .plain face link arguments => by
    simp only [ShownType.retarget, ShownType.visible, Face.visible_retarget,
      ShownType.visibleList_retargetList arguments]
    rfl
  | .mapped face link mutable arguments => by
    simp only [ShownType.retarget, ShownType.visible, Face.visible_retarget,
      ShownType.visibleList_retargetList arguments]
    rfl
  | .lambda face isSuspend receiver parameters returnType => by
    simp only [ShownType.retarget, ShownType.visible, Face.visibleLambda_retarget,
      ShownType.visibleReceiver_retargetReceiver receiver,
      ShownParameter.visibleList_retargetList parameters, ShownType.visible_retarget returnType]

@[simp]
theorem ShownType.visibleList_retargetList : ∀ types : List ShownType,
    ShownType.visibleList (ShownType.retargetList move types) = ShownType.visibleList types
  | [] => rfl
  | type :: rest => by
    simp only [ShownType.retargetList, ShownType.visibleList, ShownType.visible_retarget type,
      ShownType.visibleList_retargetList rest]

@[simp]
theorem ShownType.visibleReceiver_retargetReceiver : ∀ receiver : Option ShownType,
    ShownType.visibleReceiver (ShownType.retargetReceiver move receiver) =
      ShownType.visibleReceiver receiver
  | none => rfl
  | some receiver => by
    simp only [ShownType.retargetReceiver, ShownType.visibleReceiver,
      ShownType.visible_retarget receiver]

@[simp]
theorem ShownParameter.visibleList_retargetList : ∀ parameters : List ShownParameter,
    ShownParameter.visibleList (ShownParameter.retargetList move parameters) =
      ShownParameter.visibleList parameters
  | [] => rfl
  | parameter :: rest => by
    simp only [ShownParameter.retargetList, ShownParameter.visibleList,
      ShownParameter.visible_retarget parameter, ShownParameter.visibleList_retargetList rest]

@[simp]
theorem ShownParameter.visible_retarget : ∀ parameter : ShownParameter,
    (parameter.retarget move).visible = parameter.visible
  | ⟨name, type, default, modifiers, annotations, dialect⟩ => by
    simp only [ShownParameter.retarget, ShownParameter.visible, ShownType.visible_retarget type,
      List.map_map, Function.comp_def, ShownAnnotation.visible_retarget]

end

/-! ## Signatures -/

namespace ShownTypeParameter

/-- The type parameter with its targets moved. -/
def retarget (parameter : ShownTypeParameter) : ShownTypeParameter :=
  { parameter with bounds := parameter.bounds.map (ShownType.retarget move) }

@[simp]
theorem retarget_retarget (parameter : ShownTypeParameter) :
    (parameter.retarget move).retarget again = parameter.retarget (again ∘ move) := by
  simp [retarget, Function.comp_def]

@[simp]
theorem retarget_id (parameter : ShownTypeParameter) : parameter.retarget id = parameter := by
  obtain ⟨name, bounds, dialect⟩ := parameter
  simp [retarget, List.map_id'' ShownType.retarget_id]

@[simp]
theorem visible_retarget (parameter : ShownTypeParameter) :
    (parameter.retarget move).visible = parameter.visible := by
  simp [retarget, visible, Function.comp_def]

end ShownTypeParameter

/-- A receiver with its targets moved shows the same. -/
@[simp]
theorem visibleReceiver_retarget (receiver : Option ShownParameter) :
    visibleReceiver (receiver.map (ShownParameter.retarget move)) = visibleReceiver receiver := by
  rcases receiver with _ | ⟨name, type, _⟩
  · rfl
  · simp [visibleReceiver, ShownParameter.retarget]

/-- The function with its targets moved. -/
def FunctionSignature.retarget (s : FunctionSignature) : FunctionSignature :=
  { s with
    name := s.name.retarget move
    annotations := s.annotations.map (.retarget move)
    typeParameters := s.typeParameters.map (ShownTypeParameter.retarget move)
    receiver := s.receiver.map (ShownParameter.retarget move)
    parameters := ShownParameter.retargetList move s.parameters
    returnType := s.returnType.retarget move }

/-- The property with its targets moved. -/
def PropertySignature.retarget (s : PropertySignature) : PropertySignature :=
  { s with
    name := s.name.retarget move
    annotations := s.annotations.map (.retarget move)
    receiver := s.receiver.map (ShownParameter.retarget move)
    type := s.type.retarget move }

namespace Signature

/-- The signature with its targets moved. -/
def retarget : Signature → Signature
  | function s => .function (s.retarget move)
  | property s => .property (s.retarget move)

@[simp]
theorem retarget_retarget (σ : Signature) :
    (σ.retarget move).retarget again = σ.retarget (again ∘ move) := by
  cases σ <;>
    simp [retarget, FunctionSignature.retarget, PropertySignature.retarget, Link.retarget,
      Function.comp_def]

@[simp]
theorem retarget_id (σ : Signature) : σ.retarget id = σ := by
  have receivers : ∀ receiver : Option ShownParameter,
      receiver.map (ShownParameter.retarget id) = receiver := by
    rintro (_ | receiver) <;> simp
  rcases σ with ⟨dialect, name, _⟩ | ⟨dialect, name, _⟩ <;>
    simp [retarget, FunctionSignature.retarget, PropertySignature.retarget, Link.retarget,
      receivers, List.map_id'' ShownAnnotation.retarget_id,
      List.map_id'' ShownTypeParameter.retarget_id]

/-- Targets are not visible. -/
@[simp]
theorem visible_retarget (σ : Signature) : (σ.retarget move).visible = σ.visible := by
  cases σ <;>
    simp [retarget, FunctionSignature.retarget, PropertySignature.retarget, visible,
      FunctionSignature.visible, PropertySignature.visible, Link.retarget, Link.visible,
      Function.comp_def]

/-- **The text does not depend on targets.** -/
theorem text_retarget (σ : Signature) : (σ.retarget move).text = σ.text :=
  text_eq_of_visible_eq (σ.visible_retarget move)

variable {move}

/-- **If no two targets become one, signatures remain different.** -/
theorem retarget_injective (injective : Function.Injective move) :
    Function.Injective (retarget move) := by
  obtain ⟨back, undone⟩ := injective.hasLeftInverse
  have inverse : Function.LeftInverse (retarget back) (retarget move) := fun σ => by
    rw [retarget_retarget, undone.comp_eq_id, retarget_id]
  exact inverse.injective

end Signature

end

end Diglot
