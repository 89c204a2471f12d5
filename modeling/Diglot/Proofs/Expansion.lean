import Diglot.Proofs.KotlinNames

/-!
# Aliases and what they stand for

`TypeUse.expand` puts the type that an alias stands for in the place of the alias, at every
depth. What is shown of the two is compared in each language for types without annotations
(`TypeUse.isBare`): variance and conversion treat annotations in ways of their own.

* `isBare_expand`, `writtenArguments_expand` — expansion adds no annotation, and expands the type
  arguments.
* `TypeUse.namesAlias` — where the name of a type would have to come from an alias.
* `shownArguments_expand` — type arguments can be compared one by one.
-/

namespace Diglot

/-! ## Types without annotations -/

/-- Whether there are no annotations in any source set. -/
def SourcedAnnotations.isBare (annotations : SourcedAnnotations) : Bool :=
  annotations.values.all List.isEmpty

namespace SourcedAnnotations

variable {annotations : SourcedAnnotations}

theorem at_of_isBare (bare : annotations.isBare = true) (sourceSet : String) :
    annotations.at sourceSet = [] := by
  rw [SourcedAnnotations.at, BySourceSet.get?]
  cases found : annotations.entries.find? fun entry => entry.1 = sourceSet with
  | none => rfl
  | some entry =>
    have mem : entry.2 ∈ annotations.values :=
      List.mem_map_of_mem (List.mem_of_find?_eq_some found)
    exact List.isEmpty_iff.mp (List.all_eq_true.mp bare _ mem)

end SourcedAnnotations

namespace TypeUse

mutual

/-- Whether the type has no annotations and no names that are shown in place of others. -/
def isBare : TypeUse → Bool
  | classRef head arguments =>
    head.annotations.isBare && head.shownName.isNone && isBareList arguments
  | parameter head => head.annotations.isBare && head.shownName.isNone
  | javaObject annotations => annotations.isBare
  | nullable inner => inner.isBare
  | nonNull inner => inner.isBare
  | projected _ inner => inner.isBare
  | aliased _ inner => inner.isBare
  | _ => true

/-- Whether every type of a list is bare. -/
def isBareList : List TypeUse → Bool
  | [] => true
  | first :: rest => first.isBare && isBareList rest

end

mutual

/-- The type with every alias in it replaced by what it stands for. -/
def expand : TypeUse → TypeUse
  | classRef head arguments => classRef head (expandList arguments)
  | nullable inner => nullable inner.expand
  | nonNull inner => nonNull inner.expand
  | projected variance inner => projected variance inner.expand
  | aliased _ inner => inner.expand
  | other => other

/-- The types of a list, expanded. -/
def expandList : List TypeUse → List TypeUse
  | [] => []
  | first :: rest => first.expand :: expandList rest

end

theorem isBareList_iff {types : List TypeUse} :
    isBareList types = true ↔ ∀ type ∈ types, type.isBare = true := by
  induction types with
  | nil => simp [isBareList]
  | cons first rest ih => simp [isBareList, ih]

theorem expandList_eq_map (types : List TypeUse) : expandList types = types.map expand := by
  induction types with
  | nil => rfl
  | cons first rest ih => rw [expandList, ih, List.map_cons]

theorem toKotlinList_eq_map (types : List TypeUse) : toKotlinList types = types.map toKotlin := by
  induction types with
  | nil => rfl
  | cons first rest ih => rw [toKotlinList, ih, List.map_cons]

theorem annotationsAt_of_isBare (sourceSet : String) : ∀ type : TypeUse, type.isBare = true →
    type.annotationsAt sourceSet = []
  | classRef head _, bare => by
    simp only [isBare, Bool.and_eq_true] at bare
    exact SourcedAnnotations.at_of_isBare bare.1.1 sourceSet
  | parameter head, bare => by
    simp only [isBare, Bool.and_eq_true] at bare
    exact SourcedAnnotations.at_of_isBare bare.1 sourceSet
  | javaObject _, bare => SourcedAnnotations.at_of_isBare bare sourceSet
  | nullable inner, bare => annotationsAt_of_isBare sourceSet inner bare
  | aliased _ inner, bare => annotationsAt_of_isBare sourceSet inner bare
  | nonNull inner, bare => by
    rw [annotationsAt, annotationsAt_of_isBare sourceSet inner bare]
    rfl
  | projected .., _ | primitive _, _ | void, _ | star, _ | dynamic, _ | unresolved _, _ => rfl

mutual

theorem isBare_expand : ∀ type : TypeUse, type.isBare = true → type.expand.isBare = true
  | classRef head arguments, bare => by
    simp only [isBare, Bool.and_eq_true] at bare
    simp only [expand, isBare, Bool.and_eq_true]
    exact ⟨bare.1, isBareList_expandList arguments bare.2⟩
  | nullable inner, bare => isBare_expand inner bare
  | nonNull inner, bare => isBare_expand inner bare
  | projected _ inner, bare => isBare_expand inner bare
  | aliased _ inner, bare => isBare_expand inner bare
  | parameter _, bare | javaObject _, bare => bare
  | primitive _, _ | void, _ | star, _ | dynamic, _ | unresolved _, _ => rfl

theorem isBareList_expandList : ∀ types : List TypeUse, isBareList types = true →
    isBareList (expandList types) = true
  | [], _ => rfl
  | first :: rest, bare => by
    simp only [isBareList, Bool.and_eq_true] at bare
    simp only [expandList, isBareList, Bool.and_eq_true]
    exact ⟨isBare_expand first bare.1, isBareList_expandList rest bare.2⟩

end

theorem writtenArguments_expand : ∀ type : TypeUse,
    type.expand.writtenArguments = expandList type.writtenArguments
  | nullable inner => writtenArguments_expand inner
  | nonNull inner => writtenArguments_expand inner
  | projected _ inner => writtenArguments_expand inner
  | aliased _ inner => writtenArguments_expand inner
  | classRef .. | parameter _ | primitive _ | javaObject _ | void | star | dynamic
  | unresolved _ => rfl

theorem isBare_of_mem_writtenArguments {argument : TypeUse} (type : TypeUse)
    (bare : type.isBare = true) (mem : argument ∈ type.writtenArguments) :
    argument.isBare = true := by
  refine of_mem_writtenArguments (P := fun type => type.isBare = true) ?_ ?_ type bare argument mem
  · intro type inner inside bare
    cases type <;> cases inside <;> exact bare
  · intro head arguments bare
    simp only [isBare, Bool.and_eq_true] at bare
    exact isBareList_iff.mp bare.2

/-- Whether an alias gives the type its name: it has no name of its own, so `T & Any` around it
has none. -/
def namesAlias : TypeUse → Bool
  | nullable inner => inner.namesAlias
  | nonNull inner => inner.namesAlias
  | aliased .. => true
  | _ => false

end TypeUse

/-- A request without annotations: none are handed to the type, none are displayed elsewhere,
and the type has none. -/
structure TypeRequest.IsBare (request : TypeRequest) : Prop where
  /-- nothing is handed to the type -/
  carried : request.carried = []
  /-- nothing is displayed elsewhere -/
  shownElsewhere : request.shownElsewhere = []
  /-- nothing stands on the type -/
  type : request.type.isBare = true

/-- Expansion leaves a request with the annotations that are handed to it. -/
theorem TypeRequest.annotations_expand (request : TypeRequest)
    (bare : request.type.isBare = true) :
    { request with type := request.type.expand }.annotations = request.annotations := by
  simp only [annotations, TypeUse.annotationsAt_of_isBare _ _ bare,
    TypeUse.annotationsAt_of_isBare _ _ (request.type.isBare_expand bare)]

namespace TypeRequest.IsBare

variable {request : TypeRequest}

theorem annotations (bare : request.IsBare) : request.annotations = [] := by
  rw [TypeRequest.annotations, bare.carried, TypeUse.annotationsAt_of_isBare _ _ bare.type]
  rfl

/-- Expansion leaves a request without annotations. -/
theorem expand (bare : request.IsBare) : { request with type := request.type.expand }.IsBare :=
  ⟨bare.carried, bare.shownElsewhere, TypeUse.isBare_expand _ bare.type⟩

end TypeRequest.IsBare

/-! ## Type arguments -/

/-- Members that come to the same make lists that come to the same. -/
theorem mapM'_map_congr {α β γ : Type} {list : List α} {f g : α → β}
    {F : β → Except RenderError γ} (same : ∀ a ∈ list, F (g a) = F (f a)) :
    (list.map g).mapM' F = (list.map f).mapM' F := by
  simp only [List.mapM'_eq_mapM, List.mapM_map]
  rw [← List.mapM'_eq_mapM, ← List.mapM'_eq_mapM]
  exact mapM'_congr same

/-- **Type arguments of an expanded type** are shown as those of the type, if each of them is
shown as it is once it is expanded. -/
theorem shownArguments_expand {context : Context} (request : TypeRequest)
    (alike : ∀ a ∈ request.type.writtenArguments,
      typeOf context (request.forArgument a.expand) = typeOf context (request.forArgument a)) :
    shownArguments context { request with type := request.type.expand } =
      shownArguments context request := by
  have each := mapM'_map_congr (f := id) (g := TypeUse.expand)
    (F := fun argument => typeOf context (request.forArgument argument)) alike
  rw [List.map_id, ← TypeUse.expandList_eq_map] at each
  rw [shownArguments, TypeUse.writtenArguments_expand]
  exact each

end Diglot
