import Diglot.Proofs.Showing

/-!
# Kotlin sources show no platform types

A platform type comes from Java sources that say nothing about null: Kotlin writes it with `!`,
or with `(Mutable)` in front if it is a collection. `ShownType.Within` reaches every type inside
a displayed one, and `Signature.types` are those that stand in a signature by themselves.

A type that is requested for Kotlin sources requests nothing else below
(`isNative_of_typeOf`). What function types return has the nullability of a platform type
imposed on it; it goes last in the order of precedence, so it does not show
(`TypeRequest.nullability_ne_unannotated`).
-/

namespace Diglot

/-! ## Types inside a type -/

/-- A type that is another one, or stands somewhere in it. -/
inductive ShownType.Within (part : ShownType) : ShownType → Prop where
  /-- the type itself -/
  | here : Within part part
  /-- in a type argument -/
  | argument {type argument : ShownType} (mem : argument ∈ type.arguments)
      (inside : Within part argument) : Within part type
  /-- in the receiver of a function type -/
  | receiver {face : Face} {isSuspend : Bool} {receiver : ShownType}
      {parameters : List ShownParameter} {returnType : ShownType}
      (inside : Within part receiver) :
      Within part (.lambda face isSuspend (some receiver) parameters returnType)
  /-- in a parameter of a function type -/
  | parameter {face : Face} {isSuspend : Bool} {receiver : Option ShownType}
      {parameters : List ShownParameter} {returnType : ShownType} {parameter : ShownParameter}
      (mem : parameter ∈ parameters) (inside : Within part parameter.type) :
      Within part (.lambda face isSuspend receiver parameters returnType)
  /-- in what a function type returns -/
  | returned {face : Face} {isSuspend : Bool} {receiver : Option ShownType}
      {parameters : List ShownParameter} {returnType : ShownType}
      (inside : Within part returnType) :
      Within part (.lambda face isSuspend receiver parameters returnType)

/-- Whether the type is shown as `(Mutable)`. -/
def ShownType.isMapped : ShownType → Bool
  | mapped .. => true
  | plain .. | lambda .. => false

/-- A type that is no platform type. -/
structure ShownType.IsNative (type : ShownType) : Prop where
  /-- something is known about null -/
  stated : type.nullability ≠ .unannotated
  /-- it is not shown as a Java collection -/
  unmapped : type.isMapped = false

/-- Beside a form no more arguments are shown than the type has. -/
theorem mem_of_mem_argumentsBeside {form : TypeUse} {arguments : List ShownType} {a : ShownType}
    (mem : a ∈ argumentsBeside form arguments) : a ∈ arguments := by
  unfold argumentsBeside at mem
  split at mem
  · split at mem
    · cases mem
    · exact mem
  · exact mem

/-! ## Nullability -/

/-- In Kotlin sources something is stated of every type that can be null. -/
theorem TypeUse.statedNullability_ne_unannotated (type : TypeUse) (carried : List Annotation) :
    type.statedNullability (some false) carried ≠ .unannotated := by
  rcases statedNullability_eq_or (some false) carried type with eq | eq | eq <;> rw [eq] <;>
    decide

/-- In Kotlin sources no type is left open. -/
theorem TypeUse.nullability_ne_unannotated (dialect : Dialect) :
    ∀ (type : TypeUse) (carried : List Annotation),
      type.nullability dialect (some false) carried ≠ .unannotated
  | projected _ inner, carried => by
    rw [nullability]
    split
    · exact nullability_ne_unannotated dialect inner []
    · simp
  | aliased _ inner, carried => by
    rw [nullability]
    split
    · exact nullability_ne_unannotated dialect inner []
    · simp
  | nullable _, _ | nonNull _, _ | dynamic, _ | star, _ | void, _ => by
    rw [nullability]
    split <;> simp
  | classRef .., carried | parameter _, carried | javaObject _, carried | unresolved _, carried
  | primitive _, carried => by
    rw [nullability]
    split
    · exact statedNullability_ne_unannotated _ carried
    · simp

/-- The nullability of a platform type does not prevail over any other. -/
theorem Nullability.or_ne_unannotated {n : Nullability} (ne : n ≠ .unannotated)
    (other : Option Nullability) : n.or other ≠ .unannotated := by
  cases other with
  | none => exact ne
  | some other => cases n <;> cases other <;> first | exact absurd rfl ne | decide

/-- **In Kotlin sources no form has the nullability of a platform type**, whatever is imposed. -/
theorem TypeRequest.nullability_ne_unannotated {request : TypeRequest}
    (kotlinSource : request.fromJava = false) (dialect : Dialect) (form : TypeUse) :
    request.nullability dialect form ≠ .unannotated := by
  rw [nullability, kotlinSource]
  exact Nullability.or_ne_unannotated (form.nullability_ne_unannotated dialect _) _

/-! ## Types -/

/-- **A type of Kotlin sources has no platform type in it.** -/
theorem isNative_of_typeOf {context : Context} {request : TypeRequest} {shown : ShownType}
    (kotlinSource : request.fromJava = false) (found : typeOf context request = .ok shown)
    {part : ShownType} (within : part.Within shown) : part.IsNative := by
  have face : ∀ {request : TypeRequest} {form : TypeUse} {face : Face},
      face.Shows context request form → request.fromJava = false →
        face.nullability ≠ .unannotated := by
    intro request form face shows kotlinSource
    rw [shows.nullability]
    exact request.nullability_ne_unannotated kotlinSource _ _
  refine typeOf_induct (motive := fun request shown =>
      request.fromJava = false → part.Within shown → part.IsNative)
    ?_ ?_ ?_ ?_ ?_ ?_ found kotlinSource within
  · intro request inner shown _ below
    exact below
  · intro request variance inner shown _ below
    exact below
  · intro request named inner shown _ below
    exact below
  · intro request form face' link arguments shows each kotlinSource within
    cases within with
    | here => exact ⟨face shows kotlinSource, rfl⟩
    | argument mem inside =>
      obtain ⟨type, argument⟩ := each _ (mem_of_mem_argumentsBeside mem)
      exact argument kotlinSource inside
  · intro request form face' link mutable arguments shows collection _ kotlinSource
    -- Kotlin sources have no collections of Java
    rw [kotlinSource] at collection
    cases form <;> cases collection
  · intro request form face' parts isSuspend receiver parameters returnType shows _ receives
      takes returns kotlinSource within
    cases within with
    | here => exact ⟨face shows kotlinSource, rfl⟩
    | argument mem inside => cases mem
    | receiver inside =>
      obtain ⟨type, native⟩ := receives _ rfl
      exact native rfl inside
    | parameter mem inside =>
      obtain ⟨type, native⟩ := takes _ mem
      exact native rfl inside
    | returned inside => exact returns rfl inside

/-! ## Signatures -/

/-- The types that stand in a signature by themselves: its own, those of its receiver and
parameters, and the bounds of its type parameters. -/
def Signature.types : Signature → List ShownType
  | function s =>
    s.returnType :: (s.receiver.toList ++ s.parameters).map ShownParameter.type ++
      s.typeParameters.flatMap ShownTypeParameter.bounds
  | property s => s.type :: s.receiver.toList.map ShownParameter.type

/-- A type that is requested for sources of one of the two languages. -/
def ShownType.RequestedFrom (context : Context) (fromJava : Bool) (shown : ShownType) : Prop :=
  ∃ request : TypeRequest, request.fromJava = fromJava ∧ typeOf context request = .ok shown

section

variable {context : Context} {inSummary fromJava : Bool} {sourceSet : SourceSet}

/-- Types of parameters are requested for the sources of the declaration. -/
theorem requestedFrom_of_parameterOf {parameter : Parameter} {shown : ShownParameter}
    (found : parameterOf context parameter inSummary fromJava sourceSet = .ok shown) :
    shown.type.RequestedFrom context fromJava := by
  refine ⟨_, ?_, typeOf_of_parameterOf found⟩
  unfold parameterRequest
  split <;> rfl

/-- Types of several parameters are requested for the sources of the declaration. -/
theorem requestedFrom_of_parameters {parameters : List Parameter} {shown : List ShownParameter}
    (found : (parameters.mapM' fun parameter =>
      parameterOf context parameter inSummary fromJava sourceSet) = .ok shown) :
    ∀ p ∈ shown, p.type.RequestedFrom context fromJava := by
  intro p mem
  obtain ⟨parameter, -, found⟩ := (mem_of_mapM'_eq_ok found).2 p mem
  exact requestedFrom_of_parameterOf found

/-- Bounds of type parameters are requested for the sources of the declaration. -/
theorem requestedFrom_of_renderTypeParameter {parameter : TypeParameter}
    {shown : ShownTypeParameter}
    (found : (renderTypeParameter context parameter fromJava sourceSet :
      Except RenderError ShownTypeParameter) = .ok shown) :
    ∀ bound ∈ shown.bounds, bound.RequestedFrom context fromJava := by
  unfold renderTypeParameter at found
  obtain ⟨bounds, boundsFound, found⟩ := bind_eq_ok.mp found
  cases found
  intro bound mem
  obtain ⟨type, -, found⟩ := (mem_of_mapM'_eq_ok boundsFound).2 bound mem
  exact ⟨_, rfl, found⟩

/-- All types of a function are requested for the sources of the declaration. -/
theorem requestedFrom_of_renderFunction {declaration : Declaration} {detail : FunctionDetail}
    {s : FunctionSignature}
    (found : (renderFunction context declaration detail sourceSet inSummary :
      Except RenderError FunctionSignature) = .ok s) :
    ∀ type ∈ (Signature.function s).types, type.RequestedFrom context declaration.fromJava := by
  unfold renderFunction at found
  obtain ⟨modifiers, -, found⟩ := bind_eq_ok.mp found
  obtain ⟨returnType, returned, found⟩ := bind_eq_ok.mp found
  obtain ⟨typeParameters, bounded, found⟩ := bind_eq_ok.mp found
  obtain ⟨parameters, taken, found⟩ := bind_eq_ok.mp found
  obtain ⟨receivers, received, found⟩ := bind_eq_ok.mp found
  obtain ⟨annotations, -, found⟩ := bind_eq_ok.mp found
  cases found
  have takes := requestedFrom_of_parameters taken
  have receives := requestedFrom_of_parameters received
  intro type mem
  simp only [Signature.types, List.cons_append, List.mem_cons, List.mem_append,
    List.mem_map, List.mem_flatMap, Option.mem_toList] at mem
  rcases mem with rfl | ⟨p, memP | memP, rfl⟩ | ⟨typeParameter, memT, mem⟩
  · exact ⟨_, rfl, returned⟩
  · -- only Kotlin shows the receiver as such
    cases dialect : context.dialect <;> rw [dialect] at memP
    · cases memP
    · exact receives p (List.mem_of_mem_head? memP)
  · cases dialect : context.dialect <;> rw [dialect] at memP
    · rcases List.mem_append.mp memP with memP | memP
      · exact receives p memP
      · exact takes p memP
    · exact takes p memP
  · obtain ⟨parameter, -, found⟩ := (mem_of_mapM'_eq_ok bounded).2 typeParameter memT
    exact requestedFrom_of_renderTypeParameter found type mem

/-- All types of a property are requested for the sources of the declaration. -/
theorem requestedFrom_of_renderProperty {declaration : Declaration} {detail : PropertyDetail}
    {s : PropertySignature}
    (found : (renderProperty context declaration detail sourceSet inSummary :
      Except RenderError PropertySignature) = .ok s) :
    ∀ type ∈ (Signature.property s).types, type.RequestedFrom context declaration.fromJava := by
  unfold renderProperty at found
  obtain ⟨modifiers, -, found⟩ := bind_eq_ok.mp found
  obtain ⟨ownType, typed, found⟩ := bind_eq_ok.mp found
  obtain ⟨receivers, received, found⟩ := bind_eq_ok.mp found
  obtain ⟨annotations, -, found⟩ := bind_eq_ok.mp found
  cases found
  have receives : ∀ p ∈ receivers, p.type.RequestedFrom context declaration.fromJava := by
    unfold renderPropertyReceiver at received
    split at received
    · cases received
      intro p mem
      cases mem
    · exact requestedFrom_of_parameters received
  intro type mem
  simp only [Signature.types, List.mem_cons, List.mem_map, Option.mem_toList] at mem
  rcases mem with rfl | ⟨p, memP, rfl⟩
  · exact ⟨_, rfl, typed⟩
  · exact receives p (List.mem_of_mem_head? memP)

/-- **All types of a signature are requested for the sources of the declaration.** -/
theorem requestedFrom_of_signatureOf {declaration : Declaration} {signature : Signature}
    (found : signatureOf context declaration inSummary sourceSet = .ok signature) :
    ∀ type ∈ signature.types, type.RequestedFrom context declaration.fromJava := by
  unfold signatureOf renderSignature at found
  split at found
  · obtain ⟨s, rendered, rfl⟩ := map_eq_ok.mp found
    exact requestedFrom_of_renderFunction rendered
  · obtain ⟨s, rendered, rfl⟩ := map_eq_ok.mp found
    exact requestedFrom_of_renderProperty rendered

end

/-- **Declarations of Kotlin sources show no platform types**, in neither language: no type in
their signatures, at whatever depth, has the nullability of one, and none is shown as
`(Mutable)`. -/
theorem kotlin_sources_native (context : Context) (declaration : Declaration) (inSummary : Bool)
    (sourceSet : SourceSet) (signature : Signature) (kotlinSource : declaration.fromJava = false)
    (found : signatureOf context declaration inSummary sourceSet = .ok signature)
    (type : ShownType) (mem : type ∈ signature.types) (part : ShownType)
    (within : part.Within type) : part.nullability ≠ .unannotated ∧ part.isMapped = false := by
  obtain ⟨request, source, typeFound⟩ := requestedFrom_of_signatureOf found type mem
  have native := isNative_of_typeOf (source.trans kotlinSource) typeFound within
  exact ⟨native.stated, native.unmapped⟩

/-- A function of Kotlin sources that takes a function which returns a mutable list. -/
def fillWith : Declaration where
  identity := ⟨"com.example", some "Pool", some "fillWith"⟩
  name := "fillWith"
  sourceSets := [⟨.jvm, "jvmMain"⟩]
  detail := .function
    { parameters := [
        { name := some "make",
          type := .classRef
            { identity := .ofClass "kotlin" "Function0", form := .functional false false }
            [.classRef { identity := .ofClass "kotlin.collections" "MutableList" }
              [.classRef { identity := .ofClass "kotlin" "String" } []]] }],
      returnType := .classRef { identity := .ofClass "kotlin" "Unit" } [] }

/-- The signature of `fillWith` shows no platform types. -/
theorem kotlin_sources_native_fillWith :
    fillWith.fromJava = false ∧
      ∃ signature,
        signatureOf (.reference .kotlin {}) fillWith false ⟨.jvm, "jvmMain"⟩ = .ok signature ∧
          ∀ type ∈ signature.types, ∀ part : ShownType, part.Within type →
            part.nullability ≠ .unannotated ∧ part.isMapped = false := by
  obtain ⟨signature, found⟩ := exists_of_isOk
    (signatureOf (.reference .kotlin {}) fillWith false ⟨.jvm, "jvmMain"⟩) (by decide +kernel)
  exact ⟨rfl, signature, found, kotlin_sources_native _ fillWith false _ signature rfl found⟩

end Diglot
