import Diglot.Proofs.JavaWrappers

/-!
# Aliases in Java

Java rewrites a type below aliases as it does elsewhere, but some of its rules look at the
immediate shape of what is inside a wrapper.

* `TypeUse.isTransparentInJava` — types in which none of these rules meets an alias.
* `alike_toJava_expand` — the forms of such a type and of the expanded type have the same name as
  elements of arrays; writing one fails exactly where writing the other does (`Alike`).
* `alike_typeLink_expand` — they have the same link.
* `typeOf_expand_java` — both are shown alike.
-/

namespace Diglot

/-! ## Results that are alike -/

/-- Two results that are the same failure, or are in relation. -/
inductive Alike {α : Type} (R : α → α → Prop) :
    Except RenderError α → Except RenderError α → Prop where
  /-- both fail in the same way -/
  | fails (e : RenderError) : Alike R (.error e) (.error e)
  /-- both succeed -/
  | succeeds {a b : α} (related : R a b) : Alike R (.ok a) (.ok b)

namespace Alike

variable {α β : Type} {R : α → α → Prop} {S : β → β → Prop}
  {first second : Except RenderError α}

/-- Steps that are alike on related results have results that are alike. -/
theorem bind {f g : α → Except RenderError β} (alike : Alike R first second)
    (next : ∀ a b, R a b → Alike S (f a) (g b)) : Alike S (first >>= f) (second >>= g) := by
  cases alike with
  | fails e => exact .fails e
  | succeeds related => exact next _ _ related

/-- What is made of results that are alike is alike. -/
theorem map {f g : α → β} (alike : Alike R first second)
    (related : ∀ a b, R a b → S (f a) (g b)) : Alike S (first.map f) (second.map g) := by
  cases alike with
  | fails e => exact .fails e
  | succeeds before => exact .succeeds (related _ _ before)

/-- Steps that come to the same on related results come to the same. -/
theorem bind_eq {f g : α → Except RenderError β} (alike : Alike R first second)
    (next : ∀ a b, R a b → g b = f a) : second.bind g = first.bind f := by
  cases alike with
  | fails e => rfl
  | succeeds related => exact next _ _ related

end Alike

namespace TypeUse

/-! ## Expansion -/

/-- What is an array inside is one once it is expanded, and the other way round. -/
theorem isArrayInside_expand : ∀ type : TypeUse, type.expand.isArrayInside = type.isArrayInside
  | nullable inner => isArrayInside_expand inner
  | nonNull inner => isArrayInside_expand inner
  | projected _ inner => isArrayInside_expand inner
  | aliased _ inner => isArrayInside_expand inner
  | classRef .. | parameter _ | primitive _ | javaObject _ | void | star | dynamic
  | unresolved _ => rfl

mutual

/-- Expanded types are regular if the types are. -/
theorem isRegular_expand : ∀ type : TypeUse, type.isRegular = true → type.expand.isRegular = true
  | classRef head arguments, regular => by
    simp only [isRegular, Bool.and_eq_true] at regular
    simp only [expand, isRegular, Bool.and_eq_true]
    refine ⟨?_, isRegularList_expandList arguments regular.2⟩
    cases arguments <;> exact regular.1
  | nonNull inner, regular => by
    simp only [isRegular, Bool.and_eq_true] at regular
    simp only [expand, isRegular, Bool.and_eq_true]
    exact ⟨isArrayInside_expand inner ▸ regular.1, isRegular_expand inner regular.2⟩
  | nullable inner, regular => isRegular_expand inner regular
  | projected _ inner, regular => isRegular_expand inner regular
  | aliased _ inner, regular => isRegular_expand inner regular
  | parameter _, _ | primitive _, _ | javaObject _, _ | void, _ | star, _ | dynamic, _
  | unresolved _, _ => rfl

/-- Lists of expanded types are regular if the lists of types are. -/
theorem isRegularList_expandList : ∀ types : List TypeUse, isRegularList types = true →
    isRegularList (expandList types) = true
  | [], _ => rfl
  | first :: rest, regular => by
    simp only [isRegularList, Bool.and_eq_true] at regular
    simp only [expandList, isRegularList, Bool.and_eq_true]
    exact ⟨isRegular_expand first regular.1, isRegularList_expandList rest regular.2⟩

end

/-- `Unit` is still `Unit` once it is expanded. -/
theorem isUnit_expand {type : TypeUse} (unit : type.isUnit = true) : type.expand.isUnit = true := by
  cases type with
  | classRef head arguments => exact unit
  | parameter | primitive | javaObject | void | star | dynamic | unresolved | nullable | nonNull
  | projected | aliased => cases unit

mutual

/-- Aliases do not show in the name of an element of an array. -/
theorem javaElementName_expand (qualified : Bool) : ∀ type : TypeUse,
    type.expand.javaElementName qualified = type.javaElementName qualified
  | classRef head arguments => by
    simp only [expand, javaElementName, javaElementNames_expandList qualified arguments]
  | nullable inner => javaElementName_expand qualified inner
  | nonNull inner => javaElementName_expand qualified inner
  | projected _ inner => javaElementName_expand qualified inner
  | aliased _ inner => javaElementName_expand qualified inner
  | parameter _ | primitive _ | javaObject _ | void | star | dynamic | unresolved _ => rfl

/-- Aliases do not show in the names of a list of elements. -/
theorem javaElementNames_expandList (qualified : Bool) : ∀ types : List TypeUse,
    javaElementNames qualified (expandList types) = javaElementNames qualified types
  | [] => rfl
  | first :: rest => by
    simp only [expandList, javaElementNames, javaElementName_expand qualified first,
      javaElementNames_expandList qualified rest]

end

/-! ## Transparent types -/

mutual

/-- **Types with aliases that Java does not see.** No alias gives `T & Any` its name, or stands
between `Unit` and a nullable wrapper; and what is rewritten twice, below wrappers, is regular. -/
def isTransparentInJava : TypeUse → Bool
  | classRef _ arguments => isTransparentInJavaList arguments
  | nullable inner =>
    (inner.isRegular || inner.expand = inner) && (inner.isUnit || !inner.expand.isUnit) &&
      inner.isTransparentInJava
  | nonNull inner => !inner.namesAlias && inner.isTransparentInJava
  | projected _ inner => (inner.isRegular || inner.expand = inner) && inner.isTransparentInJava
  | aliased _ inner => inner.isRegular && inner.isTransparentInJava
  | _ => true

/-- Whether every type of a list is transparent in Java. -/
def isTransparentInJavaList : List TypeUse → Bool
  | [] => true
  | first :: rest => first.isTransparentInJava && isTransparentInJavaList rest

end

theorem isTransparentInJavaList_iff {types : List TypeUse} :
    isTransparentInJavaList types = true ↔ ∀ type ∈ types, type.isTransparentInJava = true := by
  induction types with
  | nil => simp [isTransparentInJavaList]
  | cons first rest ih => simp [isTransparentInJavaList, ih]

theorem isTransparentInJava_of_mem_writtenArguments {argument : TypeUse} (type : TypeUse)
    (transparent : type.isTransparentInJava = true) (mem : argument ∈ type.writtenArguments) :
    argument.isTransparentInJava = true := by
  refine of_mem_writtenArguments (P := fun type => type.isTransparentInJava = true) ?_ ?_ type
    transparent argument mem
  · intro type inner inside transparent
    cases type <;> cases inside <;> exact (Bool.and_eq_true_iff.mp transparent).2
  · intro head arguments transparent
    exact isTransparentInJavaList_iff.mp transparent

/-! ## Forms of expanded types -/

/-- Two forms with the same name as elements of arrays. -/
def NamedAlike (form form' : TypeUse) : Prop :=
  ∀ qualified, form'.javaElementName qualified = form.javaElementName qualified

/-- Types named alike are named alike in lists. -/
theorem javaElementNames_congr {forms forms' : List TypeUse}
    (alike : List.Forall₂ NamedAlike forms forms') (qualified : Bool) :
    javaElementNames qualified forms' = javaElementNames qualified forms := by
  induction alike with
  | nil => rfl
  | cons first _ ih => rw [javaElementNames, javaElementNames, first qualified, ih]

/-- Arrays have the names of their elements. -/
theorem arrayToJava_congr {forms forms' : List TypeUse}
    (alike : List.Forall₂ NamedAlike forms forms') (qualified : Bool) :
    arrayToJava qualified forms' = arrayToJava qualified forms := by
  cases alike with
  | nil => rfl
  | cons first rest =>
    cases rest with
    | nil => rw [arrayToJava, arrayToJava, first qualified]
    | cons => rfl

/-- **One class with two lists of arguments** has forms that are in relation, if classes with
these arguments are and the arguments are named alike. -/
theorem alike_classToJava {R : TypeUse → TypeUse → Prop} {position : JavaPosition}
    {head : ClassHead} {arguments arguments' rewritten rewritten' : List TypeUse}
    (named : List.Forall₂ NamedAlike rewritten rewritten')
    (void : R void void) (primitive : ∀ name, R (primitive name) (primitive name))
    (written : ∀ identity, R (classRef { head with identity } arguments)
      (classRef { head with identity } arguments'))
    (renamed : ∀ identity, R (classRef { head with identity } rewritten)
      (classRef { head with identity } rewritten')) :
    Alike R (classToJava position head arguments rewritten)
      (classToJava position head arguments' rewritten') := by
  have arrays : Alike R (arrayToJava position.qualified rewritten)
      (arrayToJava position.qualified rewritten') := by
    rw [arrayToJava_congr named]
    cases array : arrayToJava position.qualified rewritten with
    | error e => exact .fails e
    | ok form =>
      obtain ⟨name, rfl⟩ := arrayToJava_eq_primitive array
      exact .succeeds (primitive _)
  unfold classToJava
  by_cases package : head.identity.package = "kotlin"
  · rw [if_pos package, if_pos package]
    split
    · exact .succeeds void
    · cases Primitive.ofKotlinName? head.identity.className with
      | some p =>
        dsimp only
        split
        · exact .succeeds (written _)
        · exact .succeeds (primitive _)
      | none =>
        cases Primitive.ofArrayName? head.identity.className with
        | some p => exact .succeeds (primitive _)
        | none =>
          dsimp only
          split
          · exact arrays
          · exact .succeeds (renamed _)
  · rw [if_neg package, if_neg package]
    exact .succeeds (renamed _)

/-- Around forms named alike wrappers for null are named alike. -/
theorem NamedAlike.nullable {form form' : TypeUse} (alike : NamedAlike form form') :
    NamedAlike (if form = .void then .void else .nullable form)
      (if form' = .void then .void else .nullable form') := by
  intro qualified
  rw [javaElementName_nullable, javaElementName_nullable, alike qualified]

mutual

/-- **Transparent types and expanded ones have forms that are named alike**, or fail alike. -/
theorem alike_toJava_expand : ∀ (type : TypeUse) (position : JavaPosition),
    type.isTransparentInJava = true →
      Alike NamedAlike (type.toJava position) (type.expand.toJava position)
  | classRef head arguments, position, transparent => by
    rw [expand, toJava, toJava]
    refine (alike_toJavaList_expandList arguments position.boxed transparent).bind
      fun rewritten rewritten' named => ?_
    refine alike_classToJava named (fun _ => rfl) (fun _ _ => rfl) (fun _ qualified => ?_)
      fun _ qualified => ?_
    · simp only [javaElementName, javaElementNames_expandList]
    · simp only [javaElementName, javaElementNames_congr named]
  | nullable inner, position, transparent => by
    simp only [isTransparentInJava, Bool.and_eq_true, Bool.or_eq_true, Bool.not_eq_true']
      at transparent
    obtain ⟨⟨-, units⟩, inside⟩ := transparent
    cases unit : inner.isUnit with
    | true =>
      rw [expand, toJava, toJava, if_pos unit, if_pos (isUnit_expand unit)]
      exact .succeeds fun _ => rfl
    | false =>
      have noUnit := units.resolve_left (by rw [unit]; decide)
      rw [expand, toJava_nullable unit, toJava_nullable noUnit]
      exact (alike_toJava_expand inner position.boxed inside).map fun _ _ => NamedAlike.nullable
  | nonNull inner, position, transparent => by
    simp only [isTransparentInJava, Bool.and_eq_true] at transparent
    rw [expand, toJava, toJava]
    exact (alike_toJava_expand inner position.boxed transparent.2).map fun _ _ named => named
  | projected variance inner, position, transparent => by
    simp only [isTransparentInJava, Bool.and_eq_true] at transparent
    rw [expand, toJava, toJava]
    exact (alike_toJava_expand inner position.boxed transparent.2).map fun _ _ named => named
  | aliased named inner, position, transparent => by
    simp only [isTransparentInJava, Bool.and_eq_true] at transparent
    rw [expand, toJava]
    have below := (alike_toJava_expand inner position transparent.2).bind
      (f := fun form => pure (aliased named form)) (g := pure) (S := NamedAlike)
      fun _ _ same => .succeeds same
    rwa [bind_pure] at below
  | parameter _, _, _ | primitive _, _, _ | javaObject _, _, _ | void, _, _ | star, _, _
  | dynamic, _, _ | unresolved _, _, _ => .succeeds fun _ => rfl

/-- Lists of transparent types and expanded ones have forms that are named alike, or fail alike. -/
theorem alike_toJavaList_expandList : ∀ (types : List TypeUse) (position : JavaPosition),
    isTransparentInJavaList types = true →
      Alike (List.Forall₂ NamedAlike) (toJavaList position types)
        (toJavaList position (expandList types))
  | [], _, _ => .succeeds .nil
  | first :: rest, position, transparent => by
    simp only [isTransparentInJavaList, Bool.and_eq_true] at transparent
    rw [expandList, toJavaList, toJavaList]
    refine (alike_toJava_expand first position transparent.1).bind fun form form' named => ?_
    refine (alike_toJavaList_expandList rest position transparent.2).bind
      fun forms forms' others => ?_
    exact .succeeds (.cons named others)

end

/-- **Unless an alias gives the type its name**, both have forms with the same link. -/
theorem alike_typeLink_expand (context : Context) : ∀ (type : TypeUse) (position : JavaPosition),
    type.isTransparentInJava = true → type.namesAlias = false →
      Alike (fun form form' => ∀ suffix,
          context.typeLink suffix form' = context.typeLink suffix form)
        (type.toJava position) (type.expand.toJava position)
  | classRef head arguments, position, transparent, _ => by
    rw [expand, toJava, toJava]
    refine (alike_toJavaList_expandList arguments position.boxed transparent).bind
      fun rewritten rewritten' named => ?_
    exact alike_classToJava named (fun _ => rfl) (fun _ _ => rfl) (fun _ _ => rfl) fun _ _ => rfl
  | nullable inner, position, transparent, noAlias => by
    simp only [isTransparentInJava, Bool.and_eq_true, Bool.or_eq_true, Bool.not_eq_true']
      at transparent
    obtain ⟨⟨-, units⟩, inside⟩ := transparent
    cases unit : inner.isUnit with
    | true =>
      rw [expand, toJava, toJava, if_pos unit, if_pos (isUnit_expand unit)]
      exact .succeeds fun _ => rfl
    | false =>
      have noUnit := units.resolve_left (by rw [unit]; decide)
      have outer : ∀ (form : TypeUse) (suffix : String),
          context.typeLink suffix (if form = .void then .void else .nullable form) =
            context.typeLink "?" form := by
        intro form suffix
        split
        · rename_i void
          rw [void]
          rfl
        · rfl
      rw [expand, toJava_nullable unit, toJava_nullable noUnit]
      refine (alike_typeLink_expand context inner position.boxed inside noAlias).map
        fun form form' linked suffix => ?_
      rw [outer, outer, linked]
  | nonNull inner, position, transparent, noAlias => by
    simp only [isTransparentInJava, Bool.and_eq_true] at transparent
    rw [expand, toJava, toJava]
    exact (alike_typeLink_expand context inner position.boxed transparent.2 noAlias).map
      fun _ _ linked _ => linked ""
  | projected variance inner, position, transparent, _ => by
    simp only [isTransparentInJava, Bool.and_eq_true] at transparent
    rw [expand, toJava, toJava]
    exact (alike_toJava_expand inner position.boxed transparent.2).map fun _ _ _ _ => rfl
  | aliased .., _, _, noAlias => by cases noAlias
  | parameter _, _, _, _ | primitive _, _, _, _ | javaObject _, _, _, _ | void, _, _, _
  | star, _, _, _ | dynamic, _, _, _ | unresolved _, _, _, _ => .succeeds fun _ => rfl

/-- References to one class have the same surface. -/
theorem sameSurface_classRef {context : Context} (head : ClassHead)
    (arguments arguments' : List TypeUse) :
    (classRef head arguments).SameSurface context (classRef head arguments') where
  leaf := rfl
  leaf' := rfl
  nullability _ _ := by simp [nullability, canBeNull, statedNullability, leadingAnnotations]
  annotated := rfl
  typeLink := rfl
  beside := rfl

/-- `Unit` has nothing in it to expand. -/
theorem expand_of_isUnit {type : TypeUse} (regular : type.isRegular = true)
    (unit : type.isUnit = true) : type.expand = type := by
  cases type with
  | classRef head arguments =>
    simp only [isRegular, Bool.and_eq_true] at regular
    obtain rfl := eq_nil_of_isRegular regular.1 (Identity.isSpecialInJava_of_isUnit unit)
    rfl
  | parameter | primitive | javaObject | void | star | dynamic | unresolved | nullable | nonNull
  | projected | aliased => cases unit

end TypeUse

/-! ## Expansion in Java -/

/-- **Java shows a transparent type as it shows the expanded type**, or fails as it does there. -/
theorem typeOf_expand_java {context : Context} (java : context.dialect = .java) (type : TypeUse)
    (request : TypeRequest) (bare : type.isBare = true)
    (transparent : type.isTransparentInJava = true) :
    typeOf context { request with type := type.expand } =
      typeOf context { request with type } := by
  induction type using TypeUse.induct_inside generalizing request with
  | step type ofArgument below =>
    have each : ∀ a ∈ type.writtenArguments,
        typeOf context (request.forArgument a.expand) = typeOf context (request.forArgument a) :=
      fun a mem => ofArgument a mem (request.forArgument a)
        (TypeUse.isBare_of_mem_writtenArguments type bare mem)
        (TypeUse.isTransparentInJava_of_mem_writtenArguments type transparent mem)
    have arguments : shownArguments context { request with type := type.expand } =
        shownArguments context { request with type } :=
      shownArguments_expand { request with type } each
    have annotations := TypeRequest.annotations_expand { request with type } bare
    cases type with
    | aliased named inner =>
      simp only [TypeUse.isTransparentInJava, Bool.and_eq_true] at transparent
      rw [TypeUse.isBare] at bare
      rw [typeOf_aliased_java java request named bare transparent.1]
      exact below inner rfl request bare transparent.2
    | projected variance inner =>
      simp only [TypeUse.isTransparentInJava, Bool.and_eq_true, Bool.or_eq_true,
        decide_eq_true_eq] at transparent
      rw [TypeUse.isBare] at bare
      obtain ⟨regular | free, inside⟩ := transparent
      · rw [typeOf_projected_java java request variance bare regular, TypeUse.expand,
          typeOf_projected_java java request variance (inner.isBare_expand bare)
            (inner.isRegular_expand regular)]
        exact below inner rfl { request.forProjected inner with mustBox := true } bare inside
      · rw [TypeUse.expand, free]
    | nullable inner =>
      simp only [TypeUse.isTransparentInJava, Bool.and_eq_true, Bool.or_eq_true,
        decide_eq_true_eq, Bool.not_eq_true'] at transparent
      rw [TypeUse.isBare] at bare
      obtain ⟨⟨regular | free, units⟩, inside⟩ := transparent
      · cases unit : inner.isUnit with
        | true => rw [TypeUse.expand, TypeUse.expand_of_isUnit regular unit]
        | false =>
          have noUnit := units.resolve_left (by rw [unit]; decide)
          rw [typeOf_nullable_java java request bare regular unit, TypeUse.expand,
            typeOf_nullable_java java request (inner.isBare_expand bare)
              (inner.isRegular_expand regular) noUnit]
          exact below inner rfl { request.forNullable inner with mustBox := true } bare inside
      · rw [TypeUse.expand, free]
    | nonNull inner =>
      simp only [TypeUse.isTransparentInJava, Bool.and_eq_true, Bool.not_eq_true'] at transparent
      rw [typeOf_eq, typeOf_eq context { request with type := .nonNull inner }, arguments]
      refine congrArg (Except.bind _) (funext fun shown => ?_)
      have forms : Alike (TypeUse.SameSurface context)
          (context.writtenForm { request with type := .nonNull inner })
          (context.writtenForm { request with type := .nonNull inner.expand }) := by
        rw [Context.writtenForm_java java, Context.writtenForm_java java, TypeUse.toJava,
          TypeUse.toJava]
        exact (TypeUse.alike_typeLink_expand context inner _ transparent.2 transparent.1).map
          fun _ _ linked => ⟨rfl, rfl, fun _ _ => rfl, rfl, linked "", rfl⟩
      exact forms.bind_eq fun _ _ same =>
        shownBelow_of_sameSurface java same annotations rfl rfl
    | classRef head parts =>
      rw [typeOf_eq, typeOf_eq context { request with type := .classRef head parts }, arguments]
      refine congrArg (Except.bind _) (funext fun shown => ?_)
      have forms : Alike (TypeUse.SameSurface context)
          (context.writtenForm { request with type := .classRef head parts })
          (context.writtenForm
            { request with type := .classRef head (TypeUse.expandList parts) }) := by
        rw [Context.writtenForm_java java, Context.writtenForm_java java, TypeUse.toJava,
          TypeUse.toJava]
        refine (TypeUse.alike_toJavaList_expandList parts _ transparent).bind
          fun rewritten rewritten' named => ?_
        exact TypeUse.alike_classToJava named (.refl rfl) (fun _ => .refl rfl)
          (fun _ => TypeUse.sameSurface_classRef _ _ _) fun _ => TypeUse.sameSurface_classRef _ _ _
      exact forms.bind_eq fun _ _ same =>
        shownBelow_of_sameSurface java same annotations rfl rfl
    | parameter | primitive | javaObject | void | star | dynamic | unresolved => rfl

end Diglot
