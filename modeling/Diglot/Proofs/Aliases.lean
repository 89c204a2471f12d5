import Diglot.Proofs.JavaAliases
import Diglot.Proofs.KotlinAliases

/-!
# Aliases

What is shown of a type is what is shown of the expanded type (`aliases_transparent`), unless an
alias stands in the way of a rule that looks at the immediate shape of what is below it.

* `Unit` that may be null is `void` in Java, and is not where an alias is between the two.
* `T & Any` takes its name from what is below it, and an alias has none.
-/

namespace Diglot

/-! ## Types that an alias would have to name -/

namespace TypeUse

variable {context : Context}

/-- An alias gives no name to the type around it. -/
theorem typeLink_of_namesAlias : ∀ (type : TypeUse) (suffix : String), type.namesAlias = true →
    context.typeLink suffix type = .error (.unsupported .link .aliased)
  | nullable inner, _, named => typeLink_of_namesAlias inner "?" named
  | nonNull inner, _, named => typeLink_of_namesAlias inner "" named
  | aliased .., _, _ => rfl

/-- An alias that gives a type its name gives it to what is below `T & Any` as well. -/
theorem namesAlias_withoutNonNull : ∀ type : TypeUse, type.namesAlias = true →
    type.withoutNonNull.namesAlias = true
  | nonNull inner, named => namesAlias_withoutNonNull inner named
  | nullable _, named | aliased .., named => named

/-- If an alias gives a type its name, an alias gives its Java form its name. -/
theorem namesAlias_toJava : ∀ (type : TypeUse) {position : JavaPosition} {form : TypeUse},
    type.namesAlias = true → type.toJava position = .ok form → form.namesAlias = true
  | nullable inner, position, form, named, written => by
    have noUnit : inner.isUnit = false := by
      cases inner <;> first | rfl | cases named
    rw [toJava_nullable noUnit] at written
    obtain ⟨inside, insideWritten, rfl⟩ := map_eq_ok.mp written
    have below := namesAlias_toJava inner named insideWritten
    cases inside <;> exact below
  | nonNull inner, position, form, named, written => by
    rw [toJava] at written
    obtain ⟨inside, insideWritten, written⟩ := bind_eq_ok.mp written
    cases written
    have below := namesAlias_toJava inner named insideWritten
    exact below
  | aliased name inner, position, form, named, written => by
    rw [toJava] at written
    obtain ⟨inside, -, written⟩ := bind_eq_ok.mp written
    cases written
    rfl

/-- **`T & Any` has no name** if an alias would give it one, so it is not shown. -/
theorem typeOf_ne_ok_of_namesAlias {request : TypeRequest} {inner : TypeUse}
    (type : request.type = nonNull inner) (named : inner.namesAlias = true) (shown : ShownType) :
    typeOf context request ≠ .ok shown := by
  intro found
  rw [typeOf_eq] at found
  obtain ⟨arguments, -, found⟩ := bind_eq_ok.mp found
  obtain ⟨form, written, found⟩ := bind_eq_ok.mp found
  have kept : form.isWrapper = false ∧ form.namesAlias = true := by
    have asWritten := written
    unfold Context.writtenForm at asWritten
    rw [type] at asWritten
    split at asWritten
    · cases asWritten
      exact ⟨rfl, named⟩
    · exact ⟨(toJava_of_not_isWrapper rfl asWritten).1,
        namesAlias_toJava (nonNull inner) named asWritten⟩
  rw [shownBelow_of_not_isWrapper kept.1] at found
  have noLink : context.typeLink "" form = .error (.unsupported .link .aliased) :=
    form.typeLink_of_namesAlias "" kept.2
  cases ShownForm.of_shownForm written kept.1 found with
  | plain _ link | mapped _ link =>
    rw [noLink] at link
    cases link
  | lambda _ _ inside =>
    have below := form.namesAlias_withoutNonNull kept.2
    have split := inside.split
    unfold lambdaParts at split
    cases core : form.withoutNonNull with
    | classRef =>
      rw [core] at below
      cases below
    | parameter | primitive | javaObject | void | star | dynamic | unresolved | nullable
    | nonNull | projected | aliased =>
      rw [core] at split
      cases split

/-! ## `Unit` under an alias -/

/-- What stands for `Unit` is transparent. -/
theorem isTransparentInJava_of_expand_eq {head : ClassHead} : ∀ type : TypeUse,
    type.expand = classRef head [] → type.isRegular = true ∧ type.isTransparentInJava = true
  | aliased _ inner, expanded => by
    obtain ⟨regular, transparent⟩ := isTransparentInJava_of_expand_eq inner expanded
    exact ⟨regular, by rw [isTransparentInJava, regular, transparent]; rfl⟩
  | classRef _ [], _ => ⟨by simp [isRegular, isRegularList], rfl⟩

end TypeUse

section

variable {context : Context}

/-- `Unit` that is not returned is a class of Java. -/
theorem typeOf_unit_java (java : context.dialect = .java) {request : TypeRequest}
    {head : ClassHead} (unit : head.identity.isClass "kotlin" "Unit" = true)
    (type : request.type = .classRef head []) (notReturned : request.isReturn = false)
    (bare : request.annotations = []) :
    ∃ face, typeOf context request = .ok (.plain face (context.link head.identity) []) := by
  have stays : head.identity.staysClass (context.position request).isReturn = true := by
    rw [Context.position, notReturned, Identity.staysClass, unit]
    simp
  have written : request.type.toJava (context.position request) =
      .ok (TypeUse.renamedToJava head []) := by
    rw [type]
    exact TypeUse.classToJava_of_staysClass stays
  have none : shownArguments context request = .ok [] := by
    rw [shownArguments, type]
    rfl
  rw [typeOf_java java request written, none]
  change ∃ face, shownForm context request [] (TypeUse.renamedToJava head []) = _
  rw [shownForm_java java, bare, TypeUse.renamedToJava, Identity.toJava_of_isUnit unit]
  exact ⟨_, rfl⟩

/-- Where `Unit` may be null, Java shows it as `void`. -/
theorem typeOf_nullable_unit_java (java : context.dialect = .java) {request : TypeRequest}
    {head : ClassHead} (unit : head.identity.isClass "kotlin" "Unit" = true)
    (type : request.type = .nullable (.classRef head [])) (bare : request.annotations = []) :
    ∃ face, typeOf context request = .ok (.plain face (.unlinked "void") []) := by
  have written : request.type.toJava (context.position request) = .ok .void := by
    rw [type, TypeUse.toJava]
    exact if_pos unit
  have none : shownArguments context request = .ok [] := by
    rw [shownArguments, type]
    rfl
  rw [typeOf_java java request written, none]
  change ∃ face, shownForm context request [] .void = _
  rw [shownForm_java java, bare, Context.typeLink, java]
  exact ⟨_, rfl⟩

/-- **An alias hides `Unit` from the wrapper around it**: Java shows the class in place of
`void`. -/
theorem typeOf_nullable_aliased_unit (java : context.dialect = .java) {request : TypeRequest}
    (bare : request.IsBare) {inner : TypeUse} {head : ClassHead}
    (unit : head.identity.isClass "kotlin" "Unit" = true)
    (type : request.type = .nullable inner) (hidden : inner.isUnit = false)
    (expanded : inner.expand = .classRef head []) :
    ∃ face, typeOf context request = .ok (.plain face (context.link head.identity) []) := by
  obtain ⟨regular, transparent⟩ := TypeUse.isTransparentInJava_of_expand_eq inner expanded
  have bareInner : inner.isBare = true := by
    have bareType := bare.type
    rw [type] at bareType
    exact bareType
  have below : typeOf context request =
      typeOf context { request.forNullable inner with mustBox := true } := by
    have nullable := typeOf_nullable_java java request bareInner regular hidden
    rw [← type] at nullable
    exact nullable
  have inside : TypeRequest.IsBare { request.forNullable inner.expand with mustBox := true } :=
    ⟨bare.carried, bare.shownElsewhere, inner.isBare_expand bareInner⟩
  obtain ⟨face, shown⟩ := typeOf_unit_java java unit expanded rfl inside.annotations
  refine ⟨face, ?_⟩
  rw [below, ← shown]
  exact (typeOf_expand_java java inner { request.forNullable inner with mustBox := true }
    bareInner transparent).symm

end

/-- **Where aliases are transparent**, in types without annotations that nothing is handed to.

* Both languages show a transparent type as they show the type with every alias replaced by what
  it stands for, or fail as they do there.
* `T & Any` is not shown if an alias would name it, in either language.
* Java shows the class `Unit` where an alias is between it and a nullable wrapper; without the
  alias it shows `void`. -/
theorem aliases_transparent (context : Context) (request : TypeRequest) (bare : request.IsBare) :
    (context.dialect = .kotlin →
      request.type.isTransparentInKotlin context request.sourceSet.name = true →
        typeOf context { request with type := request.type.expand } = typeOf context request) ∧
    (context.dialect = .java → request.type.isTransparentInJava = true →
      typeOf context { request with type := request.type.expand } = typeOf context request) ∧
    (∀ inner shown, request.type = .nonNull inner → inner.namesAlias = true →
      typeOf context request ≠ .ok shown) ∧
    ∀ inner head, context.dialect = .java → request.type = .nullable inner →
      inner.isUnit = false → inner.expand = .classRef head [] →
      head.identity.isClass "kotlin" "Unit" = true →
        (∃ face, typeOf context request = .ok (.plain face (context.link head.identity) [])) ∧
          ∃ face, typeOf context { request with type := request.type.expand } =
            .ok (.plain face (.unlinked "void") []) := by
  refine ⟨?_, ?_, ?_, ?_⟩
  · intro kotlin transparent
    exact showsAlike_expand_kotlin kotlin request.type bare.type transparent request bare.carried
      bare.shownElsewhere rfl
  · intro java transparent
    exact typeOf_expand_java java request.type request bare.type transparent
  · intro inner shown type named
    exact TypeUse.typeOf_ne_ok_of_namesAlias type named shown
  · intro inner head java type hidden expanded unit
    have expandedType : request.type.expand = .nullable (.classRef head []) := by
      rw [type, TypeUse.expand, expanded]
    exact ⟨typeOf_nullable_aliased_unit java bare unit type hidden expanded,
      typeOf_nullable_unit_java java unit expandedType bare.expand.annotations⟩

/-- A list of numbers under an alias, which may be null. -/
def countList : TypeRequest where
  type := .nullable <| .classRef { identity := .ofClass "kotlin.collections" "List" }
    [.aliased (.unresolved "Count") <|
      .nullable <| .classRef { identity := .ofClass "kotlin" "Int" } []]
  fromJava := false
  sourceSet := ⟨.jvm, "jvmMain"⟩

/-- `Unit` under an alias, which may be null. -/
def maybeAction : TypeRequest :=
  { countList with
    type := .nullable <| .aliased (.unresolved "Action") <|
      .classRef { identity := .ofClass "kotlin" "Unit" } [] }

/-- `T & Any` around an alias. -/
def surelyElement : TypeRequest :=
  { countList with
    type := .nonNull <| .aliased (.unresolved "Element") <|
      .parameter { owner := .ofClass "com.example" "Grid", name := "T" } }

/-- Both languages show `countList` as a list of numbers. Java shows `maybeAction` as `Unit`, and
Kotlin does not show `surelyElement`, though it does once that is expanded. -/
theorem aliases_transparent_countList :
    let kotlin := Context.reference .kotlin {}
    let java := Context.reference .java {}
    countList.IsBare ∧ maybeAction.IsBare ∧ surelyElement.IsBare ∧
      typeOf kotlin { countList with type := countList.type.expand } = typeOf kotlin countList ∧
      typeOf java { countList with type := countList.type.expand } = typeOf java countList ∧
      (typeOf kotlin countList).isOk = true ∧ (typeOf java countList).isOk = true ∧
      (∀ shown, typeOf kotlin surelyElement ≠ .ok shown) ∧
      (typeOf kotlin { surelyElement with type := surelyElement.type.expand }).isOk = true ∧
      (∃ face, typeOf java maybeAction =
        .ok (.plain face ⟨"Unit", "reference/java/kotlin/Unit.html"⟩ [])) ∧
      ∃ face, typeOf java { maybeAction with type := maybeAction.type.expand } =
        .ok (.plain face (.unlinked "void") []) := by
  intro kotlin java
  have bareList : countList.IsBare := ⟨rfl, rfl, by decide +kernel⟩
  have bareAction : maybeAction.IsBare := ⟨rfl, rfl, by decide +kernel⟩
  have bareElement : surelyElement.IsBare := ⟨rfl, rfl, by decide +kernel⟩
  obtain ⟨inKotlin, -⟩ := aliases_transparent kotlin countList bareList
  obtain ⟨-, inJava, -⟩ := aliases_transparent java countList bareList
  obtain ⟨-, -, unnamed, -⟩ := aliases_transparent kotlin surelyElement bareElement
  obtain ⟨-, -, -, hidden⟩ := aliases_transparent java maybeAction bareAction
  obtain ⟨⟨face, shown⟩, expanded⟩ := hidden _ _ rfl rfl rfl rfl (by decide)
  have link : java.link (.ofClass "kotlin" "Unit") = ⟨"Unit", "reference/java/kotlin/Unit.html"⟩ :=
    by decide +kernel
  exact ⟨bareList, bareAction, bareElement, inKotlin rfl (by decide +kernel),
    inJava rfl (by decide +kernel), by decide +kernel, by decide +kernel,
    fun shown => unnamed _ shown rfl rfl, by decide +kernel, ⟨face, link ▸ shown⟩, expanded⟩

end Diglot
