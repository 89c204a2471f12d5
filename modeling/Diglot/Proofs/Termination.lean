import Diglot.Proofs.KotlinAliases

/-!
# Renderings end

What is rendered on the way to a type is not a part of the type as it is written, but a part of
the form that the language of the display writes. Renderings end nevertheless, because no form
has more nodes than its type.

* `Program.exists_convert_run` — so it is with remembered forms, whatever is remembered.
* `TypeRequest.Issues` — the requests that a request issues: for type arguments, for what is
  inside a wrapper, and for the parts of a function type. `Issues.nodes_lt` is their bound.
* `renderStep_congr` — no other request is issued.
* `run_renderWithin` — a rendering that may be nested only as deep as its type has nodes comes to
  what the unlimited one comes to, with a memo or without.
-/

namespace Diglot

/-! ## Conversions -/

namespace Program

/-- A remembered form is found, or made and entered. -/
theorem exists_recalled_run {type : TypeUse} {make : Program (Converted type)}
    (made : ∀ memo, ∃ form memo', make.run memo = (.ok form, memo')) (memo : Memo) :
    ∃ form memo', (recalled type make).run memo = (.ok form, memo') := by
  rw [recalled, run]
  cases memo.find? type with
  | some known => exact ⟨known, memo, rfl⟩
  | none =>
    obtain ⟨form, memo', ran⟩ := made memo
    refine ⟨(memo'.enter type form).1, (memo'.enter type form).2, ?_⟩
    change ((make >>= fun form => enter type form pure).run memo) = _
    rw [run_bind, ran]
    rfl

mutual

/-- **Conversions over a memo succeed**, whatever it holds. That the form is no larger than the
type use is part of its type. -/
theorem exists_convert_run : ∀ (type : TypeUse) (memo : Memo),
    ∃ form memo', (convert type).run memo = (.ok form, memo')
  | .classRef head arguments, memo => by
    rw [convert]
    refine exists_recalled_run (fun memo => ?_) memo
    cases TypeUse.primitiveArray? head arguments with
    | some element => exact ⟨_, memo, rfl⟩
    | none =>
      obtain ⟨forms, memo', ran⟩ := exists_convertList_run arguments memo
      dsimp only
      rw [run_bind, ran]
      exact ⟨_, memo', rfl⟩
  | .projected variance inner, memo => by
    rw [convert]
    refine exists_recalled_run (fun memo => ?_) memo
    obtain ⟨form, memo', ran⟩ := exists_convert_run inner memo
    rw [run_bind, ran]
    exact ⟨_, memo', rfl⟩
  | .nullable _, memo | .nonNull _, memo | .aliased .., memo | .parameter _, memo
  | .primitive _, memo | .javaObject _, memo | .void, memo | .star, memo | .dynamic, memo
  | .unresolved _, memo => by
    rw [convert]
    · exact exists_recalled_run (fun memo => ⟨_, memo, rfl⟩) memo
    all_goals nofun

/-- Conversions of lists over a memo succeed, whatever it holds. -/
theorem exists_convertList_run : ∀ (types : List TypeUse) (memo : Memo),
    ∃ forms memo', (convertList types).run memo = (.ok forms, memo')
  | [], memo => ⟨_, memo, rfl⟩
  | first :: rest, memo => by
    obtain ⟨form, memo', ran⟩ := exists_convert_run first memo
    obtain ⟨forms, memo'', others⟩ := exists_convertList_run rest memo'
    rw [convertList, run_bind, ran]
    dsimp only
    rw [run_bind, others]
    exact ⟨_, memo'', rfl⟩

end

/-- Programs may be regrouped. -/
theorem bind_assoc {α β γ : Type} (program : Program α) (next : α → Program β)
    (last : β → Program γ) :
    program >>= next >>= last = program >>= fun value => next value >>= last := by
  induction program with
  | finished outcome => cases outcome <;> rfl
  | lookup key rest ih => exact congrArg (lookup key) (funext ih)
  | enter key form rest ih => exact congrArg (enter key form) (funext ih)

/-- A program followed by nothing is the program. -/
theorem id_map {α : Type} (program : Program α) : id <$> program = program := by
  induction program with
  | finished outcome => cases outcome <;> rfl
  | lookup key rest ih => exact congrArg (lookup key) (funext ih)
  | enter key form rest ih => exact congrArg (enter key form) (funext ih)

instance : LawfulMonad Program :=
  .mk' _ id_map (fun _ _ => rfl) bind_assoc

end Program

/-! ## Requests -/

/-- The form of a request is a Kotlin function type with the given parts. -/
structure Context.TakesApart (context : Context) (request : TypeRequest) (form : TypeUse)
    (parts : LambdaParts) : Prop where
  /-- function types are displayed as such in Kotlin -/
  kotlin : context.dialect = .kotlin
  /-- the form is the written one -/
  written : context.writtenForm request = .ok form
  /-- it is a function type -/
  function : form.isFunctionType = .ok true
  /-- it has these parts -/
  split : form.lambdaParts = .ok parts

/-- **The requests that a request issues.** -/
inductive TypeRequest.Issues (context : Context) (request : TypeRequest) : TypeRequest → Prop where
  /-- for a type argument, as it is written -/
  | argument {type : TypeUse} (mem : type ∈ request.type.writtenArguments) :
      Issues context request (request.forArgument type)
  /-- for the inside of a nullable form -/
  | nullable {inner : TypeUse} (written : context.writtenForm request = .ok (.nullable inner)) :
      Issues context request (request.forNullable inner)
  /-- for the inside of a projected form -/
  | projected {variance : Variance} {inner : TypeUse}
      (written : context.writtenForm request = .ok (.projected variance inner)) :
      Issues context request (request.forProjected inner)
  /-- for what an alias stands for -/
  | aliased {named inner : TypeUse}
      (written : context.writtenForm request = .ok (.aliased named inner)) :
      Issues context request (request.forAliased inner)
  /-- for the receiver of a function type -/
  | receiver {form type : TypeUse} {parts : LambdaParts}
      (apart : context.TakesApart request form parts) (mem : type ∈ parts.receiver) :
      Issues context request { type, fromJava := false, sourceSet := request.sourceSet }
  /-- for a parameter of a function type -/
  | parameter {form type : TypeUse} {parts : LambdaParts}
      (apart : context.TakesApart request form parts) (mem : type ∈ parts.parameters) :
      Issues context request (.forLambdaParameter type false request.sourceSet)
  /-- for what a function type returns -/
  | returnType {form : TypeUse} {parts : LambdaParts}
      (apart : context.TakesApart request form parts) :
      Issues context request
        { type := parts.returnType, fromJava := false, sourceSet := request.sourceSet,
          imposed := some (form.nullability context.dialect none []) }

namespace TypeRequest.Issues

variable {context : Context} {request inner : TypeRequest}

/-- **Every request that is issued is for a type with fewer nodes.** -/
theorem nodes_lt (issued : request.Issues context inner) :
    inner.type.nodes < request.type.nodes := by
  cases issued with
  | argument mem => exact TypeUse.nodes_lt_of_mem_writtenArguments mem
  | nullable written => exact context.nodes_inside_lt written rfl
  | projected written => exact context.nodes_inside_lt written rfl
  | aliased written => exact context.nodes_inside_lt written rfl
  | receiver apart mem =>
    exact Nat.lt_of_lt_of_le ((TypeUse.nodes_lambdaParts_lt apart.split).1 _ mem)
      (context.nodes_writtenForm_le apart.written)
  | parameter apart mem =>
    exact Nat.lt_of_lt_of_le ((TypeUse.nodes_lambdaParts_lt apart.split).2.1 _ mem)
      (context.nodes_writtenForm_le apart.written)
  | returnType apart =>
    exact Nat.lt_of_lt_of_le (TypeUse.nodes_lambdaParts_lt apart.split).2.2
      (context.nodes_writtenForm_le apart.written)

end TypeRequest.Issues

/-! ## One step -/

section

variable {m : Type → Type} [Monad m] [Converting m]

/-- One step of a rendering, with whatever answers the requests that it issues. -/
def renderStep (context : Context) (request : TypeRequest) (answer : TypeRequest → m ShownType) :
    m ShownType :=
  renderTypeBy context request fun inner _ => answer inner

end

section

variable {context : Context} {request : TypeRequest}
  {answer answer' : TypeRequest → Except RenderError ShownType}

/-- A function type is shown by the answers for its parts. -/
theorem renderLambdaBy_congr {form : TypeUse}
    (apart : ∀ parts, form.lambdaParts = .ok parts → context.TakesApart request form parts)
    (same : ∀ inner, request.Issues context inner → answer inner = answer' inner) :
    renderLambdaBy context request form (fun inner _ => answer inner) =
      renderLambdaBy context request form fun inner _ => answer' inner := by
  unfold renderLambdaBy
  split
  · rfl
  · rename_i parts split
    have apart := apart parts split
    have receiver : renderReceiverBy parts.receiver (fun type _ =>
          answer { type, fromJava := false, sourceSet := request.sourceSet }) =
        renderReceiverBy parts.receiver fun type _ =>
          answer' { type, fromJava := false, sourceSet := request.sourceSet } := by
      cases found : parts.receiver with
      | none => rfl
      | some type => simp only [renderReceiverBy, same _ (.receiver apart found)]
    have returnType := same _ (.returnType apart)
    dsimp only
    rw [receiver, returnType]
    refine bind_congr fun receiver => ?_
    refine congrArg (· >>= _) (mapM'_congr fun parameter _ => ?_)
    rw [same _ (.parameter apart parameter.property)]

/-- A form is shown by the answers for its parts, if it has any. -/
theorem renderFormBy_congr {arguments : List ShownType} {form : TypeUse}
    (written : context.writtenForm request = .ok form)
    (same : ∀ inner, request.Issues context inner → answer inner = answer' inner) :
    renderFormBy context request arguments form (fun inner _ => answer inner) =
      renderFormBy context request arguments form fun inner _ => answer' inner := by
  unfold renderFormBy
  refine bind_congr fun annotations => ?_
  split
  · rfl
  · rename_i kotlin
    cases function : form.isFunctionType with
    | error e => rfl
    | ok isFunction =>
      cases isFunction with
      | false => rfl
      | true =>
        exact renderLambdaBy_congr (fun parts split => ⟨kotlin, written, function, split⟩) same

/-- **No other request is issued**: a step depends on the answers to these requests only. -/
theorem renderStep_congr
    (same : ∀ inner, request.Issues context inner → answer inner = answer' inner) :
    renderStep context request answer = renderStep context request answer' := by
  unfold renderStep renderTypeBy
  have arguments : (request.type.writtenArguments.attach.mapM' fun argument =>
        answer (request.forArgument argument.val)) =
      request.type.writtenArguments.attach.mapM' fun argument =>
        answer' (request.forArgument argument.val) :=
    mapM'_congr fun argument _ => same _ (.argument argument.property)
  refine (congrArg (· >>= _) arguments).trans (bind_congr fun arguments => ?_)
  -- the form is the written one, if there is one
  have written := context.form_eq request
  cases found : (context.form request : Except RenderError _) with
  | error e => rfl
  | ok converted =>
    obtain ⟨form, le⟩ := converted
    rw [found] at written
    have written : context.writtenForm request = .ok form := written.symm
    cases form with
    | nullable inner => exact same _ (.nullable written)
    | projected variance inner => exact same _ (.projected written)
    | aliased named inner => exact same _ (.aliased written)
    | classRef | parameter | primitive | javaObject | void | star | dynamic | unresolved
    | nonNull => exact renderFormBy_congr written same

end

/-! ## Limited depth -/

section

variable {m : Type → Type} [Monad m] [Converting m]

/-- Where types can be rendered, they can be rendered up to some depth. -/
instance : Converting (OptionT m) where
  fail e := OptionT.lift (Converting.fail e)
  toKotlin type := OptionT.lift (Converting.toKotlin type)

/-- A rendering in which requests may be nested `depth` times. It has no outcome if that is not
enough. -/
def renderWithin (context : Context) : Nat → TypeRequest → OptionT m ShownType
  | 0, _ => failure
  | depth + 1, request => renderStep context request (renderWithin context depth)

variable [LawfulMonad m]

/-- What has an outcome within a limit corresponds to what has it without. -/
def Agreement.unlimited (dialect : Dialect) (m : Type → Type) [Monad m] [Converting m]
    [LawfulMonad m] : Agreement dialect (OptionT m) m where
  Rel x y := x.run = some <$> y
  pure value := by simp
  map {_ _} f {x y} related := by simp [related]
  bind {_ _ x y f g} related next := by simp [related, next]
  fail e := by simp [Converting.fail]
  toKotlin _ type := by simp [Converting.toKotlin]

/-- **The number of nodes is depth enough.** -/
theorem run_renderWithin (context : Context) {depth : Nat} {request : TypeRequest}
    (enough : request.type.nodes ≤ depth) :
    (renderWithin context depth request : OptionT m ShownType).run =
      some <$> renderType context request := by
  induction depth generalizing request with
  | zero => exact absurd enough (Nat.not_le_of_lt request.type.nodes_pos)
  | succ depth ih =>
    rw [renderWithin, renderType]
    exact (Agreement.unlimited context.dialect m).renderTypeBy request fun inner lt =>
      ih (Nat.le_of_lt_succ (Nat.lt_of_lt_of_le lt enough))

end

/-- **Renderings end.** No form of a type has more nodes than the type: not the one that is
written in Java, nor the Kotlin one, nor a Kotlin form over any memo, where a conversion always
succeeds. Every request that a rendering issues is therefore for a type with fewer nodes, and it
issues no others. So a rendering whose requests are nested only as deep as its type has nodes
comes to what the unlimited one comes to, with a memo or without. -/
theorem renderings_end (context : Context) (request : TypeRequest) :
    (∀ position form, request.type.toJava position = .ok form →
      form.nodes ≤ request.type.nodes) ∧
    request.type.toKotlin.nodes ≤ request.type.nodes ∧
    (∀ memo, ∃ form memo', (Program.convert request.type).run memo = (.ok form, memo') ∧
      form.val.nodes ≤ request.type.nodes) ∧
    (∀ inner, request.Issues context inner → inner.type.nodes < request.type.nodes) ∧
    (∀ answer answer' : TypeRequest → Except RenderError ShownType,
      (∀ inner, request.Issues context inner → answer inner = answer' inner) →
        renderStep context request answer = renderStep context request answer') ∧
    (∀ depth, request.type.nodes ≤ depth →
      (renderWithin context depth request : OptionT (Except RenderError) ShownType).run =
          some <$> renderType context request ∧
        (renderWithin context depth request : OptionT Program ShownType).run =
          some <$> renderType context request) := by
  refine ⟨fun position form written => request.type.nodes_toJava_le written,
    request.type.nodes_toKotlin_le, fun memo => ?_, fun inner issued => issued.nodes_lt,
    fun answer answer' same => renderStep_congr same, fun depth enough => ?_⟩
  · obtain ⟨form, memo', ran⟩ := Program.exists_convert_run request.type memo
    exact ⟨form, memo', ran, form.property⟩
  · exact ⟨run_renderWithin context enough, run_renderWithin context enough⟩

/-- The request for a function type that takes an array of `int`. -/
def arrayConsumer : TypeRequest where
  type := .classRef { identity := .ofClass "kotlin" "Function1" }
    [.classRef { identity := .ofClass "kotlin" "Array" } [.primitive "int"],
      .classRef { identity := .ofClass "kotlin" "String" } []]
  fromJava := false
  sourceSet := ⟨.jvm, "jvmMain"⟩

/-- The array loses its argument on the way to Kotlin, where the parameter is rendered again. -/
theorem renderings_end_arrayConsumer :
    let context := Context.reference .kotlin {}
    arrayConsumer.type.nodes = 4 ∧ arrayConsumer.type.toKotlin.nodes = 3 ∧
      (∃ inner, arrayConsumer.Issues context inner ∧
        inner.type = TypeUse.arrayToKotlin { identity := .ofClass "kotlin" "Array" } .int ∧
          inner.type.nodes < arrayConsumer.type.nodes) ∧
      (renderWithin context 4 arrayConsumer : OptionT Program ShownType).run =
        some <$> renderType context arrayConsumer := by
  have size : arrayConsumer.type.nodes = 4 := by decide
  obtain ⟨-, -, -, smaller, -, limited⟩ :=
    renderings_end (Context.reference .kotlin {}) arrayConsumer
  have form : arrayConsumer.type.toKotlin =
      .classRef { identity := .ofClass "kotlin" "Function1" }
        [TypeUse.arrayToKotlin { identity := .ofClass "kotlin" "Array" } .int,
          .classRef { identity := .ofClass "kotlin" "String" } []] := by
    decide +kernel
  have apart : (Context.reference .kotlin {}).TakesApart arrayConsumer
      arrayConsumer.type.toKotlin
      ⟨none, [TypeUse.arrayToKotlin { identity := .ofClass "kotlin" "Array" } .int],
        .classRef { identity := .ofClass "kotlin" "String" } []⟩ :=
    ⟨rfl, rfl, by decide +kernel, by rw [form]; rfl⟩
  have issued := TypeRequest.Issues.parameter apart (List.mem_singleton_self _)
  exact ⟨size, by decide +kernel, ⟨_, issued, rfl, smaller _ issued⟩,
    (limited 4 (Nat.le_of_eq size)).2⟩

end Diglot
