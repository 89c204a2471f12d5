import Diglot.Variants

/-!
# Renderings in two monads

Rendering is written once, for every monad that can fail and can convert. What a rendering
does in one of these monads therefore corresponds, step by step, to what it does in another.

* `Agreement` — a relation between the computations of two monads that is respected by
  everything renderings are made of. In Java renderings no type is converted, so there the
  conversions need not be related.
* One lemma for each function of the renderer, up to `Agreement.renderVariants`: what the function
  does in the one monad is related to what it does in the other.
-/

namespace Diglot

/-- A relation between the computations of two monads that is respected by everything of
which renderings for `dialect` are made. -/
structure Agreement (dialect : Dialect) (m n : Type → Type) [Monad m] [Converting m]
    [Monad n] [Converting n] where
  /-- the relation -/
  Rel : {α : Type} → m α → n α → Prop
  /-- a value is related to itself -/
  pure : ∀ {α : Type} (value : α), Rel (Pure.pure value) (Pure.pure value)
  /-- results may be changed on both sides -/
  map : ∀ {α β : Type} (f : α → β) {x : m α} {y : n α}, Rel x y → Rel (f <$> x) (f <$> y)
  /-- related computations may follow on both sides -/
  bind : ∀ {α β : Type} {x : m α} {y : n α} {f : α → m β} {g : α → n β},
    Rel x y → (∀ value, Rel (f value) (g value)) → Rel (x >>= f) (y >>= g)
  /-- a failure is related to itself -/
  fail : ∀ {α : Type} (e : RenderError), Rel (Converting.fail (α := α) e) (Converting.fail e)
  /-- a conversion is related to itself -/
  toKotlin : dialect = .kotlin →
    ∀ type, Rel (Converting.toKotlin (m := m) type) (Converting.toKotlin type)

namespace Agreement

variable {m n : Type → Type} [Monad m] [Converting m] [Monad n] [Converting n]

/-! ## Types -/

section

variable {dialect : Dialect} (A : Agreement dialect m n)

include A

theorem mapM' {α β : Type} {f : α → m β} {g : α → n β} :
    ∀ {list : List α}, (∀ a ∈ list, A.Rel (f a) (g a)) → A.Rel (list.mapM' f) (list.mapM' g)
  | [], _ => A.pure []
  | a :: rest, h => by
    refine A.bind (h a (List.mem_cons_self ..)) fun first => ?_
    exact A.bind (mapM' fun b hb => h b (List.mem_cons_of_mem _ hb)) fun others => A.pure _

theorem attempt {α : Type} (outcome : Except RenderError α) :
    A.Rel (Diglot.attempt outcome : m α) (Diglot.attempt outcome) := by
  cases outcome with
  | ok value => exact A.pure value
  | error e => exact A.fail e

theorem parameterName (name : String) (type : TypeUse) :
    A.Rel (Diglot.parameterName name type : m String) (Diglot.parameterName name type) := by
  unfold Diglot.parameterName
  split
  · refine A.bind (A.attempt _) fun isFunction => ?_
    split
    · split <;> exact A.pure _
    · exact A.pure _
  · exact A.pure _

end

variable {context : Context} (A : Agreement context.dialect m n)

include A

theorem form (request : TypeRequest) :
    A.Rel (context.form request : m _) (context.form request) := by
  unfold Context.form
  split
  · rename_i kotlin
    exact A.toKotlin kotlin _
  · split
    · exact A.pure _
    · exact A.fail _

theorem renderReceiverBy (receiver : Option TypeUse)
    {recurse : (type : TypeUse) → type ∈ receiver → m ShownType}
    {recurse' : (type : TypeUse) → type ∈ receiver → n ShownType}
    (h : ∀ type mem, A.Rel (recurse type mem) (recurse' type mem)) :
    A.Rel (Diglot.renderReceiverBy receiver recurse)
      (Diglot.renderReceiverBy receiver recurse') := by
  cases receiver with
  | none => exact A.pure none
  | some type => exact A.bind (h type rfl) fun shown => A.pure _

theorem renderLambdaBy (request : TypeRequest) (form : TypeUse)
    {recurse : (inner : TypeRequest) → inner.type.nodes < form.nodes → m ShownType}
    {recurse' : (inner : TypeRequest) → inner.type.nodes < form.nodes → n ShownType}
    (h : ∀ inner lt, A.Rel (recurse inner lt) (recurse' inner lt)) :
    A.Rel (Diglot.renderLambdaBy context request form recurse)
      (Diglot.renderLambdaBy context request form recurse') := by
  unfold Diglot.renderLambdaBy
  split
  · exact A.fail _
  · refine A.bind (A.renderReceiverBy _ fun type mem => h _ _) fun receiver => ?_
    refine A.bind (A.mapM' fun parameter _ => ?_) fun parameters => ?_
    · exact A.bind (h _ _) fun shown => A.attempt _
    refine A.bind (h _ _) fun returnType => ?_
    refine A.bind (A.attempt _) fun isSuspend => ?_
    exact A.bind (A.attempt _) fun annotations => A.pure _

theorem renderFormBy (request : TypeRequest) (arguments : List ShownType) (form : TypeUse)
    {recurse : (inner : TypeRequest) → inner.type.nodes < form.nodes → m ShownType}
    {recurse' : (inner : TypeRequest) → inner.type.nodes < form.nodes → n ShownType}
    (h : ∀ inner lt, A.Rel (recurse inner lt) (recurse' inner lt)) :
    A.Rel (Diglot.renderFormBy context request arguments form recurse)
      (Diglot.renderFormBy context request arguments form recurse') := by
  unfold Diglot.renderFormBy
  refine A.bind (A.attempt _) fun annotations => ?_
  split
  · exact A.bind (A.attempt _) fun link => A.pure _
  · refine A.bind (A.attempt _) fun isFunction => ?_
    split
    · exact A.renderLambdaBy request form h
    · refine A.bind (A.attempt _) fun link => ?_
      split <;> exact A.pure _

theorem renderTypeBy (request : TypeRequest)
    {recurse : (inner : TypeRequest) → inner.type.nodes < request.type.nodes → m ShownType}
    {recurse' : (inner : TypeRequest) → inner.type.nodes < request.type.nodes → n ShownType}
    (h : ∀ inner lt, A.Rel (recurse inner lt) (recurse' inner lt)) :
    A.Rel (Diglot.renderTypeBy context request recurse)
      (Diglot.renderTypeBy context request recurse') := by
  unfold Diglot.renderTypeBy
  refine A.bind (A.mapM' fun argument _ => h _ _) fun arguments => ?_
  refine A.bind (A.form request) fun form => ?_
  obtain ⟨form, le⟩ := form
  cases form with
  | nullable inner => exact h _ _
  | projected variance inner => exact h _ _
  | aliased named inner => exact h _ _
  | classRef | parameter | primitive | javaObject | void | star | dynamic | unresolved
  | nonNull =>
    exact A.renderFormBy request arguments _ fun inner lt => h inner _

theorem renderType (request : TypeRequest) :
    A.Rel (Diglot.renderType context request : m _) (Diglot.renderType context request) := by
  -- every type that is rendered on the way has fewer nodes
  induction size : request.type.nodes using Nat.strongRecOn generalizing request with
  | ind size ih =>
    subst size
    rw [Diglot.renderType, Diglot.renderType]
    exact A.renderTypeBy request fun inner lt => ih _ lt inner rfl

theorem renderLambdaParameter (type : TypeUse) (fromJava : Bool) (sourceSet : SourceSet) :
    A.Rel (Diglot.renderLambdaParameter context type fromJava sourceSet : m _)
      (Diglot.renderLambdaParameter context type fromJava sourceSet) := by
  unfold Diglot.renderLambdaParameter
  exact A.bind (A.renderType _) fun shown => A.attempt _

/-! ## Declarations -/

theorem renderParameter (parameter : Parameter) (inSummary fromJava : Bool)
    (sourceSet : SourceSet) :
    A.Rel (Diglot.renderParameter context parameter inSummary fromJava sourceSet : m _)
      (Diglot.renderParameter context parameter inSummary fromJava sourceSet) := by
  unfold Diglot.renderParameter
  refine A.bind (A.attempt _) fun modifiers => ?_
  split
  · refine A.bind (A.renderType _) fun type => ?_
    exact A.bind (A.attempt _) fun annotations => A.pure _
  · rename_i kotlin
    refine A.bind (A.toKotlin kotlin _) fun converted => ?_
    refine A.bind (A.parameterName _ _) fun name => ?_
    refine A.bind (A.renderType _) fun type => ?_
    exact A.bind (A.attempt _) fun annotations => A.pure _

theorem renderTypeParameter (parameter : TypeParameter) (fromJava : Bool)
    (sourceSet : SourceSet) :
    A.Rel (Diglot.renderTypeParameter context parameter fromJava sourceSet : m _)
      (Diglot.renderTypeParameter context parameter fromJava sourceSet) := by
  unfold Diglot.renderTypeParameter
  exact A.bind (A.mapM' fun bound _ => A.renderType _) fun bounds => A.pure _

theorem renderDeclaredType (declaration : Declaration) (type : TypeUse)
    (sourceSet : SourceSet) (isReturn : Bool) :
    A.Rel (Diglot.renderDeclaredType context declaration type sourceSet isReturn : m _)
      (Diglot.renderDeclaredType context declaration type sourceSet isReturn) :=
  A.renderType _

theorem renderFunction (declaration : Declaration) (detail : FunctionDetail)
    (sourceSet : SourceSet) (inSummary : Bool) :
    A.Rel (Diglot.renderFunction context declaration detail sourceSet inSummary : m _)
      (Diglot.renderFunction context declaration detail sourceSet inSummary) := by
  unfold Diglot.renderFunction
  refine A.bind (A.attempt _) fun modifiers => ?_
  refine A.bind (A.renderDeclaredType _ _ _ _) fun returnType => ?_
  refine A.bind (A.mapM' fun p _ => A.renderTypeParameter p _ _) fun typeParameters => ?_
  refine A.bind (A.mapM' fun p _ => A.renderParameter p _ _ _) fun parameters => ?_
  refine A.bind (A.mapM' fun p _ => A.renderParameter p _ _ _) fun receivers => ?_
  exact A.bind (A.attempt _) fun annotations => A.pure _

theorem renderPropertyReceiver (receiver : Option Parameter) (inSummary fromJava : Bool)
    (sourceSet : SourceSet) :
    A.Rel (Diglot.renderPropertyReceiver context receiver inSummary fromJava sourceSet : m _)
      (Diglot.renderPropertyReceiver context receiver inSummary fromJava sourceSet) := by
  unfold Diglot.renderPropertyReceiver
  split
  · exact A.pure _
  · exact A.mapM' fun p _ => A.renderParameter p _ _ _

theorem renderProperty (declaration : Declaration) (detail : PropertyDetail)
    (sourceSet : SourceSet) (inSummary : Bool) :
    A.Rel (Diglot.renderProperty context declaration detail sourceSet inSummary : m _)
      (Diglot.renderProperty context declaration detail sourceSet inSummary) := by
  unfold Diglot.renderProperty
  refine A.bind (A.attempt _) fun modifiers => ?_
  refine A.bind (A.renderDeclaredType _ _ _ _) fun type => ?_
  refine A.bind (A.renderPropertyReceiver _ _ _ _) fun receivers => ?_
  exact A.bind (A.attempt _) fun annotations => A.pure _

/-- **Signatures agree**: what one monad does to render a signature is related to what the
other does. -/
theorem renderSignature (declaration : Declaration) (sourceSet : SourceSet)
    (inSummary : Bool) :
    A.Rel (Diglot.renderSignature context declaration sourceSet inSummary : m _)
      (Diglot.renderSignature context declaration sourceSet inSummary) := by
  unfold Diglot.renderSignature
  split
  · exact A.map _ (A.renderFunction _ _ _ _)
  · exact A.map _ (A.renderProperty _ _ _ _)

/-- **Variants agree.** -/
theorem renderVariants (declaration : Declaration) (inSummary : Bool) :
    A.Rel (Diglot.renderVariants context declaration inSummary : m _)
      (Diglot.renderVariants context declaration inSummary) := by
  unfold Diglot.renderVariants
  refine A.bind (A.mapM' fun sourceSet _ => ?_) fun pairs => ?_
  · exact A.bind (A.renderSignature _ _ _) fun signature => A.pure _
  split
  · exact A.pure _
  · exact A.fail _

end Agreement

end Diglot
