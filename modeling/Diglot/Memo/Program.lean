import Diglot.Memo.Basic
import Diglot.RenderError
import Diglot.TypeUse.ToKotlin

/-!
# Programs over a shared memo

Rendering is described once, in any monad `m` that can fail and can convert a type use to
Kotlin; `Converting m` says that it can. There are two such monads.

* `Except RenderError` converts on the spot, by `TypeUse.toKotlin`.
* `Program` is a value that lists the steps of a computation over a shared memo: to look
  a type use up, and to enter a form unless there is one. Each of the two is one step,
  so that programs which share a memo can take their steps in any order.
  `Program.run` runs one program from its first step to its last.
-/

namespace Diglot

/-- A monad in which types can be rendered. -/
class Converting (m : Type → Type) where
  /-- give up -/
  fail : {α : Type} → RenderError → m α
  /-- the Kotlin form of a type use -/
  toKotlin : (type : TypeUse) → m (Converted type)

/-- Give up exactly if `outcome` is a failure. -/
def attempt {m : Type → Type} [Monad m] [Converting m] {α : Type}
    (outcome : Except RenderError α) : m α :=
  match outcome with
  | .ok value => pure value
  | .error e => Converting.fail e

instance : Converting (Except RenderError) where
  fail e := .error e
  toKotlin type := .ok ⟨type.toKotlin, type.nodes_toKotlin_le⟩

/-- Converting on the spot, an attempt is the outcome itself. -/
@[simp]
theorem attempt_eq {α : Type} (outcome : Except RenderError α) :
    (attempt outcome : Except RenderError α) = outcome := by
  cases outcome <;> rfl

/-- The steps of a computation over a shared memo. -/
inductive Program (α : Type) : Type where
  /-- the computation is over -/
  | finished (outcome : Except RenderError α)
  /-- look up the form of `key`, and go on with what is found -/
  | lookup (key : TypeUse) (next : Option (Converted key) → Program α)
  /-- enter a form of `key` unless there is one, and go on with the one that is there -/
  | enter (key : TypeUse) (form : Converted key) (next : Converted key → Program α)

namespace Program

/-- Go on with `next` where the program succeeds. -/
protected def bind {α β : Type} : Program α → (α → Program β) → Program β
  | finished (.ok value), next => next value
  | finished (.error e), _ => finished (.error e)
  | lookup key rest, next => lookup key fun found => (rest found).bind next
  | enter key form rest, next => enter key form fun kept => (rest kept).bind next

instance : Monad Program where
  pure value := finished (.ok value)
  bind := Program.bind

/-- The remembered form of a type use, or else the one that `make` comes to, which is then
entered. -/
def recalled (type : TypeUse) (make : Program (Converted type)) : Program (Converted type) :=
  lookup type fun
    | some known => pure known
    | none => do
      let form ← make
      enter type form pure

mutual

/-- The Kotlin form of a type use: the remembered one, or else the one made from the
forms of its parts, which is then remembered. -/
def convert : (type : TypeUse) → Program (Converted type)
  | .classRef head arguments =>
    recalled (.classRef head arguments) <|
      match TypeUse.primitiveArray? head arguments with
      | some element =>
        pure ⟨TypeUse.arrayToKotlin head element,
          by simp [TypeUse.arrayToKotlin, TypeUse.nodes, TypeUse.nodesList]⟩
      | none => do
        let forms ← convertList arguments
        pure ⟨TypeUse.renamedToKotlin head forms.val,
          by simpa [TypeUse.renamedToKotlin, TypeUse.nodes] using forms.property⟩
  | .projected variance inner =>
    recalled (.projected variance inner) do
      let form ← convert inner
      pure ⟨form.val, Nat.le_trans form.property (Nat.le_succ _)⟩
  | other => recalled other (pure ⟨other, Nat.le_refl _⟩)

/-- The Kotlin forms of a list of type uses, from first to last. -/
def convertList : (types : List TypeUse) →
    Program { forms : List TypeUse // TypeUse.nodesList forms ≤ TypeUse.nodesList types }
  | [] => pure ⟨[], Nat.le_refl _⟩
  | first :: rest => do
    let form ← convert first
    let forms ← convertList rest
    pure ⟨form.val :: forms.val, Nat.add_le_add form.property forms.property⟩

end

instance : Converting Program where
  fail e := finished (.error e)
  toKotlin := convert

/-- Run a program from a memo, with no other program in between. What was remembered
before a failure stays. -/
def run {α : Type} : Program α → Memo → Except RenderError α × Memo
  | finished outcome, memo => (outcome, memo)
  | lookup key next, memo => (next (memo.find? key)).run memo
  | enter key form next, memo =>
    let (kept, memo') := memo.enter key form
    (next kept).run memo'

end Program

end Diglot
