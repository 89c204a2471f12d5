import Diglot.TypeUse.Equality
import Diglot.TypeUse.Size

/-!
# The memo of conversions

A rendering run remembers the Kotlin form of every type use that it has converted. A
`Memo` only grows, and it keeps the first form that is entered for a type use. That
a remembered form is no larger than the type use is part of its type, so that whoever
works through remembered forms comes to an end; that it is the right form is a matter
of how the memo is used.
-/

namespace Diglot

/-- A form found for `key`, which is no larger than `key`. -/
abbrev Converted (key : TypeUse) : Type := { form : TypeUse // form.nodes ≤ key.nodes }

/-- A type use with the form that was found for it. -/
structure MemoEntry where
  /-- the type use -/
  key : TypeUse
  /-- its form -/
  form : Converted key

/-- The conversions of a run, latest first. -/
structure Memo where
  /-- what was remembered -/
  entries : List MemoEntry

namespace Memo

/-- Nothing is remembered. -/
def empty : Memo := ⟨[]⟩

/-- The form of `key` in a list of entries. -/
def findIn (key : TypeUse) : List MemoEntry → Option (Converted key)
  | [] => none
  | entry :: rest => if h : entry.key = key then some (h ▸ entry.form) else findIn key rest

/-- The remembered form of `key`. -/
def find? (memo : Memo) (key : TypeUse) : Option (Converted key) :=
  findIn key memo.entries

/-- Remember a form of `key`, unless there is one already; the remembered form is the
answer. -/
def enter (memo : Memo) (key : TypeUse) (form : Converted key) : Converted key × Memo :=
  match memo.find? key with
  | some known => (known, memo)
  | none => (form, ⟨⟨key, form⟩ :: memo.entries⟩)

/-- How many type uses are remembered. -/
def size (memo : Memo) : Nat := memo.entries.length

end Memo

end Diglot
