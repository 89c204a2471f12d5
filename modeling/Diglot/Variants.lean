import Diglot.Render.Declaration

/-!
# Variants of a declaration

A declaration has one signature in each of its source sets. Source sets with equal
signatures form a `Variant`, and the variants of a declaration are listed by their
source sets, with one marked as primary. The grouping works on the pairs of source sets
and signatures in any order.
-/

namespace Diglot

/-- A signature with the source sets that have it. -/
structure Variant where
  /-- the signature -/
  signature : Signature
  /-- its source sets, in increasing order -/
  sourceSets : List SourceSet
deriving DecidableEq

namespace Variant

/-- Add a source set to the variant with its signature, which is made if need be. -/
def enter (sourceSet : SourceSet) (signature : Signature) : List Variant → List Variant
  | [] => [⟨signature, [sourceSet]⟩]
  | first :: rest =>
    if first.signature = signature then
      { first with sourceSets := sourceSet.insertSorted first.sourceSets } :: rest
    else first :: enter sourceSet signature rest

/-- The variants that a list of source sets with their signatures makes up, in the order in
which the signatures first occur. -/
def group (pairs : List (SourceSet × Signature)) : List Variant :=
  pairs.foldl (fun variants pair => enter pair.1 pair.2 variants) []

/-- Variants in the order of their source sets. -/
def sorted (variants : List Variant) : List Variant :=
  variants.mergeSort fun a b => (SourceSet.compareLists a.sourceSets b.sourceSets).isLE

end Variant

/-- All variants of a declaration. -/
structure Variants where
  /-- the variants, in the order of their source sets -/
  all : List Variant
  /-- position of the primary one -/
  primaryIndex : Fin all.length

namespace Variants

/-- The variant that is shown first. -/
def primary (variants : Variants) : Variant :=
  variants.all[variants.primaryIndex]

/-- Whether every source set has the same signature. -/
def isUniform (variants : Variants) : Bool :=
  variants.all.length = 1

/-- Position of the variant to be shown first: the one of the common source set, if
there is one, or else the first. -/
def primaryOf (common : Option SourceSet) (all : List Variant) : Nat :=
  (common.bind fun sourceSet =>
    all.findIdx? fun variant => variant.sourceSets.contains sourceSet).getD 0

/-- All variants of a declaration, given in any order; none if there is no variant. -/
def ofGroups? (common : Option SourceSet) (groups : List Variant) : Option Variants :=
  let all := Variant.sorted groups
  if h : primaryOf common all < all.length then some ⟨all, ⟨primaryOf common all, h⟩⟩ else none

/-- The variants that are given by source sets with their signatures; none if there are no
source sets. -/
def ofPairs? (common : Option SourceSet) (pairs : List (SourceSet × Signature)) :
    Option Variants :=
  ofGroups? common (Variant.group pairs)

/-- The variants on separate lines: the primary signature, and below it every variant
with the platforms that have it, unless all are the same. -/
def text (variants : Variants) : String :=
  let line (variant : Variant) : String :=
    "\n    [" ++ Text.joined ", " (variant.sourceSets.map (·.platform.shortName)) ++ "] " ++
      variant.signature.text
  variants.primary.signature.text ++
    if variants.isUniform then "" else Text.joined "" (variants.all.map line)

end Variants

section

variable {m : Type → Type} [Monad m] [Converting m]

/-- Render a declaration in each of its source sets, and group equal signatures. It fails
if a signature does, or if there is none. -/
def renderVariants (context : Context) (declaration : Declaration) (inSummary : Bool) :
    m Variants := do
  let pairs ← declaration.sourceSets.mapM' fun sourceSet => do
    let signature ← renderSignature context declaration sourceSet inSummary
    pure (sourceSet, signature)
  match Variants.ofPairs? declaration.commonSourceSet? pairs with
  | some variants => pure variants
  | none => Converting.fail (.noSourceSets declaration.identity)

end

end Diglot
