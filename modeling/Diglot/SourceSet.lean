/-!
# Source sets

A multiplatform project compiles its declarations in several source sets, each for one
platform. Source sets are ordered by platform and then by name; lists of them are
ordered entry by entry.
-/

namespace Diglot

/-- What a source set is compiled for. -/
inductive Platform where
  /-- shared code, compiled for every target -/
  | common
  /-- the Java virtual machine and Android -/
  | jvm
  /-- native code -/
  | native
  /-- WebAssembly -/
  | wasm
  /-- JavaScript -/
  | js
deriving DecidableEq

namespace Platform

/-- The platforms in their order. -/
def all : List Platform := [common, jvm, native, wasm, js]

/-- Position in the order of platforms. -/
def rank : Platform → Nat
  | common => 0
  | jvm => 1
  | native => 2
  | wasm => 3
  | js => 4

/-- Name in the model format. -/
def label : Platform → String
  | common => "common"
  | jvm => "jvm"
  | native => "native"
  | wasm => "wasm"
  | js => "js"

/-- Short name, shown in front of the signature of a group of source sets. -/
def shortName : Platform → String
  | common => "Cmn"
  | jvm => "A"
  | native => "N"
  | wasm => "WASM"
  | js => "JS"

end Platform

/-- A named compilation unit for one platform. -/
structure SourceSet where
  /-- what it is compiled for -/
  platform : Platform := .jvm
  /-- display name, such as `commonMain` -/
  name : String
deriving DecidableEq

namespace SourceSet

/-- Order by platform, then by name. -/
def compare (a b : SourceSet) : Ordering :=
  (Ord.compare a.platform.rank b.platform.rank).then (Ord.compare a.name b.name)

instance : Ord SourceSet := ⟨compare⟩

/-- Add a source set to a list in increasing order, unless it is there already. -/
def insertSorted (new : SourceSet) : List SourceSet → List SourceSet
  | [] => [new]
  | old :: rest =>
    match compare new old with
    | .lt => new :: old :: rest
    | .eq => old :: rest
    | .gt => old :: insertSorted new rest

/-- Order of lists of source sets: by their first difference, a shorter list before its
extensions. -/
def compareLists : List SourceSet → List SourceSet → Ordering
  | [], [] => .eq
  | [], _ :: _ => .lt
  | _ :: _, [] => .gt
  | a :: as, b :: bs => (compare a b).then (compareLists as bs)

end SourceSet

end Diglot
