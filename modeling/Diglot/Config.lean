import Diglot.Dialect

/-!
# Configuration

The options of a rendering run. Every option has a default.
-/

namespace Diglot

/-- Nullability annotations that are accepted unless the configuration lists others. The
ones of package `android` are replaced by those of `androidx` when they are shown. -/
def acceptedNullability : List String :=
  ["androidx.annotation.Nullable", "android.annotation.Nullable",
    "androidx.annotation.NonNull", "android.annotation.NonNull",
    "org.jspecify.annotations.NonNull", "org.jspecify.annotations.Nullable"]

/-- Options of a rendering run. -/
structure Config where
  /-- the language of the display -/
  dialect : Dialect := .kotlin
  /-- what every link path starts with -/
  rootPath : String := "reference"
  /-- qualified names of annotations that are never displayed -/
  excluded : List String := []
  /-- names that are not displayed in Java in addition -/
  excludedInJava : List String := []
  /-- names that are not displayed in Kotlin in addition -/
  excludedInKotlin : List String := []
  /-- qualified names of annotation classes that are hidden themselves -/
  hidden : List String := []
  /-- qualified names of the nullability annotations that may be used -/
  validNullability : List String := acceptedNullability
  /-- elements of Java arrays are named with their packages -/
  qualifiedArrays : Bool := false
deriving DecidableEq

namespace Config

/-- Whether the annotation class `name` is excluded from displays in `dialect`. -/
def isExcluded (config : Config) (dialect : Dialect) (name : String) : Bool :=
  config.excluded.contains name ||
    match dialect with
    | .java => config.excludedInJava.contains name
    | .kotlin => config.excludedInKotlin.contains name

/-- Whether the annotation class `name` may be used to state nullability. -/
def isValidNullability (config : Config) (name : String) : Bool :=
  config.validNullability.contains name

/-- Whether the annotation class `name` is hidden. -/
def isHidden (config : Config) (name : String) : Bool :=
  config.hidden.contains name

end Config

end Diglot
