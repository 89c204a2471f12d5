/-!
# Dialects

A signature is displayed in one of two languages, Java or Kotlin. Everything that
differs between the two renderings branches on a `Dialect`.
-/

namespace Diglot

/-- The language in which signatures are displayed. -/
inductive Dialect where
  /-- Java signatures, with annotations for nullability -/
  | java
  /-- Kotlin signatures, with `?` and `!` for nullability -/
  | kotlin
deriving DecidableEq

namespace Dialect

/-- Lower-case name of the dialect, as in link paths and configuration files. -/
def label : Dialect → String
  | java => "java"
  | kotlin => "kotlin"

/-- Both dialects. -/
def all : List Dialect := [java, kotlin]

end Dialect

end Diglot
