/-!
# Primitive types

The eight primitive types that both languages have. Kotlin spells each as a class of
package `kotlin`; Java spells it as a keyword, boxes it in a class of `java.lang`, and
Kotlin has a class for its arrays.
-/

namespace Diglot

/-- A primitive type common to both languages. -/
inductive Primitive where
  | boolean
  | byte
  | char
  | short
  | int
  | long
  | float
  | double
deriving DecidableEq

namespace Primitive

/-- The primitives, in the order in which their Kotlin classes are listed. -/
def all : List Primitive :=
  [boolean, byte, char, short, int, long, float, double]

/-- The primitives, in the order in which their arrays are listed. -/
def arrayOrder : List Primitive :=
  [int, boolean, byte, char, short, long, float, double]

/-- Class name in package `kotlin`. -/
def kotlinName : Primitive → String
  | boolean => "Boolean"
  | byte => "Byte"
  | char => "Char"
  | short => "Short"
  | int => "Int"
  | long => "Long"
  | float => "Float"
  | double => "Double"

/-- Java keyword. -/
def javaName : Primitive → String
  | boolean => "boolean"
  | byte => "byte"
  | char => "char"
  | short => "short"
  | int => "int"
  | long => "long"
  | float => "float"
  | double => "double"

/-- Class of `java.lang` that boxes the primitive. -/
def boxName : Primitive → String
  | char => "Character"
  | int => "Integer"
  | other => other.kotlinName

/-- Kotlin class of the arrays of the primitive. -/
def arrayName (primitive : Primitive) : String :=
  primitive.kotlinName ++ "Array"

/-- The primitive with a Kotlin class name. -/
def ofKotlinName? (name : String) : Option Primitive :=
  all.find? (·.kotlinName = name)

/-- The primitive whose arrays have the Kotlin class `name`. -/
def ofArrayName? (name : String) : Option Primitive :=
  all.find? (·.arrayName = name)

/-- The primitive with a Java keyword. -/
def ofJavaName? (name : String) : Option Primitive :=
  all.find? (·.javaName = name)

end Primitive

end Diglot
