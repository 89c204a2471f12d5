/-!
# Identities of documented elements

An `Identity` names a package, a class in a package, or a member of either. It is what
links are made for and what the tables of the two standard libraries relate.
-/

namespace Diglot

/-- A package-qualified name with an optional class path and an optional member. -/
structure Identity where
  /-- dotted package name, possibly empty -/
  package : String
  /-- dotted class path within the package, such as `Map.Entry` -/
  classNames : Option String := none
  /-- name of a member function or property -/
  callable : Option String := none
deriving DecidableEq

namespace Identity

/-- The class `className` of `package`. -/
def ofClass (package className : String) : Identity :=
  { package, classNames := some className }

/-- The class path, empty for a package. -/
def className (identity : Identity) : String :=
  identity.classNames.getD ""

/-- The qualified class name, or the package name of a package identity. A class in the
package with the empty name is not qualified. -/
def fullName (identity : Identity) : String :=
  match identity.classNames with
  | none => identity.package
  | some name => if identity.package = "" then name else identity.package ++ "." ++ name

/-- The three parts divided by slashes, absent ones left empty. -/
def text (identity : Identity) : String :=
  identity.package ++ "/" ++ identity.className ++ "/" ++ identity.callable.getD ""

/-- Whether this is the class `className` of `package`, or one of its members. A package
identity counts as a class with the empty name. -/
def isClass (identity : Identity) (package className : String) : Bool :=
  identity.package = package && identity.className = className

end Identity

end Diglot
