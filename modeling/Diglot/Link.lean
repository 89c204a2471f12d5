import Diglot.Dialect
import Diglot.Identity
import Diglot.Text

/-!
# Links

A link is a displayed name with the page that it leads to. The renderer takes links from
any function on identities; `Link.reference` is the usual one, with one page for each
class and each package below a root path.
-/

namespace Diglot

/-- A displayed name and its target, which is empty if there is no page. -/
structure Link where
  /-- displayed text -/
  name : String
  /-- address of the page -/
  url : String
deriving DecidableEq

namespace Link

/-- A name that leads nowhere. -/
def unlinked (name : String) : Link := ⟨name, ""⟩

/-- Beginnings of the qualified names of classes that have no page. -/
def undocumented : List String := ["kotlin.jvm.functions", "kotlin.coroutines.SuspendFunction"]

/-- Address of a page of a package, such as that of one of its classes. -/
def pageUrl (root : String) (dialect : Dialect) (package page : String) : String :=
  Text.trimEnd root '/' ++ "/" ++ dialect.label ++ "/" ++ Text.replaceChar package '.' '/' ++
    "/" ++ page ++ ".html"

/-- The link of an identity to the reference pages below `root`. A package has a summary
page, a class its own page, and a member a place on the page of its class. -/
def reference (root : String) (dialect : Dialect) (identity : Identity) : Link :=
  let package := if identity.package = "" then "[JVM root]" else identity.package
  let qualified := package ++ "." ++ identity.className
  if undocumented.any (Text.startsWith qualified) then
    unlinked (identity.classNames.getD package)
  else
    let url := pageUrl root dialect package (identity.classNames.getD "package-summary")
    match identity.callable with
    | some member => ⟨member, url ++ "#" ++ member⟩
    | none => ⟨identity.classNames.getD package, url⟩

/-- The link of an identity to a place on a single page below `page`. It shows the member,
or else the innermost class. -/
def onePage (page : String) (identity : Identity) : Link :=
  let simple :=
    match Text.splitAtLast? identity.className '.' with
    | some (_, last) => last
    | none => identity.className
  ⟨identity.callable.getD simple, page ++ "#" ++ identity.text⟩

end Link

end Diglot
