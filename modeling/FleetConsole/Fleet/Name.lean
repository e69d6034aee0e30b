import FleetConsole.Text.Blank

/-!
# Fully qualified names and scopes

An object is named by its namespace and its name, written `namespace/name`; a dash stands for no
namespace. A scope says which namespaces a request covers.
-/

namespace FleetConsole

/-- The namespace of objects that have none, in names that are shown. -/
def noNamespace : String := "-"

/-- The parts of a text before and after the first occurrence of a character. -/
def splitOnce? (sep : Char) (s : String) : Option (String × String) :=
  let cs := s.toList
  let head := cs.takeWhile (· ≠ sep)
  match cs.dropWhile (· ≠ sep) with
  | _ :: tail => some (String.ofList head, String.ofList tail)
  | [] => none

/-- The name of an object and, if it is given, its namespace. -/
structure QualifiedName where
  ns : Option String
  name : String
deriving DecidableEq, Repr

namespace QualifiedName

/-- A name as users write it. Without a slash, or with nothing or a dash before it, no namespace is
given. -/
def ofText (s : String) : QualifiedName :=
  match splitOnce? '/' s with
  | some (ns, name) => if ns = "" ∨ ns = noNamespace then ⟨none, name⟩ else ⟨some ns, name⟩
  | none => ⟨none, s⟩

/-- A name as it is shown, always with a slash. -/
def text (q : QualifiedName) : String :=
  match q.ns with
  | some ns => if ns = "" then noNamespace ++ "/" ++ q.name else ns ++ "/" ++ q.name
  | none => noNamespace ++ "/" ++ q.name

end QualifiedName

/-- Which namespaces a request covers. -/
inductive Scope where
  | all
  | only (ns : String)
deriving DecidableEq, Repr

namespace Scope

/-- The scope that a user names: nothing, `all` or a dash stand for all namespaces. -/
def ofText (s : String) : Scope :=
  let ns := Text.trimmed s
  if ns = "" ∨ ns = "all" ∨ ns = noNamespace then all else only ns

/-- The single namespace of a scope. -/
def ns? : Scope → Option String
  | all => none
  | only ns => some ns

/-- Does a scope cover a namespace? -/
def covers : Scope → String → Bool
  | all, _ => true
  | only ns, other => ns = other

end Scope

end FleetConsole
