import Scaffold.Module
import Scaffold.Proofs.Reference.Reading
import Scaffold.Proofs.View.Placeholders

/-!
# Closed modules

The files of a module refer to one another. A module is closed when every reference inside it leads
to a file that provides what is referred to (`IsSelfContained`): the imports name files of the same
side and what these export, and the members that are taken of a service or a store are returned by
the function that made it.
-/

namespace Scaffold

open Text Reading

/-! ### The code of a file -/

/-- What stands behind the last occurrence of a line. -/
def behindLast (line : String) (lines : List String) : List String :=
  if line ∈ lines then (lines.reverse.takeWhile (· ≠ line)).reverse else []

/-- The line that opens the script of a component. -/
def scriptOpening : String := "<script setup lang=\"ts\">"

/-- The line that closes it. -/
def scriptClosing : String := "</script>"

/-- The expressions that the options for the entities of a store go through, in a markup. -/
def choices : List Char → List String :=
  readAt [View.choiceOpening] fun cs =>
    String.ofList ((cs.drop View.choiceOpening.length).takeWhile (· != '"'))

/-- The lines of the script in the blocks of a component. -/
def scriptIn (blocks : String) : List String :=
  (((splitOn '\n' blocks).dropWhile (· != scriptOpening)).drop 1).takeWhile (· != scriptClosing)

/-- The code of a component: the lines of the script behind its markup, and the expressions for
options in the markup. -/
def componentCode (content : String) : List String :=
  let markup := textBefore View.templateEnd content.toList
  scriptIn (String.ofList (content.toList.drop markup.length)) ++ choices markup

namespace Artifact

/-- Whether a file is a component. -/
def isComponent (a : Artifact) : Bool := decide (".vue".toList <:+ a.path.toList)

/-- The lines of code in a file. -/
def codeLines (a : Artifact) : List String :=
  if a.isComponent then componentCode a.content else splitOn '\n' a.content

/-- What a file imports. -/
def imports (a : Artifact) : List Import :=
  a.codeLines.filterMap fun line => imported? (tokens line)

/-- The modules that a file imports when they are needed. -/
def lazySources (a : Artifact) : List String :=
  a.codeLines.flatMap fun line => lazyImports (tokens line)

/-- The names that a file exports. -/
def exports (a : Artifact) : List String := a.codeLines.filterMap fun line => export? (tokens line)

/-- The names that calls without arguments are assigned to, each with the function. -/
def made (a : Artifact) : List (String × String) :=
  a.codeLines.flatMap fun line => instances (tokens line)

/-- The members that a file takes, each with the name in front of it. -/
def taken (a : Artifact) : List (String × String) :=
  a.codeLines.flatMap fun line => accesses (tokens line)

/-- The members of the object that the function of a file returns at its end. -/
def returned (a : Artifact) : List String :=
  ((behindLast "  return \x7b" a.codeLines).takeWhile (· ≠ "  \x7d")).filterMap fun line =>
    member? (tokens line)

end Artifact

/-! ### Sources -/

/-- A source that is given relative to the importing file, and not outside the module: what goes up
twice leaves it. -/
def IsInModule (source : String) : Prop :=
  "./".toList <+: source.toList
    ∨ "../".toList <+: source.toList ∧ ¬ "../../".toList <+: source.toList

instance (source : String) : Decidable (IsInModule source) := inferInstanceAs (Decidable (_ ∨ _))

/-- Goes along the names of a path. -/
def follow (directory : List String) : List String → Option (List String)
  | [] => some directory
  | name :: rest =>
    if name = "." then follow directory rest
    else if name = ".." then
      if directory = [] then none else follow directory.dropLast rest
    else follow (directory ++ [name]) rest

/-- The file that a source names: the extension is left out, but for components. -/
def completed (source : String) : String :=
  if ".vue".toList <:+ source.toList then source else source ++ ".ts"

/-- The path of the file that a source names in the file of a path. -/
def target? (path source : String) : Option String :=
  (follow (splitOn '/' path).dropLast (splitOn '/' (completed source))).map ("/".intercalate ·)

/-! ### References -/

/-- A file that a source names in another file of its side. -/
structure Provides (files : List Artifact) (a : Artifact) (source : String) (b : Artifact) :
    Prop where
  mem : b ∈ files
  side : b.side = a.side
  path : target? a.path source = some b.path

/-- An import of a file that is provided for: there is a file that exports what is imported, and
where something is made by an imported function, the file returns the members that are taken of
it. -/
structure Satisfies (a : Artifact) (i : Import) (b : Artifact) : Prop where
  exports : ∀ name ∈ i.names, name ∈ b.exports
  returned : i.typesOnly = false → ∀ p ∈ a.made, p.2 ∈ i.names →
    ∀ q ∈ a.taken, q.1 = p.1 → q.2 ∈ b.returned

/-- All that a file refers to in its module is provided for. -/
structure Artifact.IsProvidedFor (files : List Artifact) (a : Artifact) : Prop where
  imports : ∀ i ∈ a.imports, IsInModule i.source →
    ∃ b, Provides files a i.source b ∧ Satisfies a i b
  lazySources : ∀ source ∈ a.lazySources, IsInModule source → ∃ b, Provides files a source b

/-- Files that refer to nothing in their module but one another. -/
def IsSelfContained (files : List Artifact) : Prop := ∀ a ∈ files, a.IsProvidedFor files

/-- The types that need no declaration. -/
def builtInTypes : List String := ["string", "number", "boolean"]

/-- The types of the fields are declared in the file with the interfaces. -/
def Entity.DeclaresTypes (e : Entity) (files : List Artifact) : Prop :=
  ∀ m ∈ e.mappings, ∀ name ∈ words (tokens m.clientType), name ∈ builtInTypes
    ∨ ∃ a ∈ files, a.path = Client.interfacePath e.names ∧ name ∈ a.exports

end Scaffold
