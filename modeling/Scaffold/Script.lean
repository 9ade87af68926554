/-!
# Parts of scripts

The pieces that several generated scripts have in common: imports of named things, and entries that
stand one on a line with a comma behind each but the last.
-/

namespace Scaffold

/-- An import of named things from a module. -/
structure Import where
  names : List String
  source : String
  typesOnly : Bool := false
deriving Repr, DecidableEq, Inhabited

/-- The line of an import, without what ends a statement. -/
def Import.line (i : Import) : String :=
  "import " ++ (if i.typesOnly then "type " else "") ++ "\x7b " ++ ", ".intercalate i.names
    ++ " \x7d from '" ++ i.source ++ "'"

/-- Lines with a comma behind each but the last. -/
def commaSeparated : List String → List String
  | [] => []
  | [line] => [line]
  | line :: next :: rest => (line ++ ",") :: commaSeparated (next :: rest)

/-- Blocks of lines with a comma behind the last line of each but the last block. A block is given
by its lines but the last one, and the last one. -/
def commaSeparatedBlocks : List (List String × String) → List String
  | [] => []
  | [(body, last)] => body ++ [last]
  | (body, last) :: next :: rest => body ++ (last ++ ",") :: commaSeparatedBlocks (next :: rest)

end Scaffold
