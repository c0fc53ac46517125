/-!
# Sums

An expression is a literal or a sum of two expressions; every sum remembers whether it is written
in parentheses.  The text shows a sum without parentheses as its parts around ` + `, so nested
sums without parentheses look alike however they associate.
-/

namespace SampleForge

/-- A sum of literals with optional parentheses. -/
inductive Expr where
  | literal (value : UInt32)
  | sum (left right : Expr) (parenthesized : Bool)
deriving DecidableEq

namespace Expr

/-- The number of nested sums, zero for a literal. -/
def depth : Expr → Nat
  | literal _ => 0
  | sum left right _ => 1 + max left.depth right.depth

/-- The number of literals. -/
def leafCount : Expr → Nat
  | literal _ => 1
  | sum left right _ => left.leafCount + right.leafCount

/-- The text of an expression. -/
def render : Expr → String
  | literal value => toString value.toNat
  | sum left right true => "(" ++ left.render ++ " + " ++ right.render ++ ")"
  | sum left right false => left.render ++ " + " ++ right.render

end Expr
end SampleForge
