import SampleForge.Expr.Growth
import SampleForge.Text.Numeral

/-!
# Sample programs

A sample is a numbered expression.  Its program returns the expression from `main`, and its file is
named after the number with at least four digits.  `grownSamples?` grows the samples of one seed, one
after another on a single stream of draws.
-/

namespace SampleForge

open SampleForge.Random

/-- The program that returns the given expression text. -/
def programText (expression : String) : String :=
  "fn main() -> Int \x7b\n  return " ++ expression ++ ";\n\x7d\n"

/-- A numbered expression. -/
structure Sample where
  index : Nat
  expr : Expr
deriving DecidableEq

namespace Sample

/-- The extension of sample files, without its dot. -/
def extension : String := "curlee"

/-- The file name of the sample of the given number. -/
def numberedName (index : Nat) : String :=
  "sample_" ++ String.ofList (Text.paddedDigits 4 index) ++ "." ++ extension

def fileName (sample : Sample) : String := numberedName sample.index

def program (sample : Sample) : String := programText sample.expr.render

end Sample

/-- Grows `remaining` samples, numbered from `index`; `done` holds the earlier ones, last first. -/
def growFrom? {σ : Type} (source : Source σ) (growth : Growth) :
    (remaining index : Nat) → (done : List Sample) → σ → Option (List Sample × σ)
  | 0, _, done, s => some (done.reverse, s)
  | remaining + 1, index, done, s =>
    match Expr.grow? source growth growth.maxDepth.toNat s with
    | none => none
    | some (expr, s) => growFrom? source growth remaining (index + 1) (⟨index, expr⟩ :: done) s

/-- The samples `1, …, count` of a seed; `none` if a literal was asked from an empty range. -/
def grownSamples? (count : UInt32) (seed : Int64) (growth : Growth) : Option (List Sample) :=
  (growFrom? chachaSource growth count.toNat 1 [] (seeded seed.toUInt64)).map Prod.fst

end SampleForge
