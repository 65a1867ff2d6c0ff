import FieldFormula.Catalogue
import FieldFormula.Expr.Check
import FieldFormula.Expr.Collect
import FieldFormula.Expr.Print
import FieldFormula.Expr.Rename
import FieldFormula.Tree.Parser

/-! From the source of a formula to a typed expression and all that is known about it. -/

namespace FieldFormula

structure Compiler where
  registry : Registry := .standard
  limits : Limits := {}

structure Compiled where
  expression : Expr Ty
  type : Ty
  dependencies : List Dependency
  functionsUsed : List String
  needsPeriodicUpdate : Bool
deriving DecidableEq

namespace Compiler

variable {α : Type}

def parse (compiler : Compiler) (source : String) : Except Error Tree :=
  Tree.parse compiler.limits source

def build (compiler : Compiler) (tree : Tree) : Except Error (Expr Unit) :=
  Expr.build compiler.registry compiler.limits tree

def read (compiler : Compiler) (source : String) : Except Error (Expr Unit) := do
  let tree ← compiler.parse source
  compiler.build tree

def check (compiler : Compiler) (resolve : Resolver) (expr : Expr α) : Except Error (Expr Ty) :=
  expr.check compiler.registry resolve compiler.limits

def describe (compiler : Compiler) (expression : Expr Ty) : Compiled where
  expression := expression
  type := expression.note
  dependencies := expression.dependencies
  functionsUsed := expression.functionsUsed
  needsPeriodicUpdate := expression.needsPeriodicUpdate compiler.registry

def compile (compiler : Compiler) (resolve : Resolver) (source : String) :
    Except Error Compiled := do
  let expr ← compiler.read source
  let typed ← compiler.check resolve expr
  return compiler.describe typed

def format (compiler : Compiler) (layout : Layout) (source : String) : Except Error String := do
  let expr ← compiler.read source
  expr.print layout

def rename (compiler : Compiler) (newName : String → String) (link : Option String)
    (source : String) : Except Error String := do
  let expr ← compiler.read source
  (expr.rename newName link).print .compact

def dependencies (compiler : Compiler) (source : String) : Except Error (List Dependency) := do
  let expr ← compiler.read source
  return expr.dependencies

end Compiler

end FieldFormula
