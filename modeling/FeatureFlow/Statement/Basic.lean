import FeatureFlow.Expression.Basic

/-! Applications: feature sets of statements that command actions, choose and repeat. -/
namespace FeatureFlow

inductive Preposition where
  | from_
  | for_
  | with_
  | to_
  | into
  | against
  | via
  | on
  | at_
  | by_
  deriving Repr, DecidableEq

def Preposition.text : Preposition → String
  | from_ => "from"
  | for_ => "for"
  | with_ => "with"
  | to_ => "to"
  | into => "into"
  | against => "against"
  | via => "via"
  | on => "on"
  | at_ => "at"
  | by_ => "by"

def Preposition.ofText? : String → Option Preposition
  | "from" => some from_
  | "for" => some for_
  | "with" => some with_
  | "to" => some to_
  | "into" => some into
  | "against" => some against
  | "via" => some via
  | "on" => some on
  | "at" => some at_
  | "by" => some by_
  | _ => none

/-- The name that a command binds, and how the value is reduced before. -/
structure Target where
  name : String
  qualifier : Option String
  specifier : Specifier

def Target.render (t : Target) : String :=
  match t.qualifier with
  | some q => s!"<{t.name}: {q}>"
  | none => s!"<{t.name}>"

structure Object where
  preposition : Preposition
  source : Expression
  filter : Option Expression

/-- The name that an object gives without being evaluated. -/
def Object.name? (o : Object) : Option String :=
  match o.source with
  | .reference name _ _ => some name
  | .literal (.string s) => some s
  | _ => none

/-- An action, what it is to produce and what it is to work on, unless its guard fails. -/
structure Command where
  action : String
  result : Target
  object : Object
  guard : Option Expression

inductive Pattern where
  | literal (v : Value)
  /-- Numbers between two bounds, both included. -/
  | range (low high : Float)
  | regex (text : String)

structure Case (σ : Type) where
  pattern : Pattern
  guard : Option Expression
  body : List σ

inductive Statement where
  | act (command : Command)
  | choose (subject : Expression) (cases : List (Case Statement))
      (otherwise : Option (List Statement))
  | forEach (item : String) (index : Option String) (collection : Expression)
      (filter : Option Expression) (body : List Statement)

structure FeatureSet where
  name : String
  activity : String
  statements : List Statement

structure Application where
  name : String
  featureSets : List FeatureSet

end FeatureFlow
