/-
# The emission plan

Which module and which class each tag gets.  The names follow from the tag; where
one of them is taken, both get the least number from two on with which neither
is.  So the modules of a plan are distinct and its classes are distinct, and a
module and a class of one entry carry the same number.

A tag keeps its first entry, with the count given then.
-/
import ClientGen.Naming.Names

namespace ClientGen

/-- The entry of a tag. -/
structure PlanEntry where
  tag : Text
  moduleName : Text
  className : Text
  operationCount : Int
  deriving DecidableEq, Repr

/-- The file that the entry's class goes to. -/
def PlanEntry.fileName (e : PlanEntry) : Text := e.moduleName ++ ".py"

/-- A plan: its entries in the order of registration, and the names of modules
and of classes that are taken. -/
structure Plan where
  entries : List PlanEntry := []
  modules : List Text := []
  classes : List Text := []
  deriving DecidableEq, Repr

namespace Plan

/-- The mark of the `n`-th candidate: none for the first, else its number. -/
def mark (n : Nat) : Text := if n ≤ 1 then [] else Text.ofNat n

/-- The `n`-th candidate for the module of a stem. -/
def moduleCandidate (stem : Text) (n : Nat) : Text :=
  (if n ≤ 1 then stem else stem ++ "_" ++ mark n) ++ Naming.moduleSuffix

/-- The `n`-th candidate for the class of a stem. -/
def classCandidate (stem : Text) (n : Nat) : Text := stem ++ mark n ++ Naming.classSuffix

/-- The module names of the entries. -/
def moduleNames (p : Plan) : List Text := p.entries.map (·.moduleName)

/-- The class names of the entries. -/
def classNames (p : Plan) : List Text := p.entries.map (·.className)

/-- Whether the module or the class of the `n`-th candidates is taken. -/
def isTaken (p : Plan) (moduleStem classStem : Text) (n : Nat) : Bool :=
  p.modules.contains (moduleCandidate moduleStem n) ||
    p.classes.contains (classCandidate classStem n)

/-- The first number from `n` on whose candidates are free, sought among
`tries` numbers. -/
def firstFree (p : Plan) (moduleStem classStem : Text) : Nat → Nat → Nat
  | 0, n => n
  | tries + 1, n =>
    if p.isTaken moduleStem classStem n then firstFree p moduleStem classStem tries (n + 1) else n

/-- The entry of a tag. -/
def find? (tag : Text) (p : Plan) : Option PlanEntry := p.entries.find? (·.tag = tag)

/-- Whether a tag has an entry. -/
def has (tag : Text) (p : Plan) : Bool := (p.find? tag).isSome

/-- The number of the names that a new tag gets.  Each name that is taken rules
out at most one number, so one more than there are such names suffices. -/
def freeNumber (tag : Text) (p : Plan) : Nat :=
  firstFree p (Naming.moduleStem tag) (Naming.classStem tag)
    (p.modules.length + p.classes.length + 1) 1

/-- The entry that a new tag gets. -/
def newEntry (tag : Text) (operationCount : Int) (p : Plan) : PlanEntry :=
  let n := p.freeNumber tag
  ⟨tag, moduleCandidate (Naming.moduleStem tag) n, classCandidate (Naming.classStem tag) n,
    operationCount⟩

/-- The plan with an entry at its end. -/
def add (entry : PlanEntry) (p : Plan) : Plan :=
  ⟨p.entries ++ [entry], p.modules ++ [entry.moduleName], p.classes ++ [entry.className]⟩

/-- The entry of a tag, made where there is none, and the plan with it. -/
def register (tag : Text) (operationCount : Int) (p : Plan) : PlanEntry × Plan :=
  match p.find? tag with
  | some entry => (entry, p)
  | none =>
    let entry := p.newEntry tag operationCount
    (entry, p.add entry)

/-- The plan after tags are registered one after the other, each with a count. -/
def registerAll (calls : List (Text × Int)) (p : Plan) : Plan :=
  calls.foldl (fun p (tag, operationCount) => (p.register tag operationCount).2) p

end Plan

end ClientGen
