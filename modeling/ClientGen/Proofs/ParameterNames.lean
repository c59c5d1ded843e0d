/-
# Names of the parameters of a location

The parameters of an operation stand in one list, whatever part of the request they belong
to.  A location has the names that the parameters there give, the empty ones left out, each
once and in the order in which they first appear.  These conditions leave one list.

Parameters of other locations do not count, under whatever names and wherever they stand:
two lists agree on the parameters of a location exactly if one becomes the other by putting
in parameters of other locations and taking them out.
-/
import ClientGen.Proofs.Module
import Mathlib.Data.List.Sort
import Mathlib.Logic.Relation

namespace ClientGen

namespace Ordered

variable {α κ : Type} [DecidableEq κ]

/-- Distinct elements stand in the order in which the elements of a list first give them. -/
theorem pairwise_findIdx_distinct (given : α → Option κ) (l : List α) :
    (distinct (l.filterMap given)).Pairwise fun a b =>
      l.findIdx (given · = some a) < l.findIdx (given · = some b) := by
  induction l with
  | nil => exact .nil
  | cons first rest ih =>
      have later : ∀ a, given first ≠ some a →
          (first :: rest).findIdx (given · = some a) =
            rest.findIdx (given · = some a) + 1 := by
        intro a other
        simp [List.findIdx_cons, other]
      cases gives : given first with
      | none =>
          rw [List.filterMap_cons_none gives]
          refine ih.imp fun {a b} before => ?_
          rw [later a (by simp [gives]), later b (by simp [gives])]
          exact Nat.succ_lt_succ before
      | some k =>
          have behind : ∀ {a}, a ∈ (distinct (rest.filterMap given)).filter (· ≠ k) →
              (first :: rest).findIdx (given · = some a) =
                rest.findIdx (given · = some a) + 1 := by
            intro a among
            have other : a ≠ k := by simpa using (List.mem_filter.mp among).2
            exact later a (by simp [gives, other.symm])
          rw [List.filterMap_cons_some gives, distinct, List.pairwise_cons]
          constructor
          · intro a among
            rw [behind among, List.findIdx_cons]
            simp [gives]
          · refine (ih.filter _).imp_of_mem fun {a b} amongA amongB before => ?_
            rw [behind amongA, behind amongB]
            exact Nat.succ_lt_succ before

end Ordered

/-- The name that a parameter gives for a location: none if it belongs elsewhere, has no
name or an empty one. -/
def OperationParameter.nameAt? (location : Text) (p : OperationParameter) : Option Text :=
  if p.location = some location then p.name.filter (! ·.isEmpty) else none

/-- Puts a parameter of another location into a list of parameters, anywhere. -/
inductive PutElsewhere (location : Text) :
    List OperationParameter → List OperationParameter → Prop
  | put (front back : List OperationParameter) {p : OperationParameter} :
      p.location ≠ some location → PutElsewhere location (front ++ back) (front ++ p :: back)

namespace PutElsewhere

variable {location : Text} {parameters parameters' : List OperationParameter}

/-- Putting in a parameter of another location leaves those of the location. -/
theorem filter_eq (h : PutElsewhere location parameters parameters') :
    parameters.filter (·.location = some location) =
      parameters'.filter (·.location = some location) := by
  cases h with
  | put front back elsewhere => simp [elsewhere]

/-- One parameter more in front of both lists. -/
theorem cons (p : OperationParameter) (h : PutElsewhere location parameters parameters') :
    PutElsewhere location (p :: parameters) (p :: parameters') := by
  cases h with
  | put front back elsewhere => exact .put (p :: front) back elsewhere

/-- A list is made from the parameters of a location by putting in the others. -/
theorem reflTransGen_filter (location : Text) (parameters : List OperationParameter) :
    Relation.ReflTransGen (PutElsewhere location)
      (parameters.filter (·.location = some location)) parameters := by
  induction parameters with
  | nil => exact .refl
  | cons p rest ih =>
      by_cases here : p.location = some location
      · rw [List.filter_cons_of_pos (by simpa using here)]
        exact Relation.ReflTransGen.lift (p :: ·) (fun _ _ step => cons p step) _ _ ih
      · rw [List.filter_cons_of_neg (by simpa using here)]
        exact ih.tail (.put [] rest here)

/-- Two lists agree on the parameters of a location exactly if they differ in parameters of
other locations only. -/
theorem eqvGen_iff : Relation.EqvGen (PutElsewhere location) parameters parameters' ↔
    parameters.filter (·.location = some location) =
      parameters'.filter (·.location = some location) := by
  constructor
  · intro edits
    induction edits with
    | rel _ _ step => exact step.filter_eq
    | refl _ => rfl
    | symm _ _ _ ih => exact ih.symm
    | trans _ _ _ _ _ ih ih' => exact ih.trans ih'
  · intro same
    have made :=
      Relation.EqvGen.reflTransGen_le_eqvGen _ _ _ (reflTransGen_filter location parameters)
    have made' :=
      Relation.EqvGen.reflTransGen_le_eqvGen _ _ _ (reflTransGen_filter location parameters')
    rw [← same] at made'
    exact .trans _ _ _ (.symm _ _ made) made'

end PutElsewhere

namespace Operation

variable {op : Operation} {location : Text}

/-- The place of the first parameter that gives a name for a location. -/
def firstPlace (op : Operation) (location name : Text) : Nat :=
  op.parameters.findIdx (·.nameAt? location = some name)

/-- What the names of a location are to be: none is empty or repeated, they are those that
the parameters of the location declare, and they stand in the order of first appearance. -/
structure AreNamesOf (op : Operation) (location : Text) (names : List Text) : Prop where
  nonempty : [] ∉ names
  nodup : names.Nodup
  mem_iff : ∀ name, name ∈ names ↔ op.Declares location name
  inOrder : names.Pairwise fun a b => op.firstPlace location a < op.firstPlace location b

/-- The names of a location are the distinct names that the parameters give for it. -/
theorem paramNames_eq_distinct (op : Operation) (location : Text) :
    op.paramNames location = Ordered.distinct (op.parameters.filterMap (·.nameAt? location)) := by
  rw [paramNames, OperationParameter.uniqueNames, List.filter_filterMap, List.filterMap_filter]
  simp only [decide_eq_true_eq]
  rfl

/-- The names of a location are as they are to be. -/
theorem areNamesOf_paramNames (op : Operation) (location : Text) :
    op.AreNamesOf location (op.paramNames location) where
  nonempty := by
    rw [mem_paramNames]
    rintro ⟨p, -, -, -, nonempty⟩
    exact nonempty rfl
  nodup := Ordered.nodup_distinct _
  mem_iff := fun _ => mem_paramNames
  inOrder := by
    rw [paramNames_eq_distinct]
    exact Ordered.pairwise_findIdx_distinct _ _

/-- No two lists of names are as they are to be. -/
theorem AreNamesOf.unique {names names' : List Text} (h : op.AreNamesOf location names)
    (h' : op.AreNamesOf location names') : names = names' := by
  apply List.Perm.eq_of_pairwise _ h.inOrder h'.inOrder
  · exact (List.perm_ext_iff_of_nodup h.nodup h'.nodup).mpr fun name =>
      (h.mem_iff name).trans (h'.mem_iff name).symm
  · intro a b _ _ before after
    exact absurd before (Nat.lt_asymm after)

/-- The names of a location are the names, not empty, that its parameters give, each once
and in the order of first appearance, and nothing else is.  They depend on the parameters of
the location alone: an operation with the same ones has the same names, in whatever way
parameters of other locations, also of these names, are put in between or taken out. -/
theorem param_names_per_location (op : Operation) (location : Text) :
    (∀ names, op.AreNamesOf location names ↔ names = op.paramNames location) ∧
      (∀ other : Operation,
        other.parameters.filter (·.location = some location) =
            op.parameters.filter (·.location = some location) →
          other.paramNames location = op.paramNames location) ∧
      ∀ other : Operation,
        Relation.EqvGen (PutElsewhere location) op.parameters other.parameters →
          other.paramNames location = op.paramNames location := by
  have areNames := op.areNamesOf_paramNames location
  have alone : ∀ other : Operation,
      other.parameters.filter (·.location = some location) =
          op.parameters.filter (·.location = some location) →
        other.paramNames location = op.paramNames location :=
    fun other same => congrArg OperationParameter.uniqueNames same
  refine ⟨fun names => ⟨fun h => h.unique areNames, ?_⟩, alone, ?_⟩
  · rintro rfl
    exact areNames
  · exact fun other edits => alone other (PutElsewhere.eqvGen_iff.mp edits).symm

/-- An operation with the given parameters. -/
def withParameters (parameters : List OperationParameter) : Operation where
  operationId := none
  tags := []
  summary := none
  description := none
  parameters := parameters
  requestBody := none

/-- Parameters of a query: one name twice, an empty one, and one parameter without a name. -/
def queryOperation : Operation :=
  withParameters [⟨some "page", some "query"⟩, ⟨none, some "query"⟩, ⟨some "", some "query"⟩,
    ⟨some "limit", some "query"⟩, ⟨some "page", some "query"⟩]

/-- The same parameters, with others of the same names in between, in front and behind. -/
def crowdedOperation : Operation :=
  withParameters [⟨some "limit", some "header"⟩, ⟨some "page", some "query"⟩,
    ⟨none, some "query"⟩, ⟨some "page", some "path"⟩, ⟨some "", some "query"⟩,
    ⟨some "limit", some "query"⟩, ⟨some "limit", none⟩, ⟨some "page", some "query"⟩,
    ⟨some "offset", some "cookie"⟩]

/-- Both operations have two names of the query, in the order of the first one's list. -/
theorem param_names_per_location_crowded :
    queryOperation.AreNamesOf "query" ["page", "limit"] ∧
      crowdedOperation.parameters.filter (·.location = some "query".toList) =
        queryOperation.parameters.filter (·.location = some "query".toList) ∧
      Relation.EqvGen (PutElsewhere "query") queryOperation.parameters
        crowdedOperation.parameters ∧
      crowdedOperation.paramNames "query" = ["page".toList, "limit".toList] := by
  obtain ⟨names, -, edited⟩ := param_names_per_location queryOperation "query"
  have same : crowdedOperation.parameters.filter (·.location = some "query".toList) =
      queryOperation.parameters.filter (·.location = some "query".toList) := rfl
  have edits := PutElsewhere.eqvGen_iff.mpr same.symm
  have listed : ["page".toList, "limit".toList] = queryOperation.paramNames "query" := rfl
  exact ⟨(names _).mpr listed, same, edits, (edited _ edits).trans listed.symm⟩

end Operation

end ClientGen
