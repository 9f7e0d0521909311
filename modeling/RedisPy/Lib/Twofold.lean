import Mathlib.Data.Fintype.Option
import Mathlib.Data.Fintype.Prod
import Mathlib.Data.List.Basic
import Mathlib.Logic.Function.DependsOn

/-!
# Formulas in two readings

A formula over Boolean variables that is read in two ways has two truth values at every assignment. While no
variable occurs twice, the parts of a formula take their pairs of values independently, so the pairs that occur
can be followed from the parts to the whole: a part that is read the same way reaches both equal pairs, and a
part that is not reaches every pair but at most one.
-/

namespace Twofold

/-! ## Junctions -/

/-- How the parts of a formula are joined. -/
inductive Junction where
  | conj
  | disj
deriving DecidableEq

namespace Junction

/-- Two truth values, joined. -/
def op : Junction → Bool → Bool → Bool
  | conj => and
  | disj => or

/-- Truth values, joined. -/
def fold : Junction → List Bool → Bool
  | conj, values => values.all id
  | disj, values => values.any id

/-- The first value is joined with the others. -/
theorem fold_cons (junction : Junction) (value : Bool) (values : List Bool) :
    junction.fold (value :: values) = junction.op value (junction.fold values) := by
  cases junction with
  | conj => rfl
  | disj => rfl

/-- A value alone. -/
theorem fold_singleton (junction : Junction) (value : Bool) : junction.fold [value] = value := by
  cases junction with
  | conj => exact Bool.and_true value
  | disj => exact Bool.or_false value

/-- Values that are joined in two lots. -/
theorem fold_append (junction : Junction) (values others : List Bool) :
    junction.fold (values ++ others) = junction.op (junction.fold values) (junction.fold others) := by
  cases junction with
  | conj => exact List.all_append
  | disj => exact List.any_append

/-- Values that are joined lot by lot. -/
theorem fold_flatMap {α : Type} (junction : Junction) (items : List α) (lot : α → List Bool) :
    junction.fold (items.flatMap lot) = junction.fold (items.map fun item => junction.fold (lot item)) := by
  induction items with
  | nil => rfl
  | cons item items later => rw [List.flatMap_cons, fold_append, later, List.map_cons, fold_cons]

end Junction

/-! ## Pairs that are reached -/

/-- Which pairs are reached: the equal ones, or all but one. -/
abbrev Shape := Option (Bool × Bool)

/-- Whether a pair is among them. -/
def Shape.has (shape : Shape) (pair : Bool × Bool) : Bool :=
  shape.elim (pair.1 == pair.2) fun missing => pair != missing

variable {ι : Type}

/-- A function of the assignment takes every pair of a shape. -/
def Reaches (shape : Shape) (pair : (ι → Bool) → Bool × Bool) : Prop :=
  ∀ p, shape.has p = true → ∃ x, pair x = p

/-- The equal pairs are reached, and without `P` all pairs but at most one. -/
def Tells (P : Prop) (pair : (ι → Bool) → Bool × Bool) : Prop :=
  ∃ shape, Reaches shape pair ∧ (shape = none → P)

/-- Both readings have the same truth value at every assignment. -/
def Coincide (pair : (ι → Bool) → Bool × Bool) : Prop := ∀ x, (pair x).1 = (pair x).2

/-- Two readings that coincide do so because of `P`. -/
theorem Tells.of_coincide {P : Prop} {pair : (ι → Bool) → Bool × Bool} (tells : Tells P pair)
    (coincide : Coincide pair) : P := by
  obtain ⟨shape, reaches, same⟩ := tells
  cases shape with
  | none => exact same rfl
  | some missing =>
    have unequal : ∀ missing : Bool × Bool, ∃ p : Bool × Bool, p.1 ≠ p.2 ∧ p ≠ missing := by decide
    obtain ⟨p, differ, other⟩ := unequal missing
    obtain ⟨x, reached⟩ := reaches p (bne_iff_ne.mpr other)
    exact absurd (reached ▸ coincide x) differ

/-- Weaker knowledge of a formula. -/
theorem Tells.imp {P Q : Prop} {pair : (ι → Bool) → Bool × Bool} (weaker : P → Q) (tells : Tells P pair) :
    Tells Q pair := by
  obtain ⟨shape, reaches, same⟩ := tells
  exact ⟨shape, reaches, fun equal => weaker (same equal)⟩

/-- A variable is read the same way. -/
theorem tells_variable (i : ι) : Tells True fun x : ι → Bool => (x i, x i) := by
  refine ⟨none, fun p equal => ⟨fun _ => p.1, ?_⟩, fun _ => trivial⟩
  exact Prod.ext rfl (beq_iff_eq.mp equal)

/-- Both readings negated. -/
theorem Tells.negate {P : Prop} {pair : (ι → Bool) → Bool × Bool} (tells : Tells P pair) :
    Tells P fun x => (!(pair x).1, !(pair x).2) := by
  obtain ⟨shape, reaches, same⟩ := tells
  have before : ∀ (shape : Shape) (p : Bool × Bool),
      Shape.has (shape.map fun p => (!p.1, !p.2)) p = true → shape.has (!p.1, !p.2) = true := by decide
  refine ⟨shape.map fun p => (!p.1, !p.2), fun p has => ?_, fun none => same (Option.map_eq_none_iff.mp none)⟩
  obtain ⟨x, reached⟩ := reaches _ (before shape p has)
  refine ⟨x, ?_⟩
  change (!(pair x).1, !(pair x).2) = p
  rw [reached, Bool.not_not, Bool.not_not]

/-! ## Formulas -/

/-- A formula: the variables that it may depend on, and its pair of truth values. -/
structure Formula (ι : Type) where
  support : List ι
  pair : (ι → Bool) → Bool × Bool
  supported : DependsOn pair {i | i ∈ support}

/-- Every pair of a list. -/
def pairs : List (Bool × Bool) := [(false, false), (false, true), (true, false), (true, true)]

/-- Pairs of two shapes are combined to every pair of a third. -/
def combines (op : Bool × Bool → Bool × Bool → Bool × Bool) (s t u : Shape) : Bool :=
  pairs.all fun p => !u.has p || pairs.any fun q => pairs.any fun r => s.has q && t.has r && (op q r == p)

namespace Formula

/-- Two formulas, joined. -/
def join (op : Bool × Bool → Bool × Bool → Bool × Bool) (f g : Formula ι) : Formula ι where
  support := f.support ++ g.support
  pair := fun x => op (f.pair x) (g.pair x)
  supported := by
    intro x y same
    have first := f.supported fun i member => same i (List.mem_append_left _ member)
    have second := g.supported fun i member => same i (List.mem_append_right _ member)
    exact congrArg₂ op first second

/-- The values of two formulas. -/
theorem join_pair (op : Bool × Bool → Bool × Bool → Bool × Bool) (f g : Formula ι) (x : ι → Bool) :
    (join op f g).pair x = op (f.pair x) (g.pair x) := rfl

/-- Formulas without a common variable take their pairs independently. -/
theorem exists_both {f g : Formula ι} (apart : ∀ i ∈ f.support, i ∉ g.support) (x y : ι → Bool) :
    ∃ z, f.pair z = f.pair x ∧ g.pair z = g.pair y := by
  classical
  refine ⟨fun i => if i ∈ f.support then x i else y i, f.supported ?_, g.supported ?_⟩
  · intro i member
    exact if_pos member
  · intro i member
    exact if_neg fun other => apart i other member

/-- What two formulas without a common variable reach together. -/
theorem reaches_join {op : Bool × Bool → Bool × Bool → Bool × Bool} {s t u : Shape} {f g : Formula ι}
    (apart : ∀ i ∈ f.support, i ∉ g.support) (first : Reaches s f.pair) (second : Reaches t g.pair)
    (combined : combines op s t u = true) : Reaches u (join op f g).pair := by
  intro p has
  have all : ∀ p, p ∈ pairs := by decide
  have parts := List.all_eq_true.mp combined p (all p)
  rw [has, Bool.not_true, Bool.false_or, List.any_eq_true] at parts
  obtain ⟨q, _, parts⟩ := parts
  obtain ⟨r, _, parts⟩ := List.any_eq_true.mp parts
  rw [Bool.and_eq_true, Bool.and_eq_true, beq_iff_eq] at parts
  obtain ⟨⟨ofFirst, ofSecond⟩, result⟩ := parts
  obtain ⟨x, atFirst⟩ := first q ofFirst
  obtain ⟨y, atSecond⟩ := second r ofSecond
  obtain ⟨z, sameFirst, sameSecond⟩ := exists_both apart x y
  exact ⟨z, by rw [join_pair, sameFirst, sameSecond, atFirst, atSecond, result]⟩

end Formula

/-- Each reading is joined in its own way. -/
def both (r d : Junction) (q p : Bool × Bool) : Bool × Bool := (r.op q.1 p.1, d.op q.2 p.2)

/-- One reading negates only the first part, the other denies both. -/
def refuse (r : Junction) (q p : Bool × Bool) : Bool × Bool := (r.op (!q.1) p.1, !Junction.disj.op q.2 p.2)

/-- Joining keeps the shapes; it keeps the equal pairs only if both readings join in the same way. -/
theorem combines_both (r d : Junction) (s t : Shape) :
    ∃ u, combines (both r d) s t u = true ∧ (u = none → s = none ∧ t = none ∧ r = d) := by
  revert s t
  cases r <;> cases d <;> decide

/-- Two parts of which only the first is negated are never read the same way. -/
theorem combines_refuse (r : Junction) (s t : Shape) : ∃ missing, combines (refuse r) s t (some missing) = true := by
  revert s t
  cases r <;> decide

namespace Formula

/-- Formulas, each reading joined in its own way. -/
def joined (r d : Junction) (f : Formula ι) : List (Formula ι) → Formula ι
  | [] => f
  | g :: gs => join (both r d) f (joined r d g gs)

variable (r d : Junction)

/-- The variables are those of the parts. -/
theorem joined_support (f : Formula ι) (gs : List (Formula ι)) :
    (joined r d f gs).support = (f :: gs).flatMap support := by
  induction gs generalizing f with
  | nil => rw [joined, List.flatMap_singleton]
  | cons g gs later => exact congrArg (f.support ++ ·) (later g)

/-- The values are those of the parts, joined. -/
theorem joined_pair (f : Formula ι) (gs : List (Formula ι)) (x : ι → Bool) :
    (joined r d f gs).pair x =
      (r.fold ((f :: gs).map fun g => (g.pair x).1), d.fold ((f :: gs).map fun g => (g.pair x).2)) := by
  induction gs generalizing f with
  | nil => rw [joined, List.map_singleton, List.map_singleton, Junction.fold_singleton, Junction.fold_singleton]
  | cons g gs later =>
    rw [joined, join_pair, later, both, ← Junction.fold_cons, ← Junction.fold_cons]
    rfl

/-- The first formula has no variable of the others. -/
theorem apart_of_nodup {f g : Formula ι} {gs : List (Formula ι)}
    (once : ((f :: g :: gs).flatMap support).Nodup) :
    (∀ i ∈ f.support, i ∉ (joined r d g gs).support) ∧ ((g :: gs).flatMap support).Nodup := by
  rw [List.flatMap_cons, List.nodup_append'] at once
  refine ⟨fun i member other => once.2.2 member ?_, once.2.1⟩
  rwa [joined_support] at other

/-- Formulas that are joined are read the same way only if each of them is. -/
theorem tells_joined {P : Formula ι → Prop} {f : Formula ι} {gs : List (Formula ι)}
    (once : ((f :: gs).flatMap support).Nodup) (each : ∀ g ∈ f :: gs, Tells (P g) g.pair) :
    Tells ((∀ g ∈ f :: gs, P g) ∧ (r = d ∨ gs = [])) (joined r d f gs).pair := by
  induction gs generalizing f with
  | nil =>
    refine (each f List.mem_cons_self).imp fun holds => ⟨fun g member => ?_, .inr rfl⟩
    rwa [List.mem_singleton.mp member]
  | cons g gs later =>
    obtain ⟨apart, onceLater⟩ := apart_of_nodup r d once
    obtain ⟨s, reachesFirst, sameFirst⟩ := each f List.mem_cons_self
    obtain ⟨t, reachesLater, sameLater⟩ :=
      later onceLater fun other member => each other (List.mem_cons_of_mem f member)
    obtain ⟨u, combined, same⟩ := combines_both r d s t
    refine ⟨u, reaches_join apart reachesFirst reachesLater combined, fun equal => ?_⟩
    obtain ⟨first, others, junction⟩ := same equal
    refine ⟨fun other member => ?_, .inl junction⟩
    rcases List.mem_cons.mp member with rfl | member
    · exact sameFirst first
    · exact (sameLater others).1 other member

/-- Formulas that are joined the same way coincide if each of them does. -/
theorem coincide_joined (junction : Junction) {f : Formula ι} {gs : List (Formula ι)}
    (each : ∀ g ∈ f :: gs, Coincide g.pair) : Coincide (joined junction junction f gs).pair := by
  intro x
  rw [joined_pair]
  exact congrArg junction.fold (List.map_congr_left fun g member => each g member x)

/-- Formulas of which one reading negates only the first are never read the same way. -/
theorem tells_refuse {P : Formula ι → Prop} {f g : Formula ι} {gs : List (Formula ι)}
    (once : ((f :: g :: gs).flatMap support).Nodup) (each : ∀ h ∈ f :: g :: gs, Tells (P h) h.pair) :
    Tells False (join (refuse r) f (joined r .disj g gs)).pair := by
  obtain ⟨apart, onceLater⟩ := apart_of_nodup r .disj once
  obtain ⟨s, reachesFirst, _⟩ := each f List.mem_cons_self
  obtain ⟨t, reachesLater, _⟩ :=
    tells_joined r .disj onceLater fun other member => each other (List.mem_cons_of_mem f member)
  obtain ⟨missing, combined⟩ := combines_refuse r s t
  exact ⟨some missing, reaches_join apart reachesFirst reachesLater combined, fun absurd => by cases absurd⟩

end Formula

end Twofold
