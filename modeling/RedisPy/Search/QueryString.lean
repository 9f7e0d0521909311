import RedisPy.Python.Splitting

/-!
# Query strings

The builders of search queries: values for a field, nodes with sub-conditions, and the text that each of them
renders.
-/

namespace RedisPy

namespace QueryString

/-- `Value`: what a field is matched against; numbers stand as their text. -/
inductive FieldValue where
  | scalar (v : Text)
  | range (a b : Option Text) (inclusiveMin inclusiveMax : Bool)
  | tag (tags : List Text)
  | geo (lon lat radius unit : Text)
deriving DecidableEq

namespace FieldValue

/-- `Value.combinable`. -/
def combinable : FieldValue → Bool
  | scalar _ => true
  | range .. => false
  | tag _ => false
  | geo .. => false

/-- What stands between the brackets of a value that has brackets. -/
def inner : FieldValue → Text
  | scalar v => v
  | range a b inclusiveMin inclusiveMax =>
    (if inclusiveMin then [] else ['(']) ++ a.getD ['-', 'i', 'n', 'f'] ++ [' '] ++
      (if inclusiveMax then [] else ['(']) ++ b.getD ['i', 'n', 'f']
  | tag tags => [' ', '|', ' '].intercalate tags
  | geo lon lat radius unit => [' '].intercalate [lon, lat, radius, unit]

/-- `Value.to_string`. -/
def toText (value : FieldValue) : Text :=
  match value with
  | scalar v => v
  | range .. => '[' :: value.inner ++ [']']
  | tag _ => '{' :: value.inner ++ ['}']
  | geo .. => '[' :: value.inner ++ [']']

end FieldValue

/-- A keyword parameter: the name of a field and its values; without a value `join_fields` raises. -/
structure FieldParam where
  key : Text
  first : FieldValue
  rest : List FieldValue
deriving DecidableEq

/-- The values of a parameter. -/
def FieldParam.vals (param : FieldParam) : List FieldValue := param.first :: param.rest

/-- `IntersectNode`, `UnionNode`, `DisjunctNode`, `DistjunctUnion` and `OptionalNode`. -/
inductive NodeKind where
  | intersect
  | union
  | disjunct
  | disjunctUnion
  | optional
deriving DecidableEq

namespace NodeKind

/-- `JOINSTR`. -/
def joinStr : NodeKind → Text
  | intersect => [' ']
  | union => ['|']
  | disjunct => [' ']
  | disjunctUnion => ['|']
  | optional => [' ']

/-- `join_fields`: the texts of the base nodes for the values of one key. -/
def joinFields (kind : NodeKind) (param : FieldParam) : List Text :=
  if param.rest = [] then ['@' :: param.key ++ ':' :: param.first.toText]
  else if !param.first.combinable then param.vals.map fun v => '@' :: param.key ++ ':' :: v.toText
  else ['@' :: param.key ++ ':' :: '(' :: kind.joinStr.intercalate (param.vals.map FieldValue.toText) ++ [')']]

/-- `_should_use_paren`. -/
def shouldUseParen (params : List Text) (optval : Option Bool) : Bool :=
  optval.getD (params.length > 1)

/-- `Node.to_string`, for parameters that were rendered. -/
def nodeText (kind : NodeKind) (params : List Text) (withParens : Option Bool) : Text :=
  let withParens := shouldUseParen params withParens
  (if withParens then ['('] else []) ++ kind.joinStr.intercalate params ++ (if withParens then [')'] else [])

/-- `DisjunctNode.to_string` and `OptionalNode.to_string`, which differ in the prefix. -/
def prefixedText (mark : Char) (kind : NodeKind) (params : List Text) (withParens : Option Bool) : Text :=
  let ret := kind.nodeText params (some false)
  if shouldUseParen params withParens then '(' :: mark :: ret ++ [')'] else mark :: ret

/-- `to_string` of the class. -/
def toText : NodeKind → List Text → Option Bool → Text
  | intersect => nodeText intersect
  | union => nodeText union
  | disjunct => prefixedText '-' disjunct
  | disjunctUnion => prefixedText '-' disjunctUnion
  | optional => prefixedText '~' optional

end NodeKind

/-- A tree of nodes: a base node, or a node of some class with children and keyword parameters. -/
inductive QueryNode where
  | base (s : Text)
  | node (kind : NodeKind) (children : List QueryNode) (fields : List FieldParam)

namespace QueryNode

section Recursion

variable {α : Type} (atBase : Text → α)
  (atNode : NodeKind → List QueryNode → List α → List FieldParam → α)

mutual

/-- Recursion over a tree; a node is given its children and what they came to. -/
def recursion : QueryNode → α
  | base s => atBase s
  | node kind children fields => atNode kind children (recursionAll children) fields

/-- `recursion` for each tree of a list. -/
def recursionAll : List QueryNode → List α
  | [] => []
  | child :: children => recursion child :: recursionAll children

end

/-- The children are treated one by one. -/
theorem recursionAll_eq (children : List QueryNode) :
    recursionAll atBase atNode children = children.map (recursion atBase atNode) := by
  induction children with
  | nil => rfl
  | cons child children earlier => rw [recursionAll, earlier, List.map_cons]

/-- What a node comes to, from what its children come to. -/
theorem recursion_node (kind : NodeKind) (children : List QueryNode) (fields : List FieldParam) :
    recursion atBase atNode (node kind children fields) =
      atNode kind children (children.map (recursion atBase atNode)) fields := by
  rw [recursion, recursionAll_eq]

end Recursion

/-- Induction over trees, with the hypothesis for every child of a node. -/
theorem induct {P : QueryNode → Prop} (atBase : ∀ s, P (base s))
    (atNode : ∀ kind children fields, (∀ child ∈ children, P child) → P (node kind children fields))
    (tree : QueryNode) : P tree := by
  refine QueryNode.rec (motive_1 := P) (motive_2 := fun children => ∀ child ∈ children, P child)
    atBase (fun kind children fields each => atNode kind children fields each) ?_ ?_ tree
  · intro child absent
    cases absent
  · intro child children here later other member
    rcases List.mem_cons.mp member with rfl | member
    · exact here
    · exact later other member

/-- `self.params`, rendered: the children come first, then the fields. -/
def paramTexts (kind : NodeKind) (children : List Text) (fields : List FieldParam) : List Text :=
  children ++ fields.flatMap kind.joinFields

/-- `to_string()`. -/
def toText : QueryNode → Text :=
  recursion (fun s => s) fun kind _ children fields => kind.toText (paramTexts kind children fields) none

/-- The rendering of a node is made from the renderings of its parameters. -/
theorem toText_node (kind : NodeKind) (children : List QueryNode) (fields : List FieldParam) :
    toText (node kind children fields) =
      kind.toText (paramTexts kind (children.map toText) fields) none :=
  recursion_node ..

end QueryNode

end QueryString

end RedisPy
