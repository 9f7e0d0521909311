import RedisPy.Lib.Twofold
import RedisPy.Search.QueryReading

/-!
# What query trees mean

The documented meaning of a tree, and the trees whose rendering is read with that meaning. A disjunct or an
optional node puts its prefix before its first parameter only, and a disjunct denies the values of a field
together when it combines them.
-/

namespace RedisPy

namespace QueryString

open Twofold (Junction Formula Tells Coincide)

/-! ## Documented meaning -/

/-- What the class of a node says of its sub-conditions. -/
def NodeKind.documented : NodeKind → List Bool → Bool
  | intersect, holds => holds.all id
  | union, holds => holds.any id
  | disjunct, holds => holds.all fun child => !child
  | disjunctUnion, holds => holds.all fun child => !child
  | optional, _ => true

/-- Each value of a field is a sub-condition. -/
def FieldParam.holds (document : Document) (param : FieldParam) : List Bool :=
  param.vals.map fun v => document (some param.key, v.toText)

/-- Values that are combined in parentheses are all terms. -/
def FieldParam.readable (param : FieldParam) : Bool :=
  param.rest.isEmpty || !param.first.combinable || param.vals.all FieldValue.combinable

namespace QueryNode

/-- What a tree says of a document. -/
def meaning (document : Document) : QueryNode → Bool :=
  recursion (fun s => document (none, s)) fun kind _ children fields =>
    kind.documented (children ++ fields.flatMap (FieldParam.holds document))

/-- The terms and values of a tree. -/
def atoms : QueryNode → List Atom :=
  recursion (fun s => [(none, s)]) fun _ _ children fields =>
    children.flatten ++ fields.flatMap fun param => param.vals.map fun v => (some param.key, v.toText)

/-- Whether the tree has no optional node. -/
def strict : QueryNode → Bool :=
  recursion (fun _ => true) fun kind _ children _ => kind != .optional && children.all id

/-- Whether a rendering can be read. -/
def readable : QueryNode → Bool :=
  recursion (fun _ => true) fun _ _ children fields => children.all id && fields.all FieldParam.readable

end QueryNode

/-- A node is rendered as it means: a disjunct has one sub-condition, a disjunct union one parameter, and an
optional node one parameter that can be read. -/
def NodeKind.plain : NodeKind → List QueryNode → List Bool → List FieldParam → Bool
  | intersect, _, plain, _ => plain.all id
  | union, _, plain, _ => plain.all id
  | disjunct, children, plain, fields =>
    plain.all id && children.length + (fields.flatMap FieldParam.vals).length == 1
  | disjunctUnion, children, plain, fields =>
    plain.all id && (QueryNode.paramTexts disjunctUnion (children.map QueryNode.toText) fields).length == 1
  | optional, children, _, fields =>
    children.all QueryNode.readable &&
      (QueryNode.paramTexts optional (children.map QueryNode.toText) fields).length == 1

namespace QueryNode

/-- Every node is rendered as it means. -/
def plain : QueryNode → Bool :=
  recursion (fun _ => true) fun kind children plain fields =>
    fields.all FieldParam.readable && kind.plain children plain fields

end QueryNode

/-! ## How a node is read -/

namespace NodeKind

/-- How the parameters are joined in the text. -/
def reads : NodeKind → Junction
  | intersect => .conj
  | union => .disj
  | disjunct => .conj
  | disjunctUnion => .disj
  | optional => .conj

/-- How the sub-conditions are joined by the documentation, before they are denied. -/
def joins : NodeKind → Junction
  | intersect => .conj
  | union => .disj
  | disjunct => .disj
  | disjunctUnion => .disj
  | optional => .conj

/-- What the mark makes of the first parameter. -/
def markedValue : NodeKind → Bool → Bool
  | intersect, first => first
  | union, first => first
  | disjunct, first => !first
  | disjunctUnion, first => !first
  | optional, _ => true

/-- What a node is read as: the mark is on the first parameter. -/
def readAs (kind : NodeKind) : List Bool → Bool
  | [] => kind.reads.fold []
  | first :: others => kind.reads.fold (kind.markedValue first :: others)

/-- A group is read as its clauses joined. -/
theorem group_alternatives (kind : NodeKind) (clauses : List Clause) (field : Option Text) :
    group (kind.alternatives clauses) field = kind.reads.fold (clauses.map fun clause => clause field) := by
  have conj : group [clauses] field = Junction.conj.fold (clauses.map fun clause => clause field) := by
    rw [group, List.any_cons, List.any_nil, Bool.or_false, Junction.fold, List.all_map]
    rfl
  have disj : group (clauses.map fun clause => [clause]) field =
      Junction.disj.fold (clauses.map fun clause => clause field) := by
    rw [group, List.any_map, Junction.fold, List.any_map]
    exact congrArg clauses.any (funext fun clause => Bool.and_true _)
  cases kind with
  | intersect => exact conj
  | union => exact disj
  | disjunct => exact conj
  | disjunctUnion => exact disj
  | optional => exact conj

/-- What a node is read as, from what its parameters are read as. -/
theorem nodePart_clause (kind : NodeKind) (parts : List Part) (field : Option Text) :
    (kind.nodePart parts).clause field = kind.readAs (parts.map fun part => part.clause field) := by
  refine (group_alternatives kind _ field).trans ?_
  cases parts with
  | nil => rfl
  | cons part parts =>
    have others : (parts.map Part.clause).map (fun clause => clause field) =
        parts.map fun part => part.clause field := List.map_map
    rw [markFirst, List.map_cons, List.map_cons, others]
    cases kind with
    | intersect => rfl
    | union => rfl
    | disjunct => rfl
    | disjunctUnion => rfl
    | optional => rfl

/-- Values that are all false. -/
theorem all_not (holds : List Bool) : (holds.all fun child => !child) = !Junction.disj.fold holds := by
  rw [Junction.fold, List.not_any_eq_all_not]
  rfl

/-- The documentation sees the sub-conditions only together. -/
theorem documented_congr (kind : NodeKind) {holds others : List Bool}
    (same : kind.joins.fold holds = kind.joins.fold others) : kind.documented holds = kind.documented others := by
  cases kind with
  | intersect => exact same
  | union => exact same
  | disjunct => exact (all_not holds).trans ((congrArg not same).trans (all_not others).symm)
  | disjunctUnion => exact (all_not holds).trans ((congrArg not same).trans (all_not others).symm)
  | optional => rfl

end NodeKind

/-! ## Both readings of a tree -/

/-- A term or a value is read as it is meant. -/
def atomFormula (atom : Atom) : Formula Atom where
  support := [atom]
  pair := fun document => (document atom, document atom)
  supported := fun _ _ same => congrArg (fun holds => (holds, holds)) (same atom List.mem_cons_self)

/-- A value of a field. -/
def FieldParam.formulaOf (param : FieldParam) (value : FieldValue) : Formula Atom :=
  atomFormula (some param.key, value.toText)

/-- The base nodes of a field. -/
def NodeKind.fieldFormulas (kind : NodeKind) (param : FieldParam) : List (Formula Atom) :=
  if param.rest = [] then [param.formulaOf param.first]
  else if !param.first.combinable then param.vals.map param.formulaOf
  else [Formula.joined kind.reads kind.joins (param.formulaOf param.first) (param.rest.map param.formulaOf)]

/-- A node, as it is read and as it is documented. -/
def NodeKind.nodeFormula (kind : NodeKind) (formulas : List (Formula Atom)) : Formula Atom where
  support := formulas.flatMap Formula.support
  pair := fun document =>
    (kind.readAs (formulas.map fun f => (f.pair document).1),
      kind.documented (formulas.map fun f => (f.pair document).2))
  supported := by
    intro document other same
    have each (f : Formula Atom) (member : f ∈ formulas) : f.pair document = f.pair other :=
      f.supported fun atom inside => same atom (List.mem_flatMap.mpr ⟨f, member, inside⟩)
    have read := List.map_congr_left fun f member => congrArg Prod.fst (each f member)
    have documented := List.map_congr_left fun f member => congrArg Prod.snd (each f member)
    exact congrArg₂ (fun reads holds => (kind.readAs reads, kind.documented holds)) read documented

namespace FieldParam

variable (kind : NodeKind) (param : FieldParam) (document : Document)

/-- What the base nodes of a field are read as. -/
theorem fieldFormulas_read :
    ((kind.fieldFormulas param).map fun f => (f.pair document).1) =
      (fieldParts document kind param).map fun part => part.clause none := by
  rw [NodeKind.fieldFormulas, fieldParts]
  split
  · rfl
  · split
    · rw [List.map_map, List.map_map]
      rfl
    · have values : (param.vals.map param.formulaOf).map (fun f => (f.pair document).1) =
          param.holds document := List.map_map
      have clauses : ((param.vals.map (itemPart document)).map Part.clause).map
          (fun clause => clause (some param.key)) = param.holds document := List.map_map.trans List.map_map
      have together : (combinedPart document kind param).clause none = kind.reads.fold (param.holds document) := by
        rw [← clauses]
        exact kind.group_alternatives _ _
      rw [List.map_singleton, List.map_singleton, Formula.joined_pair, together]
      exact congrArg (fun holds => [kind.reads.fold holds]) values

/-- The base nodes of a field are documented like its values. -/
theorem fieldFormulas_holds :
    kind.joins.fold ((kind.fieldFormulas param).map fun f => (f.pair document).2) =
      kind.joins.fold (param.holds document) := by
  have values : (param.vals.map param.formulaOf).map (fun f => (f.pair document).2) = param.holds document :=
    List.map_map
  rw [NodeKind.fieldFormulas]
  split
  · next alone =>
    rw [← values, vals, alone]
    rfl
  · split
    · rw [values]
    · rw [List.map_singleton, Junction.fold_singleton, Formula.joined_pair]
      exact congrArg kind.joins.fold values

/-- The atoms of the base nodes of a field are its values. -/
theorem fieldFormulas_support :
    (kind.fieldFormulas param).flatMap Formula.support = param.vals.map fun v => (some param.key, v.toText) := by
  have values : (param.vals.map param.formulaOf).flatMap Formula.support =
      param.vals.map fun v => (some param.key, v.toText) := by
    rw [List.flatMap_map]
    exact List.map_eq_flatMap.symm
  rw [NodeKind.fieldFormulas]
  split
  · next alone =>
    rw [← values, vals, alone]
    rfl
  · split
    · exact values
    · rw [List.flatMap_singleton, Formula.joined_support]
      exact values

end FieldParam

namespace QueryNode

/-- The sub-conditions of a node: the children come first, then the fields. -/
def subFormulas (kind : NodeKind) (children : List (Formula Atom)) (fields : List FieldParam) :
    List (Formula Atom) :=
  children ++ fields.flatMap kind.fieldFormulas

/-- A tree, as it is read and as it is documented. -/
def formula : QueryNode → Formula Atom :=
  recursion (fun s => atomFormula (none, s)) fun kind _ children fields =>
    kind.nodeFormula (subFormulas kind children fields)

/-- The formula of a node. -/
theorem formula_node (kind : NodeKind) (children : List QueryNode) (fields : List FieldParam) :
    formula (node kind children fields) = kind.nodeFormula (subFormulas kind (children.map formula) fields) :=
  recursion_node ..

/-- The formula of a tree has what its rendering is read as, and its meaning. -/
theorem formula_pair (tree : QueryNode) (document : Document) :
    tree.formula.pair document = ((tree.part document).clause none, tree.meaning document) := by
  induction tree using induct with
  | atBase s => rfl
  | atNode kind children fields each =>
    have read : ((subFormulas kind (children.map formula) fields).map fun f => (f.pair document).1) =
        (paramParts document kind (children.map (part document)) fields).map fun part => part.clause none := by
      rw [subFormulas, paramParts, List.map_append, List.map_append, List.map_map, List.map_map, List.map_flatMap,
        List.map_flatMap]
      refine congrArg₂ (· ++ ·) (List.map_congr_left fun child member => ?_) ?_
      · exact congrArg Prod.fst (each child member)
      · exact List.flatMap_congr fun param _ => param.fieldFormulas_read kind document
    have meant : meaning document (node kind children fields) =
        kind.documented (children.map (meaning document) ++ fields.flatMap (FieldParam.holds document)) :=
      recursion_node ..
    have documented :
        kind.joins.fold ((subFormulas kind (children.map formula) fields).map fun f => (f.pair document).2) =
          kind.joins.fold (children.map (meaning document) ++ fields.flatMap (FieldParam.holds document)) := by
      have values : kind.joins.fold ((fields.flatMap kind.fieldFormulas).map fun f => (f.pair document).2) =
          kind.joins.fold (fields.flatMap (FieldParam.holds document)) := by
        rw [List.map_flatMap, Junction.fold_flatMap, Junction.fold_flatMap]
        exact congrArg _ (List.map_congr_left fun param _ => param.fieldFormulas_holds kind document)
      have trees : (children.map formula).map (fun f => (f.pair document).2) = children.map (meaning document) := by
        rw [List.map_map]
        exact List.map_congr_left fun child member => congrArg Prod.snd (each child member)
      rw [subFormulas, List.map_append, Junction.fold_append, values, trees, Junction.fold_append]
    rw [formula_node, part_node, NodeKind.nodePart_clause, ← read, meant, ← kind.documented_congr documented]
    rfl

/-- The formula of a tree is about its atoms. -/
theorem formula_support (tree : QueryNode) : tree.formula.support = tree.atoms := by
  induction tree using induct with
  | atBase s => rfl
  | atNode kind children fields each =>
    have inside : atoms (node kind children fields) = (children.map atoms).flatten ++
        fields.flatMap fun param => param.vals.map fun v => (some param.key, v.toText) := recursion_node ..
    have trees : (children.map formula).flatMap Formula.support = (children.map atoms).flatten := by
      rw [List.flatMap_map, List.flatMap_def]
      exact congrArg List.flatten (List.map_congr_left each)
    rw [formula_node, inside, ← trees]
    change (subFormulas kind (children.map formula) fields).flatMap Formula.support = _
    rw [subFormulas, List.flatMap_append, List.flatMap_assoc]
    exact congrArg _ (List.flatMap_congr fun param _ => param.fieldFormulas_support kind)

/-! ## Trees that can be read -/

/-- What it takes to read a node. -/
theorem readable_node {kind : NodeKind} {children : List QueryNode} {fields : List FieldParam} :
    readable (node kind children fields) = true ↔
      (∀ child ∈ children, child.readable = true) ∧ ∀ param ∈ fields, param.readable = true := by
  rw [readable, recursion_node, Bool.and_eq_true, List.all_map, List.all_eq_true, List.all_eq_true]
  rfl

/-- A field is read if the values that it combines are terms. -/
theorem fieldParts_readable (document : Document) (kind : NodeKind) (param : FieldParam) :
    (fieldParts document kind param).all Part.readable = param.readable := by
  rw [fieldParts, FieldParam.readable]
  split
  · next alone =>
    rw [alone]
    rfl
  · next several =>
    rw [List.isEmpty_eq_false_iff.mpr several, Bool.false_or]
    split
    · next other =>
      rw [other, Bool.true_or, List.all_map, List.all_eq_true]
      exact fun _ _ => rfl
    · next combinable =>
      rw [Bool.eq_false_iff.mpr combinable, Bool.false_or, List.all_cons, List.all_nil, Bool.and_true]
      exact List.all_map

/-- Whether a rendering can be read does not depend on the document. -/
theorem part_readable (document : Document) (tree : QueryNode) :
    (tree.part document).readable = tree.readable := by
  induction tree using induct with
  | atBase s => rfl
  | atNode kind children fields each =>
    have parts : (node kind children fields).part document =
      kind.nodePart (paramParts document kind (children.map (part document)) fields) := part_node ..
    have inside : readable (node kind children fields) =
        ((children.map readable).all id && fields.all FieldParam.readable) := recursion_node ..
    have trees : (children.map (part document)).all Part.readable = (children.map readable).all id := by
      have same : (children.map (part document)).map Part.readable = children.map readable := by
        rw [List.map_map]
        exact List.map_congr_left each
      rw [← same]
      exact (List.all_map (f := Part.readable) (p := id)).symm
    have named : (fields.flatMap (fieldParts document kind)).all Part.readable = fields.all FieldParam.readable := by
      rw [List.all_flatMap]
      exact List.all_congr rfl fun param => fieldParts_readable document kind param
    rw [parts, inside, ← trees, ← named]
    exact List.all_append

end QueryNode

/-! ## Trees that are rendered as they mean -/

namespace NodeKind

/-- Without a prefix, or with one parameter, a node is read as it is documented. -/
theorem readAs_eq_documented (kind : NodeKind) {holds : List Bool}
    (plain : kind.mark = none ∨ holds.length = 1) : kind.readAs holds = kind.documented holds := by
  rcases plain with unmarked | single
  · cases kind with
    | intersect => cases holds <;> rfl
    | union => cases holds <;> rfl
    | disjunct => cases unmarked
    | disjunctUnion => cases unmarked
    | optional => cases unmarked
  · obtain ⟨value, rfl⟩ := List.length_eq_one_iff.mp single
    rw [readAs, Junction.fold_singleton]
    cases kind with
    | intersect => exact (Bool.and_true value).symm
    | union => exact (Bool.or_false value).symm
    | disjunct => exact (Bool.and_true (!value)).symm
    | disjunctUnion => exact (Bool.and_true (!value)).symm
    | optional => rfl

/-- A node whose sub-conditions are read as they mean. -/
theorem coincide_nodeFormula (kind : NodeKind) {formulas : List (Formula Atom)}
    (plain : kind.mark = none ∨ formulas.length = 1) (each : ∀ f ∈ formulas, Coincide f.pair) :
    Coincide (kind.nodeFormula formulas).pair := by
  intro document
  have same : formulas.map (fun f => (f.pair document).1) = formulas.map fun f => (f.pair document).2 :=
    List.map_congr_left fun f member => each f member document
  have single (one : formulas.length = 1) : (formulas.map fun f => (f.pair document).2).length = 1 := by
    rwa [List.length_map]
  have read := kind.readAs_eq_documented (plain.imp_right single)
  exact (congrArg kind.readAs same).trans read

/-- An optional node with one parameter constrains nothing. -/
theorem coincide_optional {formulas : List (Formula Atom)} (single : formulas.length = 1) :
    Coincide (optional.nodeFormula formulas).pair := by
  obtain ⟨f, rfl⟩ := List.length_eq_one_iff.mp single
  exact fun _ => rfl

/-- The base nodes of a field are read as they mean, unless its values are combined and denied. -/
theorem coincide_fieldFormulas (kind : NodeKind) {param : FieldParam}
    (plain : kind.reads = kind.joins ∨ param.rest = []) : ∀ f ∈ kind.fieldFormulas param, Coincide f.pair := by
  intro f member
  rw [fieldFormulas] at member
  split at member
  · rw [List.mem_singleton.mp member]
    exact fun _ => rfl
  · next several =>
    split at member
    · obtain ⟨value, _, rfl⟩ := List.mem_map.mp member
      exact fun _ => rfl
    · rw [List.mem_singleton.mp member, ← plain.resolve_right several]
      refine Formula.coincide_joined _ fun g among => ?_
      obtain ⟨value, _, rfl⟩ := List.mem_map.mp (show g ∈ param.vals.map param.formulaOf from among)
      exact fun _ => rfl

/-- A field has a base node. -/
theorem fieldFormulas_ne_nil (kind : NodeKind) (param : FieldParam) : kind.fieldFormulas param ≠ [] := by
  rw [fieldFormulas]
  split
  · exact List.cons_ne_nil _ _
  · split
    · exact List.cons_ne_nil _ _
    · exact List.cons_ne_nil _ _

/-- A field has as many formulas as base nodes. -/
theorem fieldFormulas_length (kind : NodeKind) (param : FieldParam) :
    (kind.fieldFormulas param).length = (kind.joinFields param).length := by
  rw [fieldFormulas, joinFields]
  split
  · rfl
  · split
    · rw [List.length_map, List.length_map]
    · rfl

/-- Values that are not combined have a formula each. -/
theorem fieldFormulas_length_of_separate (kind : NodeKind) {param : FieldParam}
    (separate : param.rest = [] ∨ param.first.combinable = false) :
    (kind.fieldFormulas param).length = param.vals.length := by
  rw [fieldFormulas]
  split
  · next alone =>
    rw [FieldParam.vals, alone]
    rfl
  · next several =>
    rw [separate.resolve_left several, if_pos Bool.not_false, List.length_map]

end NodeKind

namespace QueryNode

/-- A node has as many formulas as parameters. -/
theorem subFormulas_length (kind : NodeKind) (children : List QueryNode) (fields : List FieldParam) :
    (subFormulas kind (children.map formula) fields).length =
      (paramTexts kind (children.map toText) fields).length := by
  have named : (fields.flatMap kind.fieldFormulas).length = (fields.flatMap kind.joinFields).length := by
    induction fields with
    | nil => rfl
    | cons param fields later =>
      rw [List.flatMap_cons, List.flatMap_cons, List.length_append, List.length_append, later,
        kind.fieldFormulas_length]
  rw [subFormulas, paramTexts, List.length_append, List.length_append, List.length_map, List.length_map, named]

/-- While no values are combined, each child and each value has its formula. -/
theorem subFormulas_length_of_separate (kind : NodeKind) (children : List QueryNode) {fields : List FieldParam}
    (separate : ∀ param ∈ fields, param.rest = [] ∨ param.first.combinable = false) :
    (subFormulas kind (children.map formula) fields).length =
      children.length + (fields.flatMap FieldParam.vals).length := by
  have named : (fields.flatMap kind.fieldFormulas).length = (fields.flatMap FieldParam.vals).length := by
    induction fields with
    | nil => rfl
    | cons param fields later =>
      have rest := later fun other member => separate other (List.mem_cons_of_mem param member)
      have here := kind.fieldFormulas_length_of_separate (separate param List.mem_cons_self)
      rw [List.flatMap_cons, List.flatMap_cons, List.length_append, List.length_append, rest, here]
  rw [subFormulas, List.length_append, List.length_map, named]

/-- One child or one value: no field has several. -/
theorem alone_of_single_value {children : List QueryNode} {fields : List FieldParam}
    (single : children.length + (fields.flatMap FieldParam.vals).length = 1) :
    ∀ param ∈ fields, param.rest = [] := by
  intro param member
  obtain ⟨before, after, rfl⟩ := List.append_of_mem member
  rw [List.flatMap_append, List.flatMap_cons, List.length_append, List.length_append, FieldParam.vals,
    List.length_cons] at single
  exact List.length_eq_zero_iff.mp (by omega)

/-- What it takes for a node to be rendered as it means. -/
theorem plain_node {kind : NodeKind} {children : List QueryNode} {fields : List FieldParam} :
    plain (node kind children fields) = true ↔
      (∀ param ∈ fields, param.readable = true) ∧ kind.plain children (children.map plain) fields = true := by
  rw [plain, recursion_node, Bool.and_eq_true, List.all_eq_true]

/-- A plain tree can be read, and is read as it means. -/
theorem coincide_of_plain {tree : QueryNode} (whole : tree.plain = true) :
    tree.readable = true ∧ Coincide tree.formula.pair := by
  induction tree using induct with
  | atBase s => exact ⟨rfl, fun _ => rfl⟩
  | atNode kind children fields each =>
    obtain ⟨fieldsReadable, rendered⟩ := plain_node.mp whole
    have plainChildren (all : (children.map plain).all id = true) :
        (∀ child ∈ children, child.readable = true) ∧ ∀ f ∈ children.map formula, Coincide f.pair := by
      rw [List.all_map, List.all_eq_true] at all
      refine ⟨fun child member => (each child member (all child member)).1, fun f member => ?_⟩
      obtain ⟨child, inside, rfl⟩ := List.mem_map.mp member
      exact (each child inside (all child inside)).2
    have coinciding (trees : ∀ f ∈ children.map formula, Coincide f.pair)
        (named : ∀ param ∈ fields, kind.reads = kind.joins ∨ param.rest = []) :
        ∀ f ∈ subFormulas kind (children.map formula) fields, Coincide f.pair := by
      intro f member
      rcases List.mem_append.mp member with child | field
      · exact trees f child
      · obtain ⟨param, inside, among⟩ := List.mem_flatMap.mp field
        exact kind.coincide_fieldFormulas (named param inside) f among
    rw [formula_node, readable_node]
    cases kind with
    | intersect =>
      obtain ⟨readable, trees⟩ := plainChildren rendered
      exact ⟨⟨readable, fieldsReadable⟩,
        NodeKind.coincide_nodeFormula _ (.inl rfl) (coinciding trees fun _ _ => .inl rfl)⟩
    | union =>
      obtain ⟨readable, trees⟩ := plainChildren rendered
      exact ⟨⟨readable, fieldsReadable⟩,
        NodeKind.coincide_nodeFormula _ (.inl rfl) (coinciding trees fun _ _ => .inl rfl)⟩
    | disjunct =>
      rw [NodeKind.plain, Bool.and_eq_true, beq_iff_eq] at rendered
      obtain ⟨readable, trees⟩ := plainChildren rendered.1
      have alone := alone_of_single_value rendered.2
      have single := subFormulas_length_of_separate .disjunct children fun param member => .inl (alone param member)
      exact ⟨⟨readable, fieldsReadable⟩, NodeKind.coincide_nodeFormula _ (.inr (single.trans rendered.2))
        (coinciding trees fun param member => .inr (alone param member))⟩
    | disjunctUnion =>
      rw [NodeKind.plain, Bool.and_eq_true, beq_iff_eq, ← subFormulas_length] at rendered
      obtain ⟨readable, trees⟩ := plainChildren rendered.1
      exact ⟨⟨readable, fieldsReadable⟩,
        NodeKind.coincide_nodeFormula _ (.inr rendered.2) (coinciding trees fun _ _ => .inl rfl)⟩
    | optional =>
      rw [NodeKind.plain, Bool.and_eq_true, beq_iff_eq, ← subFormulas_length, List.all_eq_true] at rendered
      exact ⟨⟨rendered.1, fieldsReadable⟩, NodeKind.coincide_optional rendered.2⟩

end QueryNode

/-! ## Trees without repeated atoms -/

namespace NodeKind

variable {f : Formula Atom} {gs : List (Formula Atom)}

/-- A node without a prefix is read as it means only if its sub-conditions are. -/
theorem tells_unmarked {kind : NodeKind} (unmarked : kind.mark = none)
    (once : ((f :: gs).flatMap Formula.support).Nodup) (each : ∀ g ∈ f :: gs, Tells (Coincide g.pair) g.pair) :
    Tells (∀ g ∈ f :: gs, Coincide g.pair) (kind.nodeFormula (f :: gs)).pair := by
  have joined : (kind.nodeFormula (f :: gs)).pair = (Formula.joined kind.reads kind.reads f gs).pair := by
    funext document
    rw [Formula.joined_pair]
    cases kind with
    | intersect => rfl
    | union => rfl
    | disjunct => cases unmarked
    | disjunctUnion => cases unmarked
    | optional => cases unmarked
  rw [joined]
  exact (Formula.tells_joined kind.reads kind.reads once each).imp And.left

/-- A node that denies its sub-conditions is read as it means only if it has one. -/
theorem tells_negated {kind : NodeKind} (negated : kind.mark = some .negated)
    (once : ((f :: gs).flatMap Formula.support).Nodup) (each : ∀ g ∈ f :: gs, Tells (Coincide g.pair) g.pair) :
    Tells (gs = [] ∧ Coincide f.pair) (kind.nodeFormula (f :: gs)).pair := by
  have denied (document : Document) : ((kind.nodeFormula (f :: gs)).pair document).2 =
      !Junction.disj.fold ((f :: gs).map fun g => (g.pair document).2) := by
    rw [← all_not]
    cases kind with
    | intersect => cases negated
    | union => cases negated
    | disjunct => rfl
    | disjunctUnion => rfl
    | optional => cases negated
  have read (document : Document) : ((kind.nodeFormula (f :: gs)).pair document).1 =
      kind.reads.fold ((!(f.pair document).1) :: gs.map fun g => (g.pair document).1) := by
    cases kind with
    | intersect => cases negated
    | union => cases negated
    | disjunct => rfl
    | disjunctUnion => rfl
    | optional => cases negated
  cases gs with
  | nil =>
    have negation : (kind.nodeFormula [f]).pair = fun document => (!(f.pair document).1, !(f.pair document).2) := by
      funext document
      refine Prod.ext ?_ ?_
      · rw [read, List.map_nil, Junction.fold_singleton]
      · rw [denied, List.map_singleton, Junction.fold_singleton]
    rw [negation]
    exact (each f List.mem_cons_self).negate.imp fun coincide => ⟨rfl, coincide⟩
  | cons g gs =>
    have refused : (kind.nodeFormula (f :: g :: gs)).pair =
        (Formula.join (Twofold.refuse kind.reads) f (Formula.joined kind.reads .disj g gs)).pair := by
      funext document
      rw [Formula.join_pair, Formula.joined_pair]
      refine Prod.ext ?_ ?_
      · rw [read, Junction.fold_cons]
        rfl
      · rw [denied, List.map_cons, Junction.fold_cons]
        rfl
    rw [refused]
    exact (Formula.tells_refuse kind.reads once each).imp False.elim

/-- The base nodes of a field over different atoms; combined values are read as they mean only if they are not
denied. -/
theorem tells_fieldFormulas (kind : NodeKind) {param : FieldParam}
    (once : ((kind.fieldFormulas param).flatMap Formula.support).Nodup) :
    ∀ f ∈ kind.fieldFormulas param,
      Tells (Coincide f.pair ∧ (kind.reads = kind.joins ∨ param.rest = [] ∨ param.first.combinable = false))
        f.pair := by
  intro f member
  rw [fieldFormulas] at member once
  split at member
  · next alone =>
    rw [List.mem_singleton.mp member]
    exact (Twofold.tells_variable _).imp fun _ => ⟨fun _ => rfl, .inr (.inl alone)⟩
  · next several =>
    rw [if_neg several] at once
    split at member
    · next other =>
      obtain ⟨value, _, rfl⟩ := List.mem_map.mp member
      exact (Twofold.tells_variable _).imp fun _ => ⟨fun _ => rfl, .inr (.inr ((Bool.not_eq_true' _).mp other))⟩
    · next combinable =>
      rw [if_neg combinable, List.flatMap_singleton, Formula.joined_support] at once
      have each : ∀ g ∈ param.formulaOf param.first :: param.rest.map param.formulaOf,
          Tells (Coincide g.pair) g.pair := by
        intro g among
        obtain ⟨value, _, rfl⟩ := List.mem_map.mp (show g ∈ param.vals.map param.formulaOf from among)
        exact (Twofold.tells_variable _).imp fun _ _ => rfl
      rw [List.mem_singleton.mp member]
      refine (Formula.tells_joined kind.reads kind.joins once each).imp fun ⟨coincide, joined⟩ => ?_
      have same : kind.reads = kind.joins := joined.resolve_right fun empty => several (List.map_eq_nil_iff.mp empty)
      rw [← same]
      exact ⟨Formula.coincide_joined _ coincide, .inl rfl⟩

end NodeKind

namespace QueryNode

/-- What it takes for a node to be without optional nodes. -/
theorem strict_node {kind : NodeKind} {children : List QueryNode} {fields : List FieldParam} :
    strict (node kind children fields) = true ↔
      kind ≠ .optional ∧ ∀ child ∈ children, child.strict = true := by
  rw [strict, recursion_node, Bool.and_eq_true, bne_iff_ne, List.all_map, List.all_eq_true]
  rfl

/-- The sub-conditions of a node over different atoms, and what it takes that all are read as they mean. -/
theorem tells_subFormulas {kind : NodeKind} {children : List QueryNode} {fields : List FieldParam}
    (once : ((subFormulas kind (children.map formula) fields).flatMap Formula.support).Nodup)
    (trees : ∀ child ∈ children, Tells (child.plain = true) child.formula.pair) :
    (∀ f ∈ subFormulas kind (children.map formula) fields, Tells (Coincide f.pair) f.pair) ∧
      ((∀ f ∈ subFormulas kind (children.map formula) fields, Coincide f.pair) →
        (∀ child ∈ children, child.plain = true) ∧
          ∀ param ∈ fields, kind.reads = kind.joins ∨ param.rest = [] ∨ param.first.combinable = false) := by
  have named (param : FieldParam) (member : param ∈ fields) :
      ((kind.fieldFormulas param).flatMap Formula.support).Nodup := by
    rw [subFormulas, List.flatMap_append, List.flatMap_assoc] at once
    exact (List.nodup_flatMap.mp (List.nodup_append'.mp once).2.1).1 param member
  refine ⟨fun f member => ?_, fun coincide => ⟨fun child member => ?_, fun param member => ?_⟩⟩
  · rcases List.mem_append.mp member with tree | field
    · obtain ⟨child, inside, rfl⟩ := List.mem_map.mp tree
      exact (trees child inside).imp fun plain => (coincide_of_plain plain).2
    · obtain ⟨param, inside, among⟩ := List.mem_flatMap.mp field
      exact (kind.tells_fieldFormulas (named param inside) f among).imp And.left
  · exact (trees child member).of_coincide (coincide _ (List.mem_append_left _ (List.mem_map_of_mem member)))
  · obtain ⟨f, among⟩ := List.exists_mem_of_ne_nil _ (kind.fieldFormulas_ne_nil param)
    have read := coincide f (List.mem_append_right _ (List.mem_flatMap.mpr ⟨param, member, among⟩))
    exact ((kind.tells_fieldFormulas (named param member) f among).of_coincide read).2

/-- A node over different atoms that is not optional. -/
theorem tells_node {kind : NodeKind} (notOptional : kind ≠ .optional) {children : List QueryNode}
    {fields : List FieldParam} (readable : ∀ param ∈ fields, param.readable = true)
    (nonempty : subFormulas kind (children.map formula) fields ≠ [])
    (once : ((subFormulas kind (children.map formula) fields).flatMap Formula.support).Nodup)
    (trees : ∀ child ∈ children, Tells (child.plain = true) child.formula.pair) :
    Tells (plain (node kind children fields) = true)
      (kind.nodeFormula (subFormulas kind (children.map formula) fields)).pair := by
  obtain ⟨each, closing⟩ := tells_subFormulas once trees
  have count := subFormulas_length kind children fields
  have all (plainTrees : ∀ child ∈ children, child.plain = true) : (children.map plain).all id = true := by
    rw [List.all_map, List.all_eq_true]
    exact plainTrees
  obtain ⟨f, gs, list⟩ := List.exists_cons_of_ne_nil nonempty
  rw [list] at once each closing count ⊢
  have single (alone : gs = []) (coincide : Coincide f.pair) :
      (f :: gs).length = 1 ∧ ∀ g ∈ f :: gs, Coincide g.pair := by
    subst alone
    exact ⟨rfl, fun g member => List.mem_singleton.mp member ▸ coincide⟩
  cases kind with
  | intersect =>
    refine (NodeKind.tells_unmarked rfl once each).imp fun coincide => plain_node.mpr ⟨readable, ?_⟩
    exact all (closing coincide).1
  | union =>
    refine (NodeKind.tells_unmarked rfl once each).imp fun coincide => plain_node.mpr ⟨readable, ?_⟩
    exact all (closing coincide).1
  | disjunct =>
    refine (NodeKind.tells_negated rfl once each).imp fun ⟨alone, coincide⟩ => plain_node.mpr ⟨readable, ?_⟩
    obtain ⟨one, coinciding⟩ := single alone coincide
    obtain ⟨plainTrees, separate⟩ := closing coinciding
    have total := subFormulas_length_of_separate .disjunct children fun param member =>
      (separate param member).resolve_left (by decide)
    rw [NodeKind.plain, all plainTrees, Bool.true_and, beq_iff_eq, ← total, list, one]
  | disjunctUnion =>
    refine (NodeKind.tells_negated rfl once each).imp fun ⟨alone, coincide⟩ => plain_node.mpr ⟨readable, ?_⟩
    obtain ⟨one, coinciding⟩ := single alone coincide
    rw [NodeKind.plain, all (closing coinciding).1, Bool.true_and, beq_iff_eq, ← count, one]
  | optional => exact absurd rfl notOptional

/-- A node with a sub-condition has a formula. -/
theorem subFormulas_ne_nil (kind : NodeKind) {children : List QueryNode} {fields : List FieldParam}
    (filled : children ≠ [] ∨ fields ≠ []) : subFormulas kind (children.map formula) fields ≠ [] := by
  intro none
  rw [subFormulas, List.append_eq_nil_iff, List.map_eq_nil_iff, List.flatMap_eq_nil_iff] at none
  rcases filled with children | fields
  · exact children none.1
  · obtain ⟨param, member⟩ := List.exists_mem_of_ne_nil _ fields
    exact kind.fieldFormulas_ne_nil param (none.2 param member)

/-- A tree over different atoms, without optional nodes, is read as it means only if it is plain. -/
theorem tells_formula {tree : QueryNode} (whole : tree.formed = true) (read : tree.readable = true)
    (strict : tree.strict = true) (once : tree.atoms.Nodup) : Tells (tree.plain = true) tree.formula.pair := by
  induction tree using induct with
  | atBase s => exact (Twofold.tells_variable _).imp fun _ => rfl
  | atNode kind children fields ih =>
    obtain ⟨filled, childrenFormed, _⟩ := formed_node whole
    obtain ⟨childrenReadable, fieldsReadable⟩ := readable_node.mp read
    obtain ⟨notOptional, childrenStrict⟩ := strict_node.mp strict
    rw [← formula_support, formula_node] at once
    have trees (child : QueryNode) (member : child ∈ children) : Tells (child.plain = true) child.formula.pair := by
      have own := (List.nodup_flatMap.mp once).1 _ (List.mem_append_left _ (List.mem_map_of_mem member))
      rw [formula_support] at own
      exact ih child member (childrenFormed child member) (childrenReadable child member)
        (childrenStrict child member) own
    rw [formula_node]
    exact tells_node notOptional fieldsReadable (subFormulas_ne_nil kind filled) once trees

/-! ## Rendering and meaning -/

/-- What a rendering says of a document, from both readings of the tree. -/
theorem evaluate_formula (document : Document) {tree : QueryNode} (whole : tree.formed = true) :
    evaluate document tree.toText =
      if tree.readable then some (tree.formula.pair document).1 else none := by
  rw [evaluate_toText document whole, part_readable, formula_pair]

/-- A plain tree is evaluated to its meaning on every document. Over different atoms and without optional nodes,
only a plain tree is. -/
theorem evaluate_eq_meaning {tree : QueryNode} (whole : tree.formed = true) :
    (tree.plain = true → ∀ document, evaluate document tree.toText = some (tree.meaning document)) ∧
      (tree.strict = true → tree.atoms.Nodup →
        (∀ document, evaluate document tree.toText = some (tree.meaning document)) → tree.plain = true) := by
  refine ⟨fun plain document => ?_, fun strict once same => ?_⟩
  · obtain ⟨readable, coincide⟩ := coincide_of_plain plain
    have both := coincide document
    rw [evaluate_formula document whole, if_pos readable, both, formula_pair]
  · have readable : tree.readable = true := by
      by_contra unreadable
      have read := same fun _ => false
      rw [evaluate_formula _ whole, if_neg unreadable] at read
      cases read
    refine (tells_formula whole readable strict once).of_coincide fun document => ?_
    have read := same document
    rw [evaluate_formula document whole, if_pos readable, Option.some.injEq] at read
    rw [read, formula_pair]

/-- `intersect(disjunct("a"), union("b", "c"), k=("v", "w"))`. -/
def plainTree : QueryNode :=
  node .intersect [node .disjunct [base ['a']] [], node .union [base ['b'], base ['c']] []]
    [{ key := ['k'], first := .scalar ['v'], rest := [.scalar ['w']] }]

/-- A document that has neither of two terms, and a tree that is plain. -/
theorem evaluate_plainTree :
    evaluate (fun _ => false) plainTree.toText = some (plainTree.meaning fun _ => false) ∧ plainTree.plain = true :=
  have rendered : ∀ document, evaluate document plainTree.toText = some (plainTree.meaning document) :=
    (evaluate_eq_meaning (by decide)).1 (by decide)
  ⟨rendered _, (evaluate_eq_meaning (by decide)).2 (by decide) (by decide) rendered⟩

/-- `disjunct("a", "b")`. -/
def twoDenied : QueryNode := node .disjunct [base ['a'], base ['b']] []

/-- A document with neither term satisfies the tree, but its rendering asks for the second term. -/
theorem twoDenied_misread :
    twoDenied.formed = true ∧ twoDenied.toText = ['(', '-', 'a', ' ', 'b', ')'] ∧
      evaluate (fun _ => false) twoDenied.toText = some false ∧ twoDenied.meaning (fun _ => false) = true := by
  decide

/-- Two terms in an optional node: the second one is required. -/
example : evaluate (fun _ => false) (node .optional [base ['a'], base ['b']] []).toText = some false := by decide

/-- A term and a range for one field: the rendering is no query. -/
example : evaluate (fun _ => false) (node .union []
    [{ key := ['k'], first := .scalar ['v'], rest := [.range none none true true] }]).toText = none := by decide

end QueryNode

end QueryString

end RedisPy
