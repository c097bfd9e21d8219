import Mathlib.Data.List.Basic
import Mathlib.Data.List.Infix

set_option autoImplicit false

-- The part of SQLite that a filtered, paged query uses, over rows of any type whose columns
-- `read` gives.
namespace Sql

inductive Value where
  | null
  | integer (value : Int)
  | text (value : String)
deriving DecidableEq, Repr

-- `argument` is what stands in the place of a placeholder once the statement is bound.
inductive Expr (κ : Type) where
  | column (name : κ)
  | literal (value : Value)
  | placeholder (index : Nat)
  | argument (value : Value)
  | instr (haystack needle : Expr κ)

inductive Condition (κ : Type) where
  | equal (left right : Expr κ)
  | greater (left right : Expr κ)

inductive Direction where
  | asc
  | desc
deriving DecidableEq, Repr

inductive Error where
  | parameterCount (given needed : Nat)
  | mismatch
  | outOfRange (column : Nat) (value : Int)
deriving DecidableEq, Repr

section Values

-- NULL sorts before every integer, and every integer before every text.
def Value.compare : Value → Value → Ordering
  | .null, .null => .eq
  | .null, _ => .lt
  | _, .null => .gt
  | .integer left, .integer right => Ord.compare left right
  | .integer _, .text _ => .lt
  | .text _, .integer _ => .gt
  | .text left, .text right => Ord.compare left right

def Value.equals : Value → Value → Option Bool
  | .null, _ => none
  | _, .null => none
  | left, right => some (decide (left = right))

def Value.exceeds : Value → Value → Option Bool
  | .null, _ => none
  | _, .null => none
  | left, right => some (left.compare right == .gt)

-- Positions count characters from 1, and 0 says that the needle does not occur.
def position (needle : List Char) : List Char → Nat
  | [] => if needle.isEmpty then 1 else 0
  | char :: rest =>
      if needle.isPrefixOf (char :: rest) then 1
      else match position needle rest with
        | 0 => 0
        | found + 1 => found + 2

def Value.toText : Value → Option String
  | .null => none
  | .integer value => some (toString value)
  | .text value => some value

def Value.instr (haystack needle : Value) : Value :=
  match haystack.toText, needle.toText with
  | some whole, some part => .integer (position part.toList whole.toList)
  | _, _ => .null

theorem position_pos_iff (needle haystack : List Char) : 0 < position needle haystack ↔ needle <:+: haystack := by
  induction haystack with
  | nil => cases needle <;> simp [position]
  | cons char rest ih =>
      rw [List.infix_cons_iff, ← ih, ← List.isPrefixOf_iff_prefix, position]
      by_cases here : needle.isPrefixOf (char :: rest) = true
      · simp [here]
      · rw [if_neg here]
        cases position needle rest <;> simp [here]

theorem Value.compare_swap (left right : Value) : left.compare right = (right.compare left).swap := by
  cases left with
  | null => cases right <;> rfl
  | integer left =>
      cases right with
      | null => rfl
      | integer right => exact @Std.OrientedCmp.eq_swap Int Ord.compare _ left right
      | text right => rfl
  | text left =>
      cases right with
      | null => rfl
      | integer right => rfl
      | text right => exact @Std.OrientedCmp.eq_swap String Ord.compare _ left right

theorem Value.compare_trans (first second third : Value) (lower : (first.compare second).isLE = true)
    (upper : (second.compare third).isLE = true) : (first.compare third).isLE = true := by
  cases first with
  | null => cases third <;> rfl
  | integer first =>
      cases second with
      | null => exact absurd lower Bool.false_ne_true
      | integer second =>
          cases third with
          | null => exact absurd upper Bool.false_ne_true
          | integer third => exact @Std.TransCmp.isLE_trans Int Ord.compare _ first second third lower upper
          | text third => rfl
      | text second =>
          cases third with
          | null => exact absurd upper Bool.false_ne_true
          | integer third => exact absurd upper Bool.false_ne_true
          | text third => rfl
  | text first =>
      cases second with
      | null => exact absurd lower Bool.false_ne_true
      | integer second => exact absurd lower Bool.false_ne_true
      | text second =>
          cases third with
          | null => exact absurd upper Bool.false_ne_true
          | integer third => exact absurd upper Bool.false_ne_true
          | text third => exact @Std.TransCmp.isLE_trans String Ord.compare _ first second third lower upper

end Values

section Conditions

variable {κ ρ : Type}

def parameter (params : List Value) (index : Nat) : Value :=
  match index with
  | 0 => .null
  | earlier + 1 => params.getD earlier .null

def Expr.eval (read : κ → Value) (params : List Value) : Expr κ → Value
  | .column name => read name
  | .literal value => value
  | .placeholder index => parameter params index
  | .argument value => value
  | .instr haystack needle => (haystack.eval read params).instr (needle.eval read params)

def Condition.truth (read : κ → Value) (params : List Value) : Condition κ → Option Bool
  | .equal left right => (left.eval read params).equals (right.eval read params)
  | .greater left right => (left.eval read params).exceeds (right.eval read params)

-- AND over three truth values: false wins over NULL, NULL over true.
def both : Option Bool → Option Bool → Option Bool
  | some false, _ => some false
  | _, some false => some false
  | some true, some true => some true
  | _, _ => none

def conjunction (read : κ → Value) (params : List Value) (conditions : List (Condition κ)) : Option Bool :=
  conditions.foldr (fun condition rest => both (condition.truth read params) rest) (some true)

def Expr.largest : Expr κ → Nat
  | .column _ => 0
  | .literal _ => 0
  | .placeholder index => index
  | .argument _ => 0
  | .instr haystack needle => max haystack.largest needle.largest

def Condition.largest : Condition κ → Nat
  | .equal left right => max left.largest right.largest
  | .greater left right => max left.largest right.largest

def largest (conditions : List (Condition κ)) : Nat :=
  conditions.foldr (fun condition rest => max condition.largest rest) 0

def Expr.bind (params : List Value) : Expr κ → Expr κ
  | .column name => .column name
  | .literal value => .literal value
  | .placeholder index => .argument (parameter params index)
  | .argument value => .argument value
  | .instr haystack needle => .instr (haystack.bind params) (needle.bind params)

def Condition.bind (params : List Value) : Condition κ → Condition κ
  | .equal left right => .equal (left.bind params) (right.bind params)
  | .greater left right => .greater (left.bind params) (right.bind params)

def Expr.uses : Expr κ → List κ × List Value
  | .column name => ([name], [])
  | .literal _ => ([], [])
  | .placeholder _ => ([], [])
  | .argument value => ([], [value])
  | .instr haystack needle => (haystack.uses.1 ++ needle.uses.1, haystack.uses.2 ++ needle.uses.2)

def Condition.uses : Condition κ → List κ × List Value
  | .equal left right => (left.uses.1 ++ right.uses.1, left.uses.2 ++ right.uses.2)
  | .greater left right => (left.uses.1 ++ right.uses.1, left.uses.2 ++ right.uses.2)

theorem both_true_iff (left right : Option Bool) :
    both left right = some true ↔ left = some true ∧ right = some true := by
  rcases left with _ | _ | _ <;> rcases right with _ | _ | _ <;> simp [both]

theorem conjunction_true_iff (read : κ → Value) (params : List Value) (conditions : List (Condition κ)) :
    conjunction read params conditions = some true ↔
      ∀ condition ∈ conditions, condition.truth read params = some true := by
  induction conditions with
  | nil => simp [conjunction]
  | cons condition rest ih =>
      rw [List.forall_mem_cons, ← ih, ← both_true_iff]
      rfl

theorem Expr.eval_bind (read : κ → Value) (params others : List Value) (expr : Expr κ) :
    (expr.bind params).eval read others = expr.eval read params := by
  induction expr with
  | column name => rfl
  | literal value => rfl
  | placeholder index => rfl
  | argument value => rfl
  | instr haystack needle first second => simp only [Expr.bind, Expr.eval, first, second]

theorem Condition.truth_bind (read : κ → Value) (params others : List Value) (condition : Condition κ) :
    (condition.bind params).truth read others = condition.truth read params := by
  cases condition <;> simp only [Condition.bind, Condition.truth, Expr.eval_bind]

theorem conjunction_bound_iff (read : κ → Value) (params : List Value) (conditions : List (Condition κ)) :
    conjunction read params conditions = some true ↔
      ∀ condition ∈ conditions.map (Condition.bind params), condition.truth read [] = some true := by
  rw [conjunction_true_iff, List.forall_mem_map]
  simp only [Condition.truth_bind]

theorem parameter_append (params more : List Value) (index : Nat) (inside : index ≤ params.length) :
    parameter (params ++ more) index = parameter params index := by
  cases index with
  | zero => rfl
  | succ earlier =>
      have there : (params ++ more)[earlier]? = params[earlier]? := List.getElem?_append_left inside
      simp only [parameter, List.getD_eq_getElem?_getD, there]

theorem parameter_after (params more : List Value) (index : Nat) :
    parameter (params ++ more) (params.length + index + 1) = parameter more (index + 1) := by
  simp only [parameter, List.getD_eq_getElem?_getD, List.getElem?_append_right (Nat.le_add_right _ _),
    Nat.add_sub_cancel_left]

theorem Expr.bind_append (params more : List Value) (expr : Expr κ) (inside : expr.largest ≤ params.length) :
    expr.bind (params ++ more) = expr.bind params := by
  induction expr with
  | column name => rfl
  | literal value => rfl
  | placeholder index => exact congrArg Expr.argument (parameter_append params more index inside)
  | argument value => rfl
  | instr haystack needle first second =>
      have bounds := Nat.max_le.mp inside
      simp only [Expr.bind, first bounds.1, second bounds.2]

theorem Condition.bind_append (params more : List Value) (condition : Condition κ)
    (inside : condition.largest ≤ params.length) : condition.bind (params ++ more) = condition.bind params := by
  cases condition with
  | equal left right =>
      have bounds := Nat.max_le.mp inside
      simp only [Condition.bind, Expr.bind_append params more left bounds.1, Expr.bind_append params more right bounds.2]
  | greater left right =>
      have bounds := Nat.max_le.mp inside
      simp only [Condition.bind, Expr.bind_append params more left bounds.1, Expr.bind_append params more right bounds.2]

theorem largest_append (first second : List (Condition κ)) :
    largest (first ++ second) = max (largest first) (largest second) := by
  induction first with
  | nil => simp [largest]
  | cons condition rest ih =>
      have unfolded : largest (condition :: rest ++ second) = max condition.largest (largest (rest ++ second)) := rfl
      rw [unfolded, ih, ← Nat.max_assoc]
      rfl

theorem largest_of_member (conditions : List (Condition κ)) (condition : Condition κ) (member : condition ∈ conditions) :
    condition.largest ≤ largest conditions := by
  induction conditions with
  | nil => cases member
  | cons first rest ih =>
      rcases List.mem_cons.mp member with same | later
      · subst same
        exact Nat.le_max_left _ _
      · exact (ih later).trans (Nat.le_max_right _ _)

theorem map_bind_append (params more : List Value) (conditions : List (Condition κ))
    (inside : largest conditions ≤ params.length) :
    conditions.map (Condition.bind (params ++ more)) = conditions.map (Condition.bind params) := by
  apply List.map_congr_left
  intro condition member
  exact Condition.bind_append params more condition ((largest_of_member conditions condition member).trans inside)

end Conditions

section Statements

variable {κ ρ : Type}

def before (read : ρ → κ → Value) : List (κ × Direction) → ρ → ρ → Bool
  | [], _, _ => true
  | (column, direction) :: rest, left, right =>
      let order := match direction with
        | .asc => (read left column).compare (read right column)
        | .desc => (read right column).compare (read left column)
      match order with
      | .lt => true
      | .gt => false
      | .eq => before read rest left right

-- A negative LIMIT is no limit and a negative OFFSET is none; neither may be NULL or a text.
def limited (limit : Value) (rows : List ρ) : Except Error (List ρ) :=
  match limit with
  | .integer value => .ok (if value < 0 then rows else rows.take value.toNat)
  | _ => .error .mismatch

def skipped (offset : Value) (rows : List ρ) : Except Error (List ρ) :=
  match offset with
  | .integer value => .ok (rows.drop value.toNat)
  | _ => .error .mismatch

structure Select (κ : Type) where
  conditions : List (Condition κ)
  order : List (κ × Direction)
  limit : Expr κ
  offset : Expr κ

def matching (read : ρ → κ → Value) (params : List Value) (conditions : List (Condition κ)) (rows : List ρ) : List ρ :=
  rows.filter fun row => conjunction (read row) params conditions == some true

-- As many parameters have to be bound as the largest number that a placeholder has.
def checkCount (needed : Nat) (params : List Value) : Except Error Unit :=
  if params.length = needed then .ok () else .error (.parameterCount params.length needed)

def count (read : ρ → κ → Value) (conditions : List (Condition κ)) (params : List Value) (rows : List ρ) :
    Except Error Int :=
  (checkCount (largest conditions) params).map fun _ => ((matching read params conditions rows).length : Int)

def Select.largest (select : Select κ) : Nat :=
  max (Sql.largest select.conditions) (max select.limit.largest select.offset.largest)

def Select.run (read : ρ → κ → Value) (select : Select κ) (params : List Value) (rows : List ρ) :
    Except Error (List ρ) := do
  checkCount select.largest params
  let sorted := (matching read params select.conditions rows).mergeSort (before read select.order)
  let rest ← skipped (select.offset.eval (fun _ => .null) params) sorted
  limited (select.limit.eval (fun _ => .null) params) rest

theorem Select.run_ok (read : ρ → κ → Value) (select : Select κ) (params : List Value) (rows : List ρ) (limit offset : Nat)
    (length : params.length = select.largest)
    (limitIs : select.limit.eval (fun _ => .null) params = .integer limit)
    (offsetIs : select.offset.eval (fun _ => .null) params = .integer offset) :
    select.run read params rows =
      .ok ((((matching read params select.conditions rows).mergeSort (before read select.order)).drop offset).take
        limit) := by
  have notNegative : ¬(limit : Int) < 0 := Int.not_lt.mpr (Int.natCast_nonneg limit)
  rw [Select.run, checkCount, if_pos length, limitIs, offsetIs]
  simp only [skipped, limited, if_neg notNegative, Int.toNat_natCast]
  rfl

theorem matching_append (read : ρ → κ → Value) (params more : List Value) (conditions : List (Condition κ))
    (rows : List ρ) (inside : largest conditions ≤ params.length) :
    matching read (params ++ more) conditions rows = matching read params conditions rows := by
  apply List.filter_congr
  intro row _
  rw [Bool.eq_iff_iff, beq_iff_eq, beq_iff_eq, conjunction_bound_iff, conjunction_bound_iff,
    map_bind_append params more conditions inside]

theorem pages_flatMap (rows : List ρ) (size pages : Nat) :
    (List.range pages).flatMap (fun page => (rows.drop (page * size)).take size) = rows.take (pages * size) := by
  induction pages with
  | zero => simp
  | succ pages ih =>
      rw [List.range_succ, List.flatMap_append, ih, Nat.succ_mul, List.take_add]
      simp

end Statements

section Ordering

variable {κ ρ : Type}

def Direction.compare (direction : Direction) (left right : Value) : Ordering :=
  match direction with
  | .asc => left.compare right
  | .desc => right.compare left

instance (direction : Direction) : Std.TransCmp direction.compare where
  eq_swap := by
    intro left right
    cases direction with
    | asc => exact Value.compare_swap left right
    | desc => exact Value.compare_swap right left
  isLE_trans := by
    intro first second third lower upper
    cases direction with
    | asc => exact Value.compare_trans first second third lower upper
    | desc => exact Value.compare_trans third second first upper lower

theorem before_cons_iff (read : ρ → κ → Value) (column : κ) (direction : Direction) (rest : List (κ × Direction))
    (left right : ρ) :
    before read ((column, direction) :: rest) left right = true ↔
      direction.compare (read left column) (read right column) = .lt ∨
        (direction.compare (read left column) (read right column) = .eq ∧ before read rest left right = true) := by
  have unfolded : before read ((column, direction) :: rest) left right =
      match direction.compare (read left column) (read right column) with
      | .lt => true
      | .gt => false
      | .eq => before read rest left right := by
    cases direction <;> rfl
  rw [unfolded]
  cases direction.compare (read left column) (read right column) <;> simp

theorem before_total (read : ρ → κ → Value) (order : List (κ × Direction)) (left right : ρ) :
    (before read order left right || before read order right left) = true := by
  rw [Bool.or_eq_true]
  induction order with
  | nil => exact Or.inl rfl
  | cons key rest ih =>
      obtain ⟨column, direction⟩ := key
      rw [before_cons_iff, before_cons_iff,
        @Std.OrientedCmp.eq_swap _ direction.compare _ (read right column) (read left column)]
      cases direction.compare (read left column) (read right column) with
      | lt => exact Or.inl (Or.inl rfl)
      | gt => exact Or.inr (Or.inl rfl)
      | eq => simpa using ih

theorem before_trans (read : ρ → κ → Value) (order : List (κ × Direction)) (first second third : ρ)
    (lower : before read order first second = true) (upper : before read order second third = true) :
    before read order first third = true := by
  induction order with
  | nil => rfl
  | cons key rest ih =>
      obtain ⟨column, direction⟩ := key
      rw [before_cons_iff] at lower upper ⊢
      rcases lower with less | ⟨same, later⟩
      · rcases upper with lessAgain | ⟨sameAgain, _⟩
        · exact Or.inl (Std.TransCmp.lt_trans less lessAgain)
        · exact Or.inl (Std.TransCmp.lt_of_lt_of_eq less sameAgain)
      · rcases upper with lessAgain | ⟨sameAgain, laterAgain⟩
        · exact Or.inl (Std.TransCmp.lt_of_eq_of_lt same lessAgain)
        · exact Or.inr ⟨Std.TransCmp.eq_trans same sameAgain, ih later laterAgain⟩

theorem sorted_before (read : ρ → κ → Value) (order : List (κ × Direction)) (rows : List ρ) :
    (rows.mergeSort (before read order)).Pairwise fun left right => before read order left right = true :=
  List.pairwise_mergeSort (before_trans read order) (before_total read order) rows

end Ordering

section Builder

variable {κ : Type}

-- A WHERE clause that is built condition by condition, each with a parameter of its own; `idx`
-- is the number of the last placeholder.
structure Where (κ : Type) where
  conditions : List (Condition κ)
  params : List Value
  idx : Nat

def Where.add (clause : Where κ) (shape : Expr κ → Condition κ) (value : Value) : Where κ :=
  { conditions := clause.conditions ++ [shape (.placeholder (clause.idx + 1))]
    params := clause.params ++ [value]
    idx := clause.idx + 1 }

def Where.addOption (clause : Where κ) (shape : Expr κ → Condition κ) (value : Option Value) : Where κ :=
  match value with
  | some given => clause.add shape given
  | none => clause

def Where.bound (clause : Where κ) : List (Condition κ) :=
  clause.conditions.map (Condition.bind clause.params)

structure Shape (shape : Expr κ → Condition κ) : Prop where
  largest : ∀ index, (shape (.placeholder index)).largest = index
  bind : ∀ params index, (shape (.placeholder index)).bind params = shape (.argument (parameter params index))

-- A clause whose placeholders are numbered as its parameters are, and which reads as the given
-- conditions once it is bound.
structure Where.ReadsAs (clause : Where κ) (conditions : List (Condition κ)) : Prop where
  last : Sql.largest clause.conditions = clause.idx
  length : clause.params.length = clause.idx
  bound : clause.bound = conditions

theorem Where.ReadsAs.add {clause : Where κ} {conditions : List (Condition κ)} (readsAs : clause.ReadsAs conditions)
    {shape : Expr κ → Condition κ} (shaped : Shape shape) (value : Value) :
    (clause.add shape value).ReadsAs (conditions ++ [shape (.argument value)]) where
  last := by
    have added : Sql.largest [shape (.placeholder (clause.idx + 1))] = clause.idx + 1 := by
      simp [Sql.largest, shaped.largest]
    rw [Where.add, largest_append, readsAs.last, added]
    exact Nat.max_eq_right (Nat.le_succ _)
  length := by
    simp [Where.add, readsAs.length]
  bound := by
    have earlier : clause.conditions.map (Condition.bind (clause.params ++ [value])) = conditions := by
      rw [← readsAs.bound]
      exact map_bind_append clause.params [value] clause.conditions (readsAs.last.trans readsAs.length.symm).le
    have own : parameter (clause.params ++ [value]) (clause.idx + 1) = value := by
      rw [← readsAs.length]
      exact parameter_after clause.params [value] 0
    simp only [Where.bound, Where.add, List.map_append, List.map_cons, List.map_nil, earlier, shaped.bind, own]

theorem Where.ReadsAs.addOption {clause : Where κ} {conditions : List (Condition κ)} (readsAs : clause.ReadsAs conditions)
    {shape : Expr κ → Condition κ} (shaped : Shape shape) (value : Option Value) :
    (clause.addOption shape value).ReadsAs
      (conditions ++ (value.map fun given => shape (.argument given)).toList) := by
  cases value with
  | none => simpa [Where.addOption] using readsAs
  | some given => exact readsAs.add shaped given

end Builder

end Sql
