/-
Module: Backoffice.Proofs.Sql.Outline
Purpose: The parts that the statements of a plan are written from.
Main exports: Sql.qualifier, Sql.Join, Sql.Outline, Sql.Outline.ofPlan, Sql.select_sql,
  Sql.countFiltered_sql
-/
import Backoffice.Sql.Statement

namespace Backoffice.Sql

/-!
The page and the filtered count of a plan are written from one outline: the joins, the
conditions over numbered placeholders and the keys of the order, each with the names that
it uses. What is true of the names in an outline is true of the names in both texts.
-/

/-- What qualifies the column of a field: the alias of the relation that holds the field, or
the table. -/
def qualifier (table field : String) : String :=
  match (Relation.split field).1 with
  | some relation => joinAlias relation
  | none => table

/-- A column is written by its qualifier and the last name of its field. -/
theorem column_eq (table field : String) :
    column table field = qualifier table field ++ "." ++ (Relation.split field).2 := by
  rw [column, qualifier]
  rcases Relation.split field with ⟨_ | relation, name⟩ <;> rfl

/-! ### The characters of names -/

section Characters

variable {table field path : String} {c : Char}

/-- The alias of a join is written with the characters of its path, and underscores. -/
theorem mem_joinAlias (member : c ∈ (joinAlias path).toList) : c ∈ path.toList ∨ c = '_' := by
  rw [joinAlias, String.toList_ofList, List.mem_flatMap] at member
  obtain ⟨original, inPath, written⟩ := member
  split at written
  · exact Or.inr (by simpa using written)
  · exact Or.inl (List.mem_singleton.mp written ▸ inPath)

theorem mem_split_snd (member : c ∈ (Relation.split field).2.toList) : c ∈ field.toList := by
  cases cut : Relation.split field with
  | mk relation name =>
      rw [cut] at member
      cases relation with
      | none =>
          obtain ⟨-, rfl⟩ := Relation.split_eq_none_iff.mp cut
          exact member
      | some relation =>
          obtain ⟨rfl, -⟩ := Relation.split_eq_some_iff.mp cut
          simp [member]

/-- A qualifier is written with the characters of the table and the field, and underscores. -/
theorem mem_qualifier (member : c ∈ (qualifier table field).toList) :
    c ∈ table.toList ∨ c ∈ field.toList ∨ c = '_' := by
  rw [qualifier] at member
  cases cut : Relation.split field with
  | mk relation name =>
      rw [cut] at member
      cases relation with
      | none => exact Or.inl member
      | some relation =>
          obtain ⟨rfl, -⟩ := Relation.split_eq_some_iff.mp cut
          refine Or.inr ((mem_joinAlias member).imp_left fun inRelation => ?_)
          simp [inRelation]

/-- A column has the characters of the table and of the field, a dot, and an underscore where
the field has a dot. -/
theorem mem_column (member : c ∈ (column table field).toList) :
    c ∈ table.toList ∨ c ∈ field.toList ∨ c = '_' ∨ c = '.' := by
  rw [column_eq, String.toList_append, String.toList_append, List.mem_append,
    List.mem_append] at member
  rcases member with (inQualifier | dot) | inName
  · rcases mem_qualifier inQualifier with inTable | inField | underscore
    · exact Or.inl inTable
    · exact Or.inr (Or.inl inField)
    · exact Or.inr (Or.inr (Or.inl underscore))
  · exact Or.inr (Or.inr (Or.inr (by simpa using dot)))
  · exact Or.inr (Or.inl (mem_split_snd inName))

end Characters

/-! ### Conditions, joins and the outline -/

/-- The column that a condition is on. -/
def Condition.column : Condition → String
  | .equals column _ => column
  | .oneOf column _ => column
  | .like column _ => column
  | .between column _ _ => column

/-- Conditions are on the columns of their predicates. -/
theorem columns_number (table : String) (first : Nat) (predicates : List Predicate) :
    (Condition.number table first predicates).map Condition.column =
      predicates.map fun predicate => Sql.column table predicate.field := by
  induction predicates generalizing first with
  | nil => rfl
  | cons predicate rest inductionHypothesis =>
      have head : (Condition.ofPredicate table first predicate).column =
          Sql.column table predicate.field := by cases predicate <;> rfl
      rw [Condition.number, List.map_cons, List.map_cons, head, inductionHypothesis]

/-- A relation's join: the relation joined as `label` where its `id` is the parent's column
for it. -/
structure Join where
  path : String
  relation : String
  label : String
  parent : String
deriving DecidableEq, Repr

namespace Join

/-- The join of a relation path. -/
def ofPath (table path : String) : Join where
  path := path
  relation := (Relation.split path).2
  label := joinAlias path
  parent := qualifier table path

/-- What is joined: the relation, under its label if that is another name. -/
def target (join : Join) : String :=
  if join.label = join.relation then join.relation else join.relation ++ " " ++ join.label

def text (join : Join) : String :=
  "LEFT JOIN " ++ join.target ++ " ON " ++ join.label ++ ".id = " ++ join.parent ++ "." ++
    join.relation ++ "_id"

/-- The outline of a join is written as the join clause of its path. -/
theorem text_ofPath (table path : String) : (ofPath table path).text = Sql.join table path := by
  unfold Sql.join text target ofPath qualifier
  rcases Relation.split path with ⟨_ | relation, name⟩ <;> rfl

end Join

/-- The parts of a statement between the selected columns and the page. -/
structure Outline where
  table : String
  joined : List Join
  filters : List Condition
  search : List Condition
  /-- Qualified columns with their directions. -/
  order : List (String × SortDirection)

namespace Outline

/-- The outline of a plan. The values of the filters are numbered before those of the search. -/
def ofPlan (plan : QueryPlan) (table : String) : Outline where
  table := table
  joined := plan.relations.toList.map (Join.ofPath table)
  filters := Condition.number table 1 plan.filters
  search := Condition.number table (1 + (boundValues plan.filters).length) plan.search
  order := plan.order.entries.map fun key => (column table key.1, key.2)

/-- The joins, each on a line of its own. -/
def joinText (outline : Outline) : String :=
  String.join (outline.joined.map fun join => "\n" ++ join.text)

/-- The texts between the ANDs. -/
def conjuncts (outline : Outline) : List String :=
  outline.filters.map Condition.text ++
    if outline.search.isEmpty then []
    else ["(" ++ " OR ".intercalate (outline.search.map Condition.text) ++ ")"]

def whereText (outline : Outline) : String :=
  if outline.conjuncts.isEmpty then ""
  else "\nWHERE " ++ "\n  AND ".intercalate outline.conjuncts

def orderText (outline : Outline) : String :=
  if outline.order.isEmpty then ""
  else "\nORDER BY " ++ ", ".intercalate (outline.order.map fun key =>
    key.1 ++ " " ++ key.2.keyword)

/-- The statement that selects a page. -/
def pageText (outline : Outline) (limit offset : Nat) : String :=
  "SELECT " ++ outline.table ++ ".*\nFROM " ++ outline.table ++ outline.joinText ++
    outline.whereText ++ outline.orderText ++
    "\nLIMIT " ++ toString limit ++ " OFFSET " ++ toString offset

/-- The statement that counts. -/
def countText (outline : Outline) : String :=
  "SELECT COUNT(*)\nFROM " ++ outline.table ++ outline.joinText ++ outline.whereText

variable (plan : QueryPlan) (table : String)

@[simp] theorem table_ofPlan : (ofPlan plan table).table = table := rfl

/-- The joins of the outline are those of the statement. -/
theorem joinText_ofPlan : (ofPlan plan table).joinText = joins table plan := by
  have each : ∀ path ∈ plan.relations.toList,
      "\n" ++ (Join.ofPath table path).text = "\n" ++ join table path := fun path _ => by
    rw [Join.text_ofPath]
  rw [joinText, joins, ofPlan, List.map_map]
  exact congrArg String.join (List.map_congr_left each)

theorem isEmpty_number (first : Nat) (predicates : List Predicate) :
    (Condition.number table first predicates).isEmpty = predicates.isEmpty := by
  cases predicates <;> rfl

/-- The conjuncts of the outline are those of the statement. -/
theorem conjuncts_ofPlan : (ofPlan plan table).conjuncts = Sql.conjuncts table plan := by
  rw [conjuncts, Sql.conjuncts, ofPlan, isEmpty_number]

theorem whereText_ofPlan : (ofPlan plan table).whereText = whereClause table plan := by
  rw [whereText, whereClause, conjuncts_ofPlan]
  cases Sql.conjuncts table plan <;> rfl

theorem orderText_ofPlan : (ofPlan plan table).orderText = orderClause table plan := by
  rw [orderText, orderClause, ofPlan]
  cases plan.order.entries with
  | nil => rfl
  | cons key rest => simp [Function.comp_def]

end Outline

/-- The page of a plan is written from its outline. -/
theorem select_sql (plan : QueryPlan) (table : String) :
    (select plan table).sql = (Outline.ofPlan plan table).pageText plan.limit plan.offset := by
  unfold select Outline.pageText
  rw [Outline.joinText_ofPlan, Outline.whereText_ofPlan, Outline.orderText_ofPlan,
    Outline.table_ofPlan]

/-- The filtered count of a plan is written from the same outline. -/
theorem countFiltered_sql (plan : QueryPlan) (table : String) :
    (countFiltered plan table).sql = (Outline.ofPlan plan table).countText := by
  unfold countFiltered Outline.countText
  rw [Outline.joinText_ofPlan, Outline.whereText_ofPlan, Outline.table_ofPlan]

end Backoffice.Sql
