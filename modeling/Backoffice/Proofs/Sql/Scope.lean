/-
Module: Backoffice.Proofs.Sql.Scope
Purpose: The names in the statements of a compiled plan: what they refer to, and when one name
  refers to two things.
Main exports: Sql.Outline.columns, Sql.Outline.Scoped, Sql.compiled_statements_scoped,
  Relation.Crowded, Sql.compiled_labels_distinct, Sql.labels_not_distinct
-/
import Mathlib.Data.List.Infix
import Mathlib.Data.List.Pairwise
import Backoffice.Proofs.Grid.PlanRelations
import Backoffice.Proofs.Sql.Outline

namespace Backoffice

namespace Sql

/-!
A column is qualified by the relation before its last dot, and a plan loads that relation, so
every qualifier is introduced by a join. Labels are paths with two underscores for every dot,
so they are only as distinct as the paths are without theirs.
-/

/-- A column is qualified by the alias of the relation that it hangs on. -/
theorem qualifier_of_parent {field parent : String} (hangs : Relation.parent? field = some parent)
    (table : String) : qualifier table field = joinAlias parent := by
  rw [Relation.parent?] at hangs
  rw [qualifier, hangs]

/-- A column of the model is qualified by the table. -/
theorem qualifier_of_base {field : String} (base : Relation.parent? field = none)
    (table : String) : qualifier table field = table := by
  rw [Relation.parent?] at base
  rw [qualifier, base]

namespace Outline

/-- The columns in the conditions and the order. -/
def columns (outline : Outline) : List String :=
  outline.filters.map Condition.column ++ outline.search.map Condition.column ++
    outline.order.map Prod.fst

/-- Whether every name refers to something that stands before it. What qualifies a column, up
to its last dot, is the table or the label of a join; and a join is on the table, or on the
label of an earlier join of the relation that its own path continues. -/
structure Scoped (outline : Outline) : Prop where
  columns : ∀ column ∈ outline.columns, ∃ qualifier name,
    column = qualifier ++ "." ++ name ∧ '.' ∉ name.toList ∧
      (qualifier = outline.table ∨ ∃ join ∈ outline.joined, join.label = qualifier)
  joined : ∀ before join after, outline.joined = before ++ join :: after →
    (Relation.parent? join.path = none ∧ join.parent = outline.table) ∨
      ∃ earlier ∈ before, Relation.parent? join.path = some earlier.path ∧
        join.parent = earlier.label

variable {plan : QueryPlan} {table : String}

/-- The columns of a statement are those of its conditions and of its order. -/
theorem mem_columns_ofPlan {column : String} (member : column ∈ (ofPlan plan table).columns) :
    ∃ field, column = Sql.column table field ∧
      ((∃ predicate ∈ plan.filters ++ plan.search, predicate.field = field) ∨
        field ∈ plan.order.keys) := by
  simp only [columns, ofPlan, columns_number, ← List.map_append, List.map_map] at member
  rcases List.mem_append.mp member with condition | key
  · obtain ⟨predicate, inPlan, rfl⟩ := List.mem_map.mp condition
    exact ⟨_, rfl, Or.inl ⟨predicate, inPlan, rfl⟩⟩
  · obtain ⟨entry, inOrder, rfl⟩ := List.mem_map.mp key
    exact ⟨_, rfl, Or.inr (List.mem_map_of_mem inOrder)⟩

/-- A plan that loads the relations of its fields, parents first, has a scoped outline. -/
theorem scoped_ofPlan (grounded : Relation.ParentsFirst plan.relations.toList)
    (loaded : ∀ field parent, Relation.parent? field = some parent →
      (∃ predicate ∈ plan.filters ++ plan.search, predicate.field = field) ∨
        field ∈ plan.order.keys → parent ∈ plan.relations.toList) :
    (ofPlan plan table).Scoped where
  columns := by
    intro column member
    obtain ⟨field, rfl, used⟩ := mem_columns_ofPlan member
    refine ⟨qualifier table field, _, column_eq table field, Relation.split_snd_free field, ?_⟩
    cases hangs : Relation.parent? field with
    | none => exact Or.inl (qualifier_of_base hangs table)
    | some parent =>
        have joined := List.mem_map_of_mem (f := Join.ofPath table) (loaded field parent hangs used)
        exact Or.inr ⟨_, joined, (qualifier_of_parent hangs table).symm⟩
  joined := by
    intro before join after cut
    obtain ⟨paths, others, cutPaths, rfl, cutOthers⟩ := List.map_eq_append_iff.mp cut
    obtain ⟨path, rest, rfl, rfl, rfl⟩ := List.map_eq_cons_iff.mp cutOthers
    cases hangs : Relation.parent? path with
    | none => exact Or.inl ⟨hangs, qualifier_of_base hangs table⟩
    | some parent =>
        have earlier : parent ∈ paths := grounded paths path rest cutPaths parent hangs
        exact Or.inr ⟨Join.ofPath table parent, List.mem_map_of_mem earlier, hangs,
          qualifier_of_parent hangs table⟩

end Outline

/-- In both statements of a compiled plan every qualifier is the table or the label of a join,
and every join is on the table or on the earlier join of the relation that it continues. -/
theorem compiled_statements_scoped {properties : Properties} {defaults : Declaration}
    (defaultsDotless : defaults.DotlessEav)
    (dotless : ∀ column ∈ properties.entries, column.2.DotlessEav) (request : GridRequest)
    (table : String) :
    let plan := QueryPlan.compileWithDefaults properties request defaults
    let outline := Outline.ofPlan plan table
    (select plan table).sql = outline.pageText plan.limit plan.offset ∧
    (countFiltered plan table).sql = outline.countText ∧
    outline.joined.map Join.path = plan.relations.toList ∧
    outline.Scoped := by
  intro plan outline
  refine ⟨select_sql plan table, countFiltered_sql plan table, ?_, ?_⟩
  · exact (List.map_map ..).trans (List.map_id _)
  · apply Outline.scoped_ofPlan (QueryPlan.parentsFirst_relations request defaultsDotless dotless)
    rintro field parent hangs (⟨predicate, inPlan, rfl⟩ | inOrder)
    · exact QueryPlan.parent_mem_relations request (QueryPlan.field_mem_keys request inPlan) hangs
    · have listed := (QueryPlan.keys_order_sublist request defaults properties).subset inOrder
      exact QueryPlan.parent_mem_relations request listed hangs

/-- Articles with a field two relations away and attributes beside both kinds of fields. -/
def profiledColumns : Properties :=
  .ofPairs [("title", [("label", .text "Title")]),
    ("author.profile.city", [("type", .text "select"), ("eav", .text "meta")])]

/-- Attributes for the columns that declare none. -/
def attributeDefaults : Declaration := [("eav", .text "extra")]

/-- Articles of two cities, the last city first. -/
def profiledRequest : GridRequest :=
  { filters := .ofPairs [(1, .array [.text "Bern", .text "Basel"])], sorts := [(1, .descending)],
    search := "lake" }

/-- Three conditions, one of them on the table, and the order are on the third of four joins. -/
theorem profiledColumns_scoped :
    let plan := QueryPlan.compileWithDefaults profiledColumns profiledRequest attributeDefaults
    (Outline.ofPlan plan "article").Scoped ∧
    (Outline.ofPlan plan "article").columns =
      ["author__profile.city", "article.title", "author__profile.city", "author__profile.city"] ∧
    (Outline.ofPlan plan "article").joined.map Join.label =
      ["extra", "author", "author__profile", "author__profile__meta"] := by
  intro plan
  have defaultsDotless : attributeDefaults.DotlessEav := by
    intro member inside _
    obtain rfl := List.mem_singleton.mp inside
    decide +kernel
  have dotless : ∀ column ∈ profiledColumns.entries, column.2.DotlessEav := by
    intro column listed member inside isEav
    have plain : (profiledColumns.entries.all fun column => column.2.all fun member =>
        member.1 ≠ "eav" || !member.2.display.toList.contains '.') = true := by decide +kernel
    have here := List.all_eq_true.mp (List.all_eq_true.mp plain column listed) member inside
    simpa [isEav] using here
  obtain ⟨-, -, -, resolved⟩ := compiled_statements_scoped defaultsDotless dotless profiledRequest
    "article"
  refine ⟨resolved, ?_, ?_⟩ <;> decide +kernel

end Sql

/-! ### Labels -/

/-- Whether an underscore stands beside another one or beside a dot. -/
def Relation.Crowded (path : List Char) : Prop :=
  ['_', '_'] <:+: path ∨ ['_', '.'] <:+: path ∨ ['.', '_'] <:+: path

theorem Relation.Crowded.cons {rest : List Char} (crowded : Relation.Crowded rest) (c : Char) :
    Relation.Crowded (c :: rest) :=
  crowded.imp List.infix_cons (Or.imp List.infix_cons List.infix_cons)

namespace Sql

/-- What a character of a path becomes in the label of its join. -/
def labelChars (c : Char) : List Char := if c = '.' then ['_', '_'] else [c]

theorem labelChars_dot : labelChars '.' = ['_', '_'] := rfl

theorem labelChars_of_ne {c : Char} (plain : c ≠ '.') : labelChars c = [c] := if_neg plain

/-- In an alias every dot is written as two underscores. -/
theorem toList_joinAlias (path : String) :
    (joinAlias path).toList = path.toList.flatMap labelChars := String.toList_ofList

/-- The two underscores of a dot are no underscores of a path that is not crowded. -/
theorem crowded_of_underscore {rest after : List Char}
    (same : rest.flatMap labelChars = '_' :: after) : Relation.Crowded ('_' :: rest) := by
  cases rest with
  | nil => cases same
  | cons c others =>
      by_cases dot : c = '.'
      · exact Or.inr (Or.inl ⟨[], others, by rw [dot]; rfl⟩)
      · rw [List.flatMap_cons, labelChars_of_ne dot] at same
        have underscore : c = '_' := (List.cons.inj same).1
        exact Or.inl ⟨[], others, by rw [underscore]; rfl⟩

/-- Two paths share an alias only if an underscore in one of them stands beside another or a dot.
-/
theorem crowded_of_flatMap_labelChars_eq {path other : List Char}
    (same : path.flatMap labelChars = other.flatMap labelChars) :
    path = other ∨ Relation.Crowded path ∨ Relation.Crowded other := by
  induction path generalizing other with
  | nil =>
      cases other with
      | nil => exact Or.inl rfl
      | cons d others => by_cases dot : d = '.' <;> simp [labelChars, dot] at same
  | cons c rest inductionHypothesis =>
      cases other with
      | nil => by_cases dot : c = '.' <;> simp [labelChars, dot] at same
      | cons d others =>
          simp only [List.flatMap_cons] at same
          have further (restSame : rest.flatMap labelChars = others.flatMap labelChars)
              (headSame : c = d) :
              c :: rest = d :: others ∨ Relation.Crowded (c :: rest) ∨
                Relation.Crowded (d :: others) := by
            rcases inductionHypothesis restSame with equal | crowded | crowded
            · exact Or.inl (by rw [headSame, equal])
            · exact Or.inr (Or.inl (crowded.cons c))
            · exact Or.inr (Or.inr (crowded.cons d))
          by_cases dot : c = '.' <;> by_cases otherDot : d = '.'
          · rw [dot, otherDot] at same
            exact further (List.append_cancel_left same) (dot.trans otherDot.symm)
          · rw [dot, labelChars_dot, labelChars_of_ne otherDot] at same
            obtain ⟨underscore, tail⟩ := List.cons.inj same
            exact Or.inr (Or.inr (underscore ▸ crowded_of_underscore tail.symm))
          · rw [otherDot, labelChars_dot, labelChars_of_ne dot] at same
            obtain ⟨underscore, tail⟩ := List.cons.inj same
            exact Or.inr (Or.inl (underscore ▸ crowded_of_underscore tail))
          · rw [labelChars_of_ne dot, labelChars_of_ne otherDot] at same
            obtain ⟨headSame, tail⟩ := List.cons.inj same
            exact further tail headSame

/-- Two paths with one label are one path, unless an underscore in one of them is crowded. -/
theorem crowded_of_joinAlias_eq {path other : String} (same : joinAlias path = joinAlias other) :
    path = other ∨ Relation.Crowded path.toList ∨ Relation.Crowded other.toList := by
  rw [← String.toList_inj, toList_joinAlias, toList_joinAlias] at same
  rw [← String.toList_inj]
  exact crowded_of_flatMap_labelChars_eq same

theorem flatMap_labelChars_of_not_mem {path : List Char} (plain : '.' ∉ path) :
    path.flatMap labelChars = path := by
  induction path with
  | nil => rfl
  | cons c rest inductionHypothesis =>
      have apart : c ≠ '.' := fun dot => plain (dot ▸ List.mem_cons_self)
      have restPlain : '.' ∉ rest := fun member => plain (List.mem_cons_of_mem _ member)
      rw [List.flatMap_cons, labelChars_of_ne apart, inductionHypothesis restPlain]
      rfl

/-- A label without two underscores in a row is the path itself. -/
theorem eq_or_infix_of_joinAlias_eq {path name : String} (same : joinAlias path = name) :
    path = name ∨ ['_', '_'] <:+: name.toList := by
  rw [← String.toList_inj, toList_joinAlias] at same
  by_cases dotted : '.' ∈ path.toList
  · obtain ⟨before, after, cut⟩ := List.append_of_mem dotted
    refine Or.inr ⟨before.flatMap labelChars, after.flatMap labelChars, ?_⟩
    rw [← same, cut, List.flatMap_append, List.flatMap_cons, labelChars_dot, List.append_assoc]
  · rw [flatMap_labelChars_of_not_mem dotted] at same
    exact Or.inl (String.toList_inj.mp same)

/-- Two joins of a compiled plan have one label only where an underscore in a path is crowded,
and a label is the table's name only if the relation has this name or the name has two
underscores in a row. Without these, labels are distinct and none is the table's name. -/
theorem compiled_labels_distinct (properties : Properties) (defaults : Declaration)
    (request : GridRequest) (table : String) :
    let plan := QueryPlan.compileWithDefaults properties request defaults
    let joined := (Outline.ofPlan plan table).joined
    (select plan table).sql =
      (Outline.ofPlan plan table).pageText plan.limit plan.offset ∧
    joined.Pairwise (fun first second => first.path ≠ second.path ∧
      (first.label = second.label →
        Relation.Crowded first.path.toList ∨ Relation.Crowded second.path.toList)) ∧
    (∀ join ∈ joined, join.label = table →
      join.path = table ∨ ['_', '_'] <:+: table.toList) ∧
    ((∀ join ∈ joined, ¬ Relation.Crowded join.path.toList ∧ join.path ≠ table) →
      ¬ ['_', '_'] <:+: table.toList →
        (joined.map Join.label).Nodup ∧ table ∉ joined.map Join.label) := by
  intro plan joined
  have pairs : joined.Pairwise fun first second => first.path ≠ second.path ∧
      (first.label = second.label →
        Relation.Crowded first.path.toList ∨ Relation.Crowded second.path.toList) := by
    refine List.pairwise_map.mpr (plan.relations.distinct.imp fun {path other} apart => ?_)
    exact ⟨apart, fun same => (crowded_of_joinAlias_eq same).resolve_left apart⟩
  have onTable : ∀ join ∈ joined, join.label = table →
      join.path = table ∨ ['_', '_'] <:+: table.toList := by
    rintro join member same
    obtain ⟨path, -, rfl⟩ := List.mem_map.mp member
    exact eq_or_infix_of_joinAlias_eq same
  refine ⟨select_sql plan table, pairs, onTable, fun plain tablePlain => ⟨?_, ?_⟩⟩
  · refine List.pairwise_map.mpr (pairs.imp_of_mem ?_)
    rintro first second member otherMember ⟨-, crowded⟩ same
    rcases crowded same with inFirst | inSecond
    · exact (plain first member).1 inFirst
    · exact (plain second otherMember).1 inSecond
  · rintro member
    obtain ⟨join, joinMember, same⟩ := List.mem_map.mp member
    rcases onTable join joinMember same with named | doubled
    · exact (plain join joinMember).2 named
    · exact tablePlain doubled

/-- A relation inside another one, and one with two underscores in its name. -/
def crossedColumns : Properties :=
  .ofPairs [("author.profile.name", [("label", .text "Name")]),
    ("author__profile.email", [("label", .text "Mail")])]

/-- A column of a relation that is named like the table it hangs on. -/
def selfColumns : Properties := .ofPairs [("comment.title", [("label", .text "Answer to")])]

/-- Different relations can share a label, and a relation can share its label with the table. -/
theorem labels_not_distinct :
    (Outline.ofPlan (.compile crossedColumns {}) "post").joined.map Join.label =
      ["author", "author__profile", "author__profile"] ∧
    ¬ ((Outline.ofPlan (.compile crossedColumns {}) "post").joined.map Join.label).Nodup ∧
    "comment" ∈ (Outline.ofPlan (.compile selfColumns {}) "comment").joined.map Join.label := by
  decide +kernel

end Sql

end Backoffice
