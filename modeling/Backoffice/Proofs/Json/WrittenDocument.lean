/-
Module: Backoffice.Proofs.Json.WrittenDocument
Purpose: The document of a written value, and when it is read as the value.
Main exports: Json.Document.ofWritten, Json.Document.ofText?_render,
  Json.value_ofWritten_iff
-/
import Backoffice.Proofs.Json.ReadBack
import Backoffice.Proofs.Json.WrittenTokens

namespace Backoffice.Json

/-!
The document of a written value has the shape of the value, with its numbers as they are read
again. So the value comes back if and only if all of its numbers do, and its containers are
not nested deeper than the reader goes.
-/

namespace Document

mutual

/-- The document that the text of a value is read as. -/
def ofWritten : Json → Document
  | .null => .null
  | .bool value => .bool value
  | .number value => .number value.reread?
  | .text value => .text (.ofWritten value)
  | .array items => .array (ofWrittenItems items)
  | .object members => .object (ofWrittenMembers members)

/-- The documents of written items. -/
def ofWrittenItems : List Json → List Document
  | [] => []
  | item :: rest => ofWritten item :: ofWrittenItems rest

/-- The documents of written members. -/
def ofWrittenMembers : List (String × Json) → List (TextLiteral × Document)
  | [] => []
  | (key, value) :: rest => (.ofWritten key, ofWritten value) :: ofWrittenMembers rest

end

/-! ### The machine on the tokens of a value -/

theorem run_cons (state : State) (token : Token) (rest : List Token) :
    run state (token :: rest) = (step state token).bind fun next => run next rest := by
  rw [run]
  cases step state token <;> rfl

theorem run_of_step {state next : State} {token : Token} (taken : step state token = some next)
    (rest : List Token) : run state (token :: rest) = run next rest := by
  rw [run_cons, taken, Option.bind_some]

/-- Where a value is due, possibly as the first item of an array. -/
def Stage.StartsValue (stage : Stage) : Prop := stage = .value ∨ stage = .firstItem

theorem step_key {stage : Stage} (starts : stage = .firstKey ∨ stage = .key)
    (literal : TextLiteral) (done : List (TextLiteral × Document)) (stack : List Frame) :
    step ⟨stage, .object done :: stack⟩ (.text literal) =
      some ⟨.colon, .member done literal :: stack⟩ := by
  rcases starts with rfl | rfl <;> rfl

mutual

/-- The tokens of a value put its document into the innermost container. -/
theorem run_tokens : ∀ (value : Json) {stage : Stage}, stage.StartsValue →
    ∀ (stack : List Frame) (rest : List Token),
      run ⟨stage, stack⟩ (value.tokens ++ rest) =
        (deliver (ofWritten value) stack).bind fun next => run next rest
  | .null, _, .inl rfl, _, _ | .null, _, .inr rfl, _, _
  | .bool _, _, .inl rfl, _, _ | .bool _, _, .inr rfl, _, _
  | .number _, _, .inl rfl, _, _ | .number _, _, .inr rfl, _, _
  | .text _, _, .inl rfl, _, _ | .text _, _, .inr rfl, _, _ => run_cons _ _ _
  | .array items, stage, starts, stack, rest => by
      have opened : step ⟨stage, stack⟩ .openArray = some ⟨.firstItem, .array [] :: stack⟩ := by
        rcases starts with rfl | rfl <;> rfl
      rw [tokens, List.cons_append, run_of_step opened, List.append_assoc]
      exact run_itemTokens items (.inl rfl) [] stack rest
  | .object members, stage, starts, stack, rest => by
      have opened : step ⟨stage, stack⟩ .openObject = some ⟨.firstKey, .object [] :: stack⟩ := by
        rcases starts with rfl | rfl <;> rfl
      rw [tokens, List.cons_append, run_of_step opened, List.append_assoc]
      exact run_memberTokens members (.inl rfl) [] stack rest

/-- The tokens of items and the end of their array. -/
theorem run_itemTokens : ∀ (items : List Json) {stage : Stage},
    (stage = .firstItem ∨ stage = .value ∧ items ≠ []) →
    ∀ (done : List Document) (stack : List Frame) (rest : List Token),
      run ⟨stage, .array done :: stack⟩ (itemTokens items ++ .closeArray :: rest) =
        (deliver (.array (done.reverse ++ ofWrittenItems items)) stack).bind fun next =>
          run next rest
  | [], _, starts, done, stack, rest => by
      obtain rfl : _ = Stage.firstItem := starts.resolve_right (fun started => started.2 rfl)
      rw [ofWrittenItems, List.append_nil]
      exact run_cons _ _ _
  | [item], stage, starts, done, stack, rest => by
      have startsValue : stage.StartsValue := starts.symm.imp And.left id
      rw [itemTokens, run_tokens item startsValue, deliver, Option.bind_some, run_cons]
      simp only [step, closeArray, List.reverse_cons, ofWrittenItems]
  | item :: second :: others, stage, starts, done, stack, rest => by
      have startsValue : stage.StartsValue := starts.symm.imp And.left id
      have comma : step ⟨.separator, .array (ofWritten item :: done) :: stack⟩ .comma =
          some ⟨.value, .array (ofWritten item :: done) :: stack⟩ := rfl
      rw [itemTokens, List.append_assoc, run_tokens item startsValue, deliver, Option.bind_some,
        List.cons_append, run_of_step comma,
        run_itemTokens (second :: others) (.inr ⟨rfl, List.cons_ne_nil _ _⟩)]
      simp only [ofWrittenItems, List.reverse_cons, List.append_assoc, List.singleton_append]
      simp

/-- The tokens of members and the end of their object. -/
theorem run_memberTokens : ∀ (members : List (String × Json)) {stage : Stage},
    (stage = .firstKey ∨ stage = .key ∧ members ≠ []) →
    ∀ (done : List (TextLiteral × Document)) (stack : List Frame) (rest : List Token),
      run ⟨stage, .object done :: stack⟩ (memberTokens members ++ .closeObject :: rest) =
        (deliver (.object (done.reverse ++ ofWrittenMembers members)) stack).bind fun next =>
          run next rest
  | [], _, starts, done, stack, rest => by
      obtain rfl : _ = Stage.firstKey := starts.resolve_right (fun started => started.2 rfl)
      rw [ofWrittenMembers, List.append_nil]
      exact run_cons _ _ _
  | [(key, value)], stage, starts, done, stack, rest => by
      rw [memberTokens, List.cons_append, List.cons_append,
        run_of_step (step_key (starts.imp_right And.left) _ done stack), run_of_step rfl,
        run_tokens value (.inl rfl), deliver, Option.bind_some, run_cons]
      simp only [step, closeObject, List.reverse_cons, ofWrittenMembers]
  | (key, value) :: second :: others, stage, starts, done, stack, rest => by
      have comma : step
          ⟨.separator, .object ((.ofWritten key, ofWritten value) :: done) :: stack⟩ .comma =
          some ⟨.key, .object ((.ofWritten key, ofWritten value) :: done) :: stack⟩ := rfl
      rw [memberTokens, List.cons_append, List.cons_append, List.append_assoc,
        run_of_step (step_key (starts.imp_right And.left) _ done stack), run_of_step rfl,
        run_tokens value (.inl rfl), deliver, Option.bind_some, List.cons_append,
        run_of_step comma, run_memberTokens (second :: others) (.inr ⟨rfl, List.cons_ne_nil _ _⟩)]
      · simp [ofWrittenMembers]
      · exact List.cons_ne_nil _ _

end

/-- A written value is parsed into the document that it was written from. -/
theorem ofText?_render {value : Json} (sound : ∀ number ∈ value.numbersWithin, number.Sound) :
    ofText? value.render = some (ofWritten value) := by
  have ran := run_tokens value (.inl rfl) [] []
  rw [List.append_nil] at ran
  rw [ofText?, render, String.toList_ofList, scan?_chars sound, Option.bind_some, ofTokens?,
    State.start, ran]
  rfl

end Document

/-! ### Reading the value again -/

theorem values_cons_eq_some_iff {budget : Nat} {document : Document} {documents : List Document}
    {head : Json} {tail : List Json} :
    values budget (document :: documents) = some (head :: tail) ↔
      value budget document = some head ∧ values budget documents = some tail := by
  rw [values]
  cases value budget document <;> cases values budget documents <;> simp

theorem memberValues_cons_eq_some_iff {budget : Nat} {text : String} {escaped : Bool}
    {document : Document} {documents : List (TextLiteral × Document)} {pair : String × Json}
    {tail : List (String × Json)} :
    memberValues budget ((⟨some text, escaped⟩, document) :: documents) = some (pair :: tail) ↔
      (text = pair.1 ∧ value budget document = some pair.2) ∧
        memberValues budget documents = some tail := by
  obtain ⟨key, head⟩ := pair
  rw [memberValues]
  cases value budget document <;> cases memberValues budget documents <;> simp

/-- The keys of a written object come back in order. -/
theorem keys_of_memberValues {members pairs : List (String × Json)} {budget : Nat}
    (read : memberValues budget (Document.ofWrittenMembers members) = some pairs) :
    Assoc.keys pairs = Assoc.keys members := by
  induction members generalizing pairs with
  | nil =>
      cases read
      rfl
  | cons member rest inductionHypothesis =>
      cases pairs with
      | nil =>
          rw [Document.ofWrittenMembers, memberValues] at read
          split at read <;> cases read
      | cons pair others =>
          obtain ⟨⟨key, -⟩, later⟩ := memberValues_cons_eq_some_iff.mp read
          simpa [Assoc.keys, key] using inductionHypothesis later

mutual

/-- A value is read from the document of its text if and only if its containers are not nested
too deep and all of its numbers are read as they were. -/
theorem value_ofWritten_iff : ∀ {source : Json} {budget : Nat}, source.Distinct →
    (value budget (.ofWritten source) = some source ↔
      source.depth ≤ budget ∧ ∀ number ∈ source.numbersWithin, number.reread? = some number)
  | .null, _, _ | .bool _, _, _ | .text _, _, _ => by
      simp [Document.ofWritten, value, depth, numbersWithin, TextLiteral.ofWritten]
  | .number _, _, _ => by
      simp [Document.ofWritten, value, depth, numbersWithin]
  | .array items, budget, distinct => by
      rw [Distinct] at distinct
      cases budget with
      | zero => simp [Document.ofWritten, value, depth]
      | succ inner =>
          simp [Document.ofWritten, value, depth, numbersWithin,
            values_ofWrittenItems_iff distinct]
  | .object members, budget, distinct => by
      rw [Distinct] at distinct
      cases budget with
      | zero => simp [Document.ofWritten, value, depth]
      | succ inner =>
          rw [Document.ofWritten, value, depth, numbersWithin, Nat.succ_le_succ_iff,
            ← memberValues_ofWrittenMembers_iff distinct.2, Option.map_eq_some_iff]
          constructor
          · rintro ⟨pairs, found, same⟩
            have keys := keys_of_memberValues found
            rw [Assoc.ofPairs_of_nodup (keys ▸ distinct.1)] at same
            rw [found, Json.object.inj same]
          · intro found
            exact ⟨members, found, congrArg Json.object (Assoc.ofPairs_of_nodup distinct.1)⟩

/-- The items of an array come back just if each of them does. -/
theorem values_ofWrittenItems_iff : ∀ {items : List Json} {budget : Nat}, ItemsDistinct items →
    (values budget (Document.ofWrittenItems items) = some items ↔
      itemsDepth items ≤ budget ∧
        ∀ number ∈ itemNumbers items, number.reread? = some number)
  | [], _, _ => by simp [Document.ofWrittenItems, values, itemsDepth, itemNumbers]
  | item :: rest, budget, distinct => by
      rw [ItemsDistinct] at distinct
      rw [Document.ofWrittenItems, values_cons_eq_some_iff, value_ofWritten_iff distinct.1,
        values_ofWrittenItems_iff distinct.2, itemsDepth, itemNumbers, Nat.max_le,
        List.forall_mem_append, and_and_and_comm]

/-- The members of an object come back just if each of their values does. -/
theorem memberValues_ofWrittenMembers_iff : ∀ {members : List (String × Json)} {budget : Nat},
    MembersDistinct members →
    (memberValues budget (Document.ofWrittenMembers members) = some members ↔
      membersDepth members ≤ budget ∧
        ∀ number ∈ memberNumbers members, number.reread? = some number)
  | [], _, _ => by simp [Document.ofWrittenMembers, memberValues, membersDepth, memberNumbers]
  | (key, item) :: rest, budget, distinct => by
      rw [MembersDistinct] at distinct
      rw [Document.ofWrittenMembers, TextLiteral.ofWritten, memberValues_cons_eq_some_iff,
        eq_self, true_and, value_ofWritten_iff distinct.1,
        memberValues_ofWrittenMembers_iff distinct.2, membersDepth, memberNumbers, Nat.max_le,
        List.forall_mem_append, and_and_and_comm]

end

end Backoffice.Json
