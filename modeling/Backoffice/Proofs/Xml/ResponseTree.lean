/-
Module: Backoffice.Proofs.Xml.ResponseTree
Purpose: Which answers of the grid are read back from their XML text.
Main exports: Json.nodes, Json.keysWithin, GridResponse.tree,
  response_read_back_iff_keys_are_names
-/
import Backoffice.Grid.Response
import Backoffice.Proofs.Xml.Reader

namespace Backoffice

open Xml

/-!
The text of a value is escaped, but a key is written into its tags as it is. So an answer is
read back exactly when the keys in its cells can be names: one that ends its tag early makes
the rest of it markup, and the text of another answer can be written in this way.
-/

namespace Json

mutual

/-- The content of the element of a value. -/
def nodes : Json → List Node
  | .null => []
  | .bool true => [.text "true"]
  | .bool false => [.text "false"]
  | .number value => textNodes value.chars
  | .text value => textNodes value.toList
  | .array items => itemNodes items
  | .object members => memberNodes members

/-- One element per item. -/
def itemNodes : List Json → List Node
  | [] => []
  | item :: rest => .element "item" item.nodes :: itemNodes rest

/-- One element per member, named by its key. -/
def memberNodes : List (String × Json) → List Node
  | [] => []
  | (key, value) :: rest => .element key value.nodes :: memberNodes rest

end

mutual

/-- The keys of all objects in a value. -/
def keysWithin : Json → List String
  | .array items => itemKeys items
  | .object members => memberKeys members
  | _ => []

/-- The keys of all objects in items. -/
def itemKeys : List Json → List String
  | [] => []
  | item :: rest => item.keysWithin ++ itemKeys rest

/-- The keys of members, and of all objects in their values. -/
def memberKeys : List (String × Json) → List String
  | [] => []
  | (key, value) :: rest => key :: (value.keysWithin ++ memberKeys rest)

end

theorem itemKeys_eq_flatMap (items : List Json) : itemKeys items = items.flatMap keysWithin := by
  induction items with
  | nil => rfl
  | cons item rest inductionHypothesis => simp [itemKeys, inductionHypothesis]

mutual

/-- Every key names an element. -/
theorem key_named_of_mem (name : String) : ∀ value : Json,
    name ∈ value.keysWithin → name ∈ Node.namesOf value.nodes
  | .array items => key_named_of_mem_items name items
  | .object members => key_named_of_mem_members name members
  | .null | .bool _ | .number _ | .text _ => by simp [keysWithin]

theorem key_named_of_mem_items (name : String) : ∀ items : List Json,
    name ∈ itemKeys items → name ∈ Node.namesOf (itemNodes items)
  | [] => by simp [itemKeys]
  | item :: rest => by
      have inItem := key_named_of_mem name item
      have inRest := key_named_of_mem_items name rest
      simp only [itemKeys, itemNodes, Node.namesOf, Node.names, List.mem_append,
        List.mem_cons]
      grind

theorem key_named_of_mem_members (name : String) : ∀ members : List (String × Json),
    name ∈ memberKeys members → name ∈ Node.namesOf (memberNodes members)
  | [] => by simp [memberKeys]
  | (key, value) :: rest => by
      have inValue := key_named_of_mem name value
      have inRest := key_named_of_mem_members name rest
      simp only [memberKeys, memberNodes, Node.namesOf, Node.names, List.mem_append,
        List.mem_cons]
      grind

end

end Json

/-- The tree of an answer: the element of its JSON value. -/
def GridResponse.tree (response : GridResponse) : Node :=
  .element "xml" response.toJson.nodes

namespace Xml.NameRule

variable {rule : NameRule}

/-- The name of items is accepted under every rule. -/
theorem accepts_item : rule.accepts "item" = true := rule.own "item" (by decide)

/-- What the machine does with the rest of a text behind the content of a value. -/
def ReadsContent (rule : NameRule) (value : Json) : Prop :=
  ∀ (rest : List Char) (frame : Frame) (outer : List Frame),
    rule.run ⟨.content [], frame :: outer⟩ (content value ++ '<' :: rest) =
      rule.run ⟨.opening [], frame.add value.nodes :: outer⟩ rest

/-- The element of a value, from behind the first bracket. -/
theorem ReadsContent.element {value : Json} (reads : rule.ReadsContent value) {name : String}
    (accepted : rule.accepts name = true) (rest : List Char) (stack : List Frame) :
    rule.run ⟨.opening [], stack⟩
        (name.toList ++ '>' :: (content value ++ closeTag name.toList ++ rest)) =
      rule.run (deliver (.element name value.nodes) stack) rest := by
  have ending : content value ++ closeTag name.toList ++ rest =
      content value ++ '<' :: '/' :: (name.toList ++ '>' :: rest) := by
    simp [closeTag]
  have inner : Frame.add ⟨name, []⟩ value.nodes = ⟨name, value.nodes.reverse⟩ := by
    simp [Frame.add]
  rw [run_startTag accepted, ending, reads, inner, run_endTag accepted, List.reverse_reverse]

mutual

theorem readsContent (rule : NameRule) : ∀ value : Json,
    (∀ key ∈ value.keysWithin, rule.accepts key = true) → rule.ReadsContent value
  | .null, _ => fun rest frame outer => run_tagStart rest frame outer
  | .bool true, _ => fun rest frame outer => run_escape ['t', 'r', 'u', 'e'] rest frame outer
  | .bool false, _ => fun rest frame outer =>
      run_escape ['f', 'a', 'l', 's', 'e'] rest frame outer
  | .number value, _ => fun rest frame outer => run_escape value.chars rest frame outer
  | .text value, _ => fun rest frame outer => run_escape value.toList rest frame outer
  | .array items, accepted => fun rest frame outer =>
      readsItems rule items accepted rest frame outer
  | .object members, accepted => fun rest frame outer =>
      readsMembers rule members accepted rest frame outer

theorem readsItems (rule : NameRule) : ∀ items : List Json,
    (∀ key ∈ Json.itemKeys items, rule.accepts key = true) →
    ∀ (rest : List Char) (frame : Frame) (outer : List Frame),
      rule.run ⟨.content [], frame :: outer⟩ (itemElements items ++ '<' :: rest) =
        rule.run ⟨.opening [], frame.add (Json.itemNodes items) :: outer⟩ rest
  | [], _ => fun rest frame outer => run_tagStart rest frame outer
  | item :: others, accepted => by
      intro rest frame outer
      simp only [Json.itemKeys, List.forall_mem_append] at accepted
      have itemReads := readsContent rule item accepted.1
      have othersRead := readsItems rule others accepted.2 rest
        (frame.add [.element "item" item.nodes]) outer
      have start : itemElements (item :: others) ++ '<' :: rest =
          '<' :: ("item".toList ++ '>' :: (content item ++ closeTag "item".toList ++
            (itemElements others ++ '<' :: rest))) := by
        simp [itemElements, openTag, itemName]
      rw [start, run_tagStart, itemReads.element accepts_item, deliver, othersRead]
      simp [Frame.add, Json.itemNodes]

theorem readsMembers (rule : NameRule) : ∀ members : List (String × Json),
    (∀ key ∈ Json.memberKeys members, rule.accepts key = true) →
    ∀ (rest : List Char) (frame : Frame) (outer : List Frame),
      rule.run ⟨.content [], frame :: outer⟩ (memberElements members ++ '<' :: rest) =
        rule.run ⟨.opening [], frame.add (Json.memberNodes members) :: outer⟩ rest
  | [], _ => fun rest frame outer => run_tagStart rest frame outer
  | (key, value) :: others, accepted => by
      intro rest frame outer
      simp only [Json.memberKeys, List.forall_mem_cons, List.forall_mem_append] at accepted
      obtain ⟨keyAccepted, valueAccepted, othersAccepted⟩ := accepted
      have valueReads := readsContent rule value valueAccepted
      have othersRead := readsMembers rule others othersAccepted rest
        (frame.add [.element key value.nodes]) outer
      have start : memberElements ((key, value) :: others) ++ '<' :: rest =
          '<' :: (key.toList ++ '>' :: (content value ++ closeTag key.toList ++
            (memberElements others ++ '<' :: rest))) := by
        simp [memberElements, openTag]
      rw [start, run_tagStart, valueReads.element keyAccepted, deliver, othersRead]
      simp [Frame.add, Json.memberNodes]

end

/-- A document whose keys are names is read back. -/
theorem read?_document {value : Json}
    (accepted : ∀ key ∈ value.keysWithin, rule.accepts key = true) :
    rule.read? (document value) = some (.element "xml" value.nodes) := by
  have rootAccepted : rule.accepts "xml" = true := rule.own "xml" (by decide)
  have body : element ['x', 'm', 'l'] value =
      '<' :: ("xml".toList ++ '>' :: (content value ++ closeTag "xml".toList ++ [])) := by
    simp [element, openTag]
  have rootStart : rule.step ⟨.root, []⟩ '<' = some ⟨.opening [], []⟩ := rfl
  rw [document, read?_prolog_append, body, run_of_step rootStart,
    (readsContent rule value accepted).element rootAccepted]
  rfl

end Xml.NameRule

namespace GridResponse

/-- The keys of an answer are its own four and those within its cells. -/
theorem keysWithin_toJson (response : GridResponse) (key : String) :
    key ∈ response.toJson.keysWithin ↔
      key ∈ ["sEcho", "iTotalRecords", "iTotalDisplayRecords", "aaData"] ∨
        ∃ row ∈ response.rows, ∃ cell ∈ row, key ∈ cell.keysWithin := by
  have echo : (Json.ofOption Json.text response.echo).keysWithin = [] := by
    cases response.echo <;> rfl
  have cells : (Json.array (response.rows.map Json.array)).keysWithin =
      response.rows.flatMap fun row => row.flatMap Json.keysWithin := by
    rw [Json.keysWithin, Json.itemKeys_eq_flatMap, List.flatMap_map]
    simp only [Json.keysWithin, Json.itemKeys_eq_flatMap]
  have withinRows : (∃ row ∈ response.rows, ∃ cell ∈ row, key ∈ cell.keysWithin) ↔
      key ∈ (Json.array (response.rows.map Json.array)).keysWithin := by
    simp only [cells, List.mem_flatMap]
  rw [withinRows]
  simp only [toJson, Json.keysWithin, Json.memberKeys, echo, Json.ofNat, List.nil_append,
    List.append_nil, List.mem_cons, List.not_mem_nil, or_false]
  grind

/-- An answer is read back when the keys in its cells are names. -/
theorem read?_encode {rule : NameRule} {response : GridResponse}
    (accepted : ∀ row ∈ response.rows, ∀ cell ∈ row, ∀ key ∈ cell.keysWithin,
      rule.accepts key = true) :
    rule.read? (response.encode .xml) = some response.tree := by
  refine NameRule.read?_document fun key keyMember => ?_
  rcases (response.keysWithin_toJson key).mp keyMember with
    own | ⟨row, inRows, cell, inRow, within⟩
  · exact rule.own key (List.mem_cons_of_mem _ (List.mem_cons_of_mem _ own))
  · exact accepted row inRows cell inRow key within

end GridResponse

/-- An answer's XML text is its first line and one element with balanced tags that holds the
names and texts of the answer, in their order and nesting, exactly when every key in its cells
is a name: nothing else that an answer holds can break out of its place. -/
theorem response_read_back_iff_keys_are_names (rule : NameRule) (response : GridResponse) :
    rule.read? (response.encode .xml) = some response.tree ↔
      ∀ row ∈ response.rows, ∀ cell ∈ row, ∀ key ∈ cell.keysWithin,
        rule.accepts key = true := by
  constructor
  · intro read row rowMember cell cellMember key keyMember
    have inResponse : key ∈ response.toJson.keysWithin :=
      (response.keysWithin_toJson key).mpr (.inr ⟨row, rowMember, cell, cellMember, keyMember⟩)
    have named := Json.key_named_of_mem key response.toJson inResponse
    exact NameRule.names_accepted_of_read? read key (List.mem_cons_of_mem _ named)
  · exact GridResponse.read?_encode

/-- One cell, in which the key ends its own element and starts another cell. -/
def craftedKey : GridResponse :=
  ⟨none, 1, 1, [[.object [("item></item><item", .text "paid")]]]⟩

/-- Two cells, of which the second one is empty. -/
def secondCell : GridResponse :=
  ⟨none, 1, 1, [[.array [.null, .text "paid"], .null]]⟩

/-- One cell under a crafted key has the text of two cells, so no reader at all can tell the
two answers apart. -/
theorem crafted_key_forges_cell :
    craftedKey.encode .xml = secondCell.encode .xml ∧ craftedKey.tree ≠ secondCell.tree ∧
      NameRule.scanned.read? (craftedKey.encode .xml) = some secondCell.tree ∧
      ¬ ∃ read : String → Option Node, ∀ response : GridResponse,
        read (response.encode .xml) = some response.tree := by
  have sameText : craftedKey.encode .xml = secondCell.encode .xml := rfl
  have otherTree : craftedKey.tree ≠ secondCell.tree := by
    simp [GridResponse.tree, GridResponse.toJson, craftedKey, secondCell, Json.nodes,
      Json.memberNodes, Json.itemNodes]
  refine ⟨sameText, otherTree, ?_, ?_⟩
  · rw [sameText]
    exact GridResponse.read?_encode (by simp [secondCell, Json.keysWithin, Json.itemKeys])
  · rintro ⟨read, recovers⟩
    have bothTrees := (recovers craftedKey).symm.trans (sameText ▸ recovers secondCell)
    exact otherTree (Option.some.inj bothTrees)

end Backoffice
