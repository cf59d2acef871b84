/-
Module: Backoffice.Proofs.Xml.Reader
Purpose: A reader of XML texts, which scans tags and resolves entities.
Main exports: Xml.Node, Xml.NameRule, Xml.NameRule.read?, Xml.NameRule.names_accepted_of_read?
-/
import Backoffice.Text.Ranges
import Backoffice.Xml.Element
import Backoffice.Proofs.Xml.CharacterData

namespace Backoffice.Xml

/-!
The reader is a machine that takes one character at a time. Its stack holds the elements
that are still open, innermost first; an end tag must name the innermost one. Which names
elements may have is left to a rule, so that what is said of the reader holds of the names of
XML as well as of any text that a scanner would still take for a name.
-/

/-- A piece of the content of an XML element. -/
inductive Node where
  | element (name : String) (content : List Node)
  | text (value : String)

namespace Node

mutual

/-- The names of the elements in a node. -/
def names : Node → List String
  | .element name content => name :: namesOf content
  | .text _ => []

/-- The names of the elements in a content. -/
def namesOf : List Node → List String
  | [] => []
  | node :: rest => names node ++ namesOf rest

end

theorem namesOf_eq_flatMap (nodes : List Node) : namesOf nodes = nodes.flatMap names := by
  induction nodes with
  | nil => rfl
  | cons node rest inductionHypothesis => simp [namesOf, inductionHypothesis]

end Node

/-- The names of the elements that are not named by a key of a cell. -/
def ownNames : List String :=
  ["xml", "item", "sEcho", "iTotalRecords", "iTotalDisplayRecords", "aaData"]

/-- Which names the elements may have. Whatever the rule, a name ends where its tag ends, and
is told from the start of an end tag. -/
structure NameRule where
  accepts : String → Bool
  endless : ∀ name, accepts name = true → '>' ∉ name.toList
  slashless : ∀ name, accepts name = true → name.toList.head? ≠ some '/'
  own : ∀ name ∈ ownNames, accepts name = true

namespace NameRule

/-- The widest rule: everything between the brackets of a tag is its name. -/
def scanned : NameRule where
  accepts name := decide ('>' ∉ name.toList) && decide (name.toList.head? ≠ some '/')
  endless name accepted := by simp_all
  slashless name accepted := by simp_all
  own := by decide

/-- The characters that may start a name in XML 1.0. -/
def nameStarts : List (Nat × Nat) :=
  [(0x3A, 0x3A), (0x41, 0x5A), (0x5F, 0x5F), (0x61, 0x7A), (0xC0, 0xD6), (0xD8, 0xF6),
    (0xF8, 0x2FF), (0x370, 0x37D), (0x37F, 0x1FFF), (0x200C, 0x200D), (0x2070, 0x218F),
    (0x2C00, 0x2FEF), (0x3001, 0xD7FF), (0xF900, 0xFDCF), (0xFDF0, 0xFFFD),
    (0x10000, 0xEFFFF)]

/-- The characters that may go on with one. -/
def nameParts : List (Nat × Nat) :=
  [(0x2D, 0x2E), (0x30, 0x39), (0xB7, 0xB7), (0x300, 0x36F), (0x203F, 0x2040)] ++ nameStarts

/-- Whether the characters are a name in XML 1.0. -/
def isName : List Char → Bool
  | [] => false
  | first :: others =>
      Text.inRanges nameStarts first.toNat && others.all (Text.inRanges nameParts ·.toNat)

theorem parts_of_isName {chars : List Char} (named : isName chars = true) :
    ∀ c ∈ chars, Text.inRanges nameParts c.toNat = true := by
  cases chars with
  | nil => simp
  | cons first others =>
      simp only [isName, Bool.and_eq_true, List.all_eq_true] at named
      have firstPart : Text.inRanges nameParts first.toNat = true := by
        rw [Text.inRanges, nameParts, List.any_append, Bool.or_eq_true]
        exact .inr named.1
      simpa [firstPart] using named.2

/-- The rule of XML 1.0. -/
def standard : NameRule where
  accepts name := isName name.toList
  endless name named ending := absurd (parts_of_isName named '>' ending) (by decide)
  slashless name named slash :=
    absurd (parts_of_isName named '/' (List.mem_of_head? slash)) (by decide)
  own := by decide

end NameRule

/-! ### The machine -/

/-- An open element with its content so far, in reverse. -/
structure Frame where
  name : String
  before : List Node

/-- What is being read. -/
inductive Stage where
  /-- Nothing yet: the root element is due. -/
  | root
  /-- The content of the innermost element, with the characters behind its last tag. -/
  | content (pending : List Char)
  /-- A tag, with its characters behind the bracket. -/
  | opening (name : List Char)
  /-- An end tag, with its characters behind the slash. -/
  | closing (name : List Char)
  /-- Nothing any more: the root element is complete. -/
  | finished (result : Node)

/-- Where the machine stands; characters are kept in reverse. -/
structure State where
  stage : Stage
  stack : List Frame

/-- The content of the innermost element goes on with these nodes. -/
def Frame.add (frame : Frame) (nodes : List Node) : Frame :=
  ⟨frame.name, nodes.reverse ++ frame.before⟩

/-- The nodes of a text: an empty one has none. -/
def textNodes (chars : List Char) : List Node :=
  if chars.isEmpty then [] else [.text (String.ofList chars)]

/-- Put a complete element into the innermost open one. -/
def deliver (node : Node) : List Frame → State
  | [] => ⟨.finished node, []⟩
  | frame :: outer => ⟨.content [], frame.add [node] :: outer⟩

/-- Put the characters behind the last tag into the innermost element. -/
def endText (pending : List Char) : List Frame → Option (List Frame)
  | [] => none
  | frame :: outer =>
      (resolve? pending.reverse).map fun chars => frame.add (textNodes chars) :: outer

/-- End the innermost element. -/
def endElement (name : List Char) : List Frame → Option State
  | [] => none
  | frame :: outer =>
      if String.ofList name.reverse = frame.name then
        some (deliver (.element frame.name frame.before.reverse) outer)
      else none

namespace NameRule

variable (rule : NameRule)

/-- Start an element in the innermost one. -/
def startElement (name : List Char) (stack : List Frame) : Option State :=
  if rule.accepts (String.ofList name.reverse) then
    some ⟨.content [], ⟨String.ofList name.reverse, []⟩ :: stack⟩
  else none

/-- Take one character. -/
def step (state : State) (c : Char) : Option State :=
  match state.stage with
  | .root => if c = '<' then some ⟨.opening [], state.stack⟩ else none
  | .content pending =>
      if c = '<' then (endText pending state.stack).map fun stack => ⟨.opening [], stack⟩
      else some ⟨.content (c :: pending), state.stack⟩
  | .opening name =>
      if c = '>' then rule.startElement name state.stack
      else if c = '/' ∧ name = [] then some ⟨.closing [], state.stack⟩
      else some ⟨.opening (c :: name), state.stack⟩
  | .closing name =>
      if c = '>' then endElement name state.stack
      else some ⟨.closing (c :: name), state.stack⟩
  | .finished _ => none

/-- Take characters from left to right. -/
def run (state : State) : List Char → Option State
  | [] => some state
  | c :: rest =>
      match rule.step state c with
      | some next => run next rest
      | none => none

/-- The text behind the first line of a document. -/
def body? (text : String) : Option (List Char) :=
  if prolog <+: text.toList then some (text.toList.drop prolog.length) else none

/-- The root element of a document. -/
def read? (text : String) : Option Node := do
  let last ← rule.run ⟨.root, []⟩ (← body? text)
  match last.stage with
  | .finished result => some result
  | _ => none

variable {rule}

theorem run_of_step {state next : State} {c : Char} (taken : rule.step state c = some next)
    (rest : List Char) : rule.run state (c :: rest) = rule.run next rest := by
  simp only [run, taken]

/-- Behind the prolog a document is read by the machine alone. -/
theorem read?_prolog_append (rule : NameRule) (body : List Char) :
    rule.read? (String.ofList (prolog ++ body)) =
      (rule.run ⟨.root, []⟩ body).bind fun last =>
        match last.stage with
        | .finished result => some result
        | _ => none := by
  have behind : body? (String.ofList (prolog ++ body)) = some body := by
    simp [body?, String.toList_ofList]
  simp only [read?, behind]
  rfl

/-! ### Tags and text -/

/-- A stage that collects all characters but one is carried up to that one. -/
theorem run_collect (rule : NameRule) (collecting : List Char → Stage) {last : Char}
    (stack : List Frame)
    (collects : ∀ c taken, c ≠ last →
      rule.step ⟨collecting taken, stack⟩ c = some ⟨collecting (c :: taken), stack⟩)
    (taken chars rest : List Char) (endless : last ∉ chars) :
    rule.run ⟨collecting taken, stack⟩ (chars ++ rest) =
      rule.run ⟨collecting (chars.reverse ++ taken), stack⟩ rest := by
  induction chars generalizing taken with
  | nil => rfl
  | cons c others inductionHypothesis =>
      obtain ⟨unended, othersUnended⟩ : c ≠ last ∧ last ∉ others := by
        simpa [eq_comm] using endless
      rw [List.cons_append, run_of_step (collects c taken unended),
        inductionHypothesis (c :: taken) othersUnended]
      simp

/-- The characters of a name are collected up to the end of its tag. -/
theorem run_opening (chars rest : List Char) (stack : List Frame) (endless : '>' ∉ chars)
    (slashless : chars.head? ≠ some '/') :
    rule.run ⟨.opening [], stack⟩ (chars ++ rest) =
      rule.run ⟨.opening chars.reverse, stack⟩ rest := by
  cases chars with
  | nil => rfl
  | cons first others =>
      obtain ⟨unended, othersUnended⟩ : first ≠ '>' ∧ '>' ∉ others := by
        simpa [eq_comm] using endless
      have noSlash : first ≠ '/' := fun slash => slashless (congrArg some slash)
      have step : rule.step ⟨.opening [], stack⟩ first = some ⟨.opening [first], stack⟩ := by
        simp [NameRule.step, unended, noSlash]
      -- Behind its first character a slash is part of the name.
      have collected := run_collect rule (fun taken => .opening (taken ++ [first])) stack
        (fun c taken unended => by simp [NameRule.step, unended]) [] others rest othersUnended
      rw [List.cons_append, run_of_step step, List.reverse_cons]
      simpa using collected

/-- Inside a closing tag the name is gathered up to the bracket. -/
theorem run_closing (chars rest : List Char) (stack : List Frame) (endless : '>' ∉ chars) :
    rule.run ⟨.closing [], stack⟩ (chars ++ rest) =
      rule.run ⟨.closing chars.reverse, stack⟩ rest := by
  have collected := run_collect rule .closing stack
    (fun c taken unended => by simp [NameRule.step, unended]) [] chars rest endless
  rwa [List.append_nil] at collected

/-- A start tag, from behind its bracket. -/
theorem run_startTag {name : String} (accepted : rule.accepts name = true)
    (rest : List Char) (stack : List Frame) :
    rule.run ⟨.opening [], stack⟩ (name.toList ++ '>' :: rest) =
      rule.run ⟨.content [], ⟨name, []⟩ :: stack⟩ rest := by
  rw [run_opening _ _ _ (rule.endless name accepted) (rule.slashless name accepted)]
  exact run_of_step (by simp [NameRule.step, startElement, accepted]) rest

/-- The end tag of the innermost element, from behind its bracket. -/
theorem run_endTag {name : String} (accepted : rule.accepts name = true) (before : List Node)
    (rest : List Char) (outer : List Frame) :
    rule.run ⟨.opening [], ⟨name, before⟩ :: outer⟩ ('/' :: (name.toList ++ '>' :: rest)) =
      rule.run (deliver (.element name before.reverse) outer) rest := by
  have slash : rule.step ⟨.opening [], ⟨name, before⟩ :: outer⟩ '/' =
      some ⟨.closing [], ⟨name, before⟩ :: outer⟩ := by
    simp [NameRule.step]
  rw [run_of_step slash, run_closing _ _ _ (rule.endless _ accepted)]
  exact run_of_step (by simp [NameRule.step, endElement]) rest

/-- Characters that start no tag are collected up to the next one. -/
theorem run_pending (chars rest : List Char) (stack : List Frame) (tagless : '<' ∉ chars) :
    rule.run ⟨.content [], stack⟩ (chars ++ rest) =
      rule.run ⟨.content chars.reverse, stack⟩ rest := by
  have collected := run_collect rule .content stack
    (fun c taken plain => by simp [NameRule.step, plain]) [] chars rest tagless
  rwa [List.append_nil] at collected

/-- Escaped text becomes the text that it escapes. -/
theorem run_escape (chars rest : List Char) (frame : Frame) (outer : List Frame) :
    rule.run ⟨.content [], frame :: outer⟩ (escape chars ++ '<' :: rest) =
      rule.run ⟨.opening [], frame.add (textNodes chars) :: outer⟩ rest := by
  rw [run_pending _ _ _ (tagStart_not_mem_escape chars)]
  exact run_of_step (by simp [NameRule.step, endText, resolve?_escape]) rest

/-- A tag that starts right behind the last one. -/
theorem run_tagStart (rest : List Char) (frame : Frame) (outer : List Frame) :
    rule.run ⟨.content [], frame :: outer⟩ ('<' :: rest) =
      rule.run ⟨.opening [], frame :: outer⟩ rest :=
  run_escape [] rest frame outer

end NameRule

/-! ### The names that are read -/

namespace NameRule

variable {rule : NameRule}

/-- All elements in a content have accepted names. -/
def Admits (rule : NameRule) (nodes : List Node) : Prop :=
  ∀ name ∈ Node.namesOf nodes, rule.accepts name = true

theorem admits_append {front back : List Node} (frontAdmitted : rule.Admits front)
    (backAdmitted : rule.Admits back) : rule.Admits (front ++ back) := by
  intro name named
  rw [Node.namesOf_eq_flatMap, List.flatMap_append, List.mem_append,
    ← Node.namesOf_eq_flatMap, ← Node.namesOf_eq_flatMap] at named
  exact named.elim (frontAdmitted name) (backAdmitted name)

theorem admits_reverse {nodes : List Node} (admitted : rule.Admits nodes) :
    rule.Admits nodes.reverse := by
  intro name named
  refine admitted name ?_
  simpa [Node.namesOf_eq_flatMap] using named

/-- Texts have no names that a rule could refuse. -/
theorem admits_textNodes (chars : List Char) : rule.Admits (textNodes chars) := by
  unfold textNodes
  split <;> simp [Admits, Node.namesOf, Node.names]

/-- An open element has an accepted name, and so have the elements in it. -/
structure AdmitsFrame (rule : NameRule) (frame : Frame) : Prop where
  name : rule.accepts frame.name = true
  before : rule.Admits frame.before

theorem AdmitsFrame.add {frame : Frame} (admitted : rule.AdmitsFrame frame)
    {nodes : List Node} (nodesAdmitted : rule.Admits nodes) :
    rule.AdmitsFrame (frame.add nodes) :=
  ⟨admitted.name, admits_append (admits_reverse nodesAdmitted) admitted.before⟩

theorem AdmitsFrame.element {frame : Frame} (admitted : rule.AdmitsFrame frame) :
    rule.Admits [.element frame.name frame.before.reverse] := by
  intro name named
  simp only [Node.namesOf, Node.names, List.append_nil, List.mem_cons] at named
  rcases named with rfl | inner
  · exact admitted.name
  · exact admits_reverse admitted.before name inner

/-- All names that the machine has read are accepted. -/
structure AdmitsState (rule : NameRule) (state : State) : Prop where
  stack : ∀ frame ∈ state.stack, rule.AdmitsFrame frame
  result : ∀ node, state.stage = .finished node → rule.Admits [node]

/-- Handing an admitted node on keeps the state admitted. -/
theorem admitsState_deliver {node : Node} {stack : List Frame} (admitted : rule.Admits [node])
    (stackAdmitted : ∀ frame ∈ stack, rule.AdmitsFrame frame) :
    rule.AdmitsState (deliver node stack) := by
  cases stack with
  | nil =>
      refine ⟨by simp [deliver], ?_⟩
      rintro _ ⟨⟩
      exact admitted
  | cons frame outer =>
      obtain ⟨frameAdmitted, outerAdmitted⟩ := List.forall_mem_cons.mp stackAdmitted
      refine ⟨?_, by simp [deliver]⟩
      exact List.forall_mem_cons.mpr ⟨frameAdmitted.add admitted, outerAdmitted⟩

/-- One character keeps the state admitted. -/
theorem AdmitsState.step {state next : State} {c : Char} (admitted : rule.AdmitsState state)
    (taken : rule.step state c = some next) : rule.AdmitsState next := by
  obtain ⟨stage, stack⟩ := state
  have stackAdmitted := admitted.stack
  cases stage with
  | root =>
      simp only [NameRule.step] at taken
      split at taken
      · cases taken
        exact ⟨stackAdmitted, by simp⟩
      · cases taken
  | content pending =>
      simp only [NameRule.step] at taken
      split at taken
      · obtain ⟨full, ended, rfl⟩ := Option.map_eq_some_iff.mp taken
        refine ⟨?_, by simp⟩
        cases stack with
        | nil => simp [endText] at ended
        | cons frame outer =>
            obtain ⟨chars, -, rfl⟩ := Option.map_eq_some_iff.mp ended
            obtain ⟨frameAdmitted, outerAdmitted⟩ := List.forall_mem_cons.mp stackAdmitted
            exact List.forall_mem_cons.mpr
              ⟨frameAdmitted.add (admits_textNodes chars), outerAdmitted⟩
      · cases taken
        exact ⟨stackAdmitted, by simp⟩
  | opening name =>
      simp only [NameRule.step] at taken
      split at taken
      · simp only [startElement] at taken
        split at taken
        case isTrue accepted =>
          cases taken
          refine ⟨List.forall_mem_cons.mpr ⟨⟨accepted, ?_⟩, stackAdmitted⟩, by simp⟩
          simp [Admits, Node.namesOf]
        case isFalse => cases taken
      · split at taken <;>
        · cases taken
          exact ⟨stackAdmitted, by simp⟩
  | closing name =>
      simp only [NameRule.step] at taken
      split at taken
      · cases stack with
        | nil => simp [endElement] at taken
        | cons frame outer =>
            simp only [endElement] at taken
            split at taken
            · cases taken
              obtain ⟨frameAdmitted, outerAdmitted⟩ := List.forall_mem_cons.mp stackAdmitted
              exact admitsState_deliver frameAdmitted.element outerAdmitted
            · cases taken
      · cases taken
        exact ⟨stackAdmitted, by simp⟩
  | finished => simp [NameRule.step] at taken

/-- Any number of characters keeps it admitted, by induction on them. -/
theorem AdmitsState.run {state last : State} {chars : List Char}
    (admitted : rule.AdmitsState state) (ran : rule.run state chars = some last) :
    rule.AdmitsState last := by
  induction chars generalizing state with
  | nil =>
      cases ran
      exact admitted
  | cons c rest inductionHypothesis =>
      simp only [NameRule.run] at ran
      split at ran
      case h_1 next taken => exact inductionHypothesis (admitted.step taken) ran
      case h_2 => cases ran

/-- Only elements with accepted names are read. -/
theorem names_accepted_of_read? {text : String} {root : Node}
    (read : rule.read? text = some root) : ∀ name ∈ root.names, rule.accepts name = true := by
  simp only [read?, Option.bind_eq_bind, Option.bind_eq_some_iff] at read
  obtain ⟨body, -, last, ran, finished⟩ := read
  have start : rule.AdmitsState ⟨.root, []⟩ := ⟨by simp, by simp⟩
  have admitted := (start.run ran).result
  split at finished
  case h_1 result stage =>
    cases finished
    intro name named
    exact admitted root stage name (by simpa [Node.namesOf] using named)
  case h_2 => cases finished

end NameRule

end Backoffice.Xml
