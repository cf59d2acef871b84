/-
Module: Backoffice.Proofs.Xml.CharacterData
Purpose: Escaped text holds no markup, and resolving its entities gives the text back.
Main exports: Xml.resolve?, Xml.resolve?_escape, Xml.Inert, Xml.Inert.exists_escape,
  Xml.escaped_text_inert_and_resolved
-/
import Backoffice.Xml.Text

namespace Backoffice.Xml

/-!
Escaping writes a character either as it is or as a reference to the entity that stands for
it, and a reader that resolves entities from left to right takes exactly one of these pieces
at a time. Each statement about escaped text is therefore shown for one piece in front of any
rest. A text is inert if nothing in it is markup; the inert texts are the escaped ones.
-/

/-- The text that character data stands for: the five predefined entities are resolved
from left to right, and any other use of an ampersand is refused. -/
def resolve? : List Char → Option (List Char)
  | [] => some []
  | '&' :: 'a' :: 'm' :: 'p' :: ';' :: rest => (resolve? rest).map ('&' :: ·)
  | '&' :: 'l' :: 't' :: ';' :: rest => (resolve? rest).map ('<' :: ·)
  | '&' :: 'g' :: 't' :: ';' :: rest => (resolve? rest).map ('>' :: ·)
  | '&' :: 'q' :: 'u' :: 'o' :: 't' :: ';' :: rest => (resolve? rest).map ('"' :: ·)
  | '&' :: 'a' :: 'p' :: 'o' :: 's' :: ';' :: rest => (resolve? rest).map ('\'' :: ·)
  | c :: rest => if c = '&' then none else (resolve? rest).map (c :: ·)

/-! ### Pieces -/

/-- An entity that is known without a declaration. -/
structure Entity where
  /-- What stands between the ampersand and the semicolon of a reference. -/
  name : List Char
  /-- The character that a reference stands for. -/
  character : Char
deriving DecidableEq

/-- The five predefined entities. -/
def predefined : List Entity :=
  [⟨['a', 'm', 'p'], '&'⟩, ⟨['l', 't'], '<'⟩, ⟨['g', 't'], '>'⟩, ⟨['q', 'u', 'o', 't'], '"'⟩,
    ⟨['a', 'p', 'o', 's'], '\''⟩]

/-- A reference to an entity. -/
def Entity.reference (entity : Entity) : List Char := '&' :: (entity.name ++ [';'])

/-- A character that no predefined entity stands for. -/
def IsPlain (c : Char) : Prop := ∀ entity ∈ predefined, c ≠ entity.character

instance (c : Char) : Decidable (IsPlain c) :=
  inferInstanceAs (Decidable (∀ entity ∈ predefined, c ≠ entity.character))

/-- Every character is plain, or an entity stands for it. -/
theorem isPlain_or_predefined (c : Char) :
    IsPlain c ∨ ∃ entity ∈ predefined, c = entity.character := by
  by_cases plain : IsPlain c
  · exact .inl plain
  · exact .inr (by simpa [IsPlain] using plain)

/-- Plain characters are not escaped. -/
theorem escapeChar_of_plain {c : Char} (plain : IsPlain c) : escapeChar c = [c] := by
  simp only [IsPlain, predefined, List.forall_mem_cons] at plain
  obtain ⟨ampersand, less, greater, quote, apostrophe, -⟩ := plain
  simp only [escapeChar, ampersand, less, greater, quote, apostrophe, if_false]

theorem escapeChar_of_predefined :
    ∀ entity ∈ predefined, escapeChar entity.character = entity.reference := by
  decide

/-- Whatever is no ampersand stands for itself. -/
theorem resolve?_plain {c : Char} (plain : c ≠ '&') (rest : List Char) :
    resolve? (c :: rest) = (resolve? rest).map (c :: ·) := by
  rw [resolve?, if_neg plain]
  all_goals
    intro _ entity
    exact absurd entity plain

/-- A reference stands for the character of its entity, in front of any rest. -/
theorem resolve?_reference_append (rest : List Char) : ∀ entity ∈ predefined,
    resolve? (entity.reference ++ rest) = (resolve? rest).map (entity.character :: ·) := by
  simp only [predefined, List.forall_mem_cons]
  exact ⟨rfl, rfl, rfl, rfl, rfl, by simp⟩

/-- What follows an escaped character is read as if it stood alone. -/
theorem resolve?_escapeChar_append (c : Char) (rest : List Char) :
    resolve? (escapeChar c ++ rest) = (resolve? rest).map (c :: ·) := by
  rcases isPlain_or_predefined c with plain | ⟨entity, known, rfl⟩
  · have noAmpersand : c ≠ '&' := plain ⟨['a', 'm', 'p'], '&'⟩ (by decide)
    rw [escapeChar_of_plain plain]
    exact resolve?_plain noAmpersand rest
  · rw [escapeChar_of_predefined entity known]
    exact resolve?_reference_append rest entity known

/-! ### Texts -/

theorem escape_cons (c : Char) (rest : List Char) :
    escape (c :: rest) = escapeChar c ++ escape rest := rfl

/-- Texts can be escaped part by part. -/
theorem escape_append (first second : List Char) :
    escape (first ++ second) = escape first ++ escape second := List.flatMap_append

/-- What follows escaped text is read as if it stood alone, so no entity is made up by two
texts, or by one that is already resolved. -/
theorem resolve?_escape_append (text rest : List Char) :
    resolve? (escape text ++ rest) = (resolve? rest).map (text ++ ·) := by
  induction text with
  | nil => simp [escape]
  | cons c others inductionHypothesis =>
      rw [escape_cons, List.append_assoc, resolve?_escapeChar_append, inductionHypothesis,
        Option.map_map]
      rfl

/-- An escaped text resolves to the text. -/
theorem resolve?_escape (chars : List Char) : resolve? (escape chars) = some chars := by
  simpa [resolve?] using resolve?_escape_append chars []

/-! ### Inert text -/

/-- The characters that only markup may hold. -/
def marks : List Char := ['<', '>', '"', '\'']

/-- A text without markup: it holds none of its characters, and every ampersand in it starts
a reference to a predefined entity. -/
structure Inert (text : List Char) : Prop where
  markless : ∀ c ∈ marks, c ∉ text
  references : ∀ after, '&' :: after <:+ text →
    ∃ entity ∈ predefined, entity.name ++ [';'] <+: after

theorem inert_nil : Inert [] := ⟨by simp, by simp⟩

/-- Plain characters are those that are neither markup nor an ampersand. -/
theorem isPlain_iff {c : Char} : IsPlain c ↔ c ∉ marks ∧ c ≠ '&' := by
  rw [and_comm]
  simp [IsPlain, predefined, marks]

/-- What an inert text ends with is inert. -/
theorem Inert.of_suffix {text rest : List Char} (inert : Inert text) (suffix : rest <:+ text) :
    Inert rest where
  markless c mark inRest := inert.markless c mark (suffix.mem inRest)
  references after inner := inert.references after (inner.trans suffix)

/-- A text is inert if its first character may stand there and the rest is inert. -/
theorem inert_cons_iff {c : Char} {rest : List Char} :
    Inert (c :: rest) ↔
      c ∉ marks ∧ (c = '&' → ∃ entity ∈ predefined, entity.name ++ [';'] <+: rest) ∧
        Inert rest := by
  constructor
  · intro inert
    refine ⟨fun mark => inert.markless c mark List.mem_cons_self, ?_,
      inert.of_suffix (List.suffix_cons c rest)⟩
    rintro rfl
    exact inert.references rest List.suffix_rfl
  · rintro ⟨unmarked, starts, inert⟩
    refine ⟨fun mark isMark inText => ?_, fun after suffix => ?_⟩
    · rcases List.mem_cons.mp inText with rfl | inRest
      · exact unmarked isMark
      · exact inert.markless mark isMark inRest
    · rcases List.suffix_cons_iff.mp suffix with whole | inner
      · obtain ⟨ampersand, rfl⟩ := List.cons.inj whole
        exact starts ampersand.symm
      · exact inert.references after inner

/-- Plain characters in front keep a text inert. -/
theorem Inert.append_plain {rest : List Char} (inert : Inert rest) {chars : List Char}
    (plain : ∀ c ∈ chars, IsPlain c) : Inert (chars ++ rest) := by
  induction chars with
  | nil => exact inert
  | cons c others inductionHypothesis =>
      obtain ⟨firstPlain, othersPlain⟩ := List.forall_mem_cons.mp plain
      obtain ⟨unmarked, noAmpersand⟩ := isPlain_iff.mp firstPlain
      exact inert_cons_iff.mpr ⟨unmarked, fun ampersand => absurd ampersand noAmpersand,
        inductionHypothesis othersPlain⟩

theorem Inert.append_reference {rest : List Char} (inert : Inert rest) {entity : Entity}
    (known : entity ∈ predefined) : Inert (entity.reference ++ rest) := by
  have namesPlain : ∀ entity ∈ predefined, (entity.name ++ [';']).all (IsPlain ·) = true := by
    decide
  have namePlain : ∀ c ∈ entity.name ++ [';'], IsPlain c := fun c inName =>
    of_decide_eq_true (List.all_eq_true.mp (namesPlain entity known) c inName)
  refine inert_cons_iff.mpr ⟨by decide, fun _ => ?_, inert.append_plain namePlain⟩
  exact ⟨entity, known, List.prefix_append _ _⟩

theorem Inert.append_escapeChar {rest : List Char} (inert : Inert rest) (c : Char) :
    Inert (escapeChar c ++ rest) := by
  rcases isPlain_or_predefined c with plain | ⟨entity, known, rfl⟩
  · rw [escapeChar_of_plain plain]
    exact inert.append_plain (by simpa using plain)
  · rw [escapeChar_of_predefined entity known]
    exact inert.append_reference known

/-- An escaped text is inert. -/
theorem inert_escape (text : List Char) : Inert (escape text) := by
  induction text with
  | nil => exact inert_nil
  | cons c rest inductionHypothesis => exact inductionHypothesis.append_escapeChar c

theorem tagStart_not_mem_escape (chars : List Char) : '<' ∉ escape chars :=
  (inert_escape chars).markless '<' (by decide)

/-- An inert text that is not empty starts with an escaped character. -/
theorem Inert.exists_escapeChar_append {c : Char} {others : List Char}
    (inert : Inert (c :: others)) : ∃ first rest, c :: others = escapeChar first ++ rest := by
  obtain ⟨unmarked, starts, -⟩ := inert_cons_iff.mp inert
  by_cases ampersand : c = '&'
  · obtain ⟨entity, known, rest, rfl⟩ := starts ampersand
    refine ⟨entity.character, rest, ?_⟩
    rw [escapeChar_of_predefined entity known, Entity.reference, ampersand, List.cons_append]
  · have plain : IsPlain c := isPlain_iff.mpr ⟨unmarked, ampersand⟩
    exact ⟨c, others, by rw [escapeChar_of_plain plain, List.singleton_append]⟩

theorem length_escapeChar_pos (c : Char) : 0 < (escapeChar c).length := by
  rcases isPlain_or_predefined c with plain | ⟨entity, known, rfl⟩
  · simp [escapeChar_of_plain plain]
  · simp [escapeChar_of_predefined entity known, Entity.reference]

/-- Every inert text is the escaped form of some text. -/
theorem Inert.exists_escape {written : List Char} (inert : Inert written) :
    ∃ text, written = escape text := by
  induction length : written.length using Nat.strongRecOn generalizing written with
  | ind _ inductionHypothesis =>
      cases written with
      | nil => exact ⟨[], rfl⟩
      | cons c others =>
          obtain ⟨first, rest, whole⟩ := inert.exists_escapeChar_append
          have shorter : rest.length < (c :: others).length := by
            have taken := length_escapeChar_pos first
            rw [whole, List.length_append]
            omega
          obtain ⟨text, rfl⟩ := inductionHypothesis rest.length (length ▸ shorter)
            (inert.of_suffix (whole ▸ List.suffix_append _ _)) rfl
          exact ⟨first :: text, whole⟩

/-- Escaped text holds none of the characters of markup, and every ampersand in it starts a
predefined entity. Resolving these entities once gives back the text, also one that holds
entities itself, and leaves alone what follows; of all inert texts only the escaped one is
resolved to it. -/
theorem escaped_text_inert_and_resolved (text : List Char) :
    Inert (escape text) ∧
    resolve? (escape text) = some text ∧
    (∀ other, escape (text ++ other) = escape text ++ escape other) ∧
    (∀ rest, resolve? (escape text ++ rest) = (resolve? rest).map (text ++ ·)) ∧
    ∀ written, Inert written ∧ resolve? written = some text ↔ written = escape text := by
  refine ⟨inert_escape text, resolve?_escape text, escape_append text,
    resolve?_escape_append text, fun written => ⟨?_, ?_⟩⟩
  · rintro ⟨inert, resolved⟩
    obtain ⟨other, rfl⟩ := inert.exists_escape
    rw [resolve?_escape, Option.some.injEq] at resolved
    rw [resolved]
  · rintro rfl
    exact ⟨inert_escape text, resolve?_escape text⟩

example : escape "&lt;".toList = "&amp;lt;".toList ∧
    resolve? "&amp;lt;".toList = some "&lt;".toList := by decide

end Backoffice.Xml
