/-
Module: Backoffice.Proofs.Grid.RequestReadBack
Purpose: Written grid requests are read back.
Main exports: GridRequest.Built, GridRequest.Sound, GridRequest.Built.sound,
  request_read_back_iff_length_signed, long_page_not_read_back
-/
import Backoffice.Proofs.Grid.ParameterColumns
import Backoffice.Proofs.Json.ReadBack

namespace Backoffice

/-!
A request is written field by field, column numbers as keys, and read by decoders of its
own. All of them take the whole range of 64 bits, except the one for the page length: it
takes a signed integer, so that a negative length can stand for the default one, and thus
refuses the upper half of the lengths that a request can have.
-/

/-! ### Numbers, and numbers as keys -/

namespace Json.Decoder

/-- A number of 64 bits is read as a word. -/
theorem word_ofNat {number : Nat} (fits : number ≤ greatestWord) (budget : Nat) :
    word budget (.ofJson (.ofNat number)) = some number := by
  have inRange : (0 : Int) ≤ number ∧ (number : Int) ≤ greatestWord :=
    ⟨Int.natCast_nonneg number, Int.ofNat_le.mpr fits⟩
  simp [word, Document.ofJson, Json.ofNat, integer, inRange]

/-- A column is read from the key that it is written as. -/
theorem numberKey?_toString {number : Nat} (fits : number ≤ greatestWord) :
    numberKey? ⟨some (toString number), false⟩ = some number := by
  change canonicalWord? (toString number).toList = some number
  rw [Nat.toString_eq_ofList_toDigits, String.toList_ofList]
  exact canonicalWord?_toDigits fits

/-- A map from columns as the members of an object. -/
def numberedMembers {α : Type} (encode : α → Json) (map : NumberMap α) : Json.Members :=
  map.entries.map fun entry => (toString entry.1, encode entry.2)

/-- An object with columns as keys is read by a decoder that reads its values. -/
theorem numbered_ofMembers {α : Type} {decoder : Decoder α} (encode : α → Json)
    {map : NumberMap α} {budget : Nat} (fits : ∀ entry ∈ map.entries, entry.1 ≤ greatestWord)
    (reads : ∀ entry ∈ map.entries, decoder budget (.ofJson (encode entry.2)) = some entry.2) :
    numbered decoder (budget + 1) (.ofJson (.object (numberedMembers encode map))) =
      some map := by
  rw [Document.ofJson, numbered, Document.ofMembers_eq_map, numberedMembers, List.map_map,
    mapM_map_eq_some id, List.map_id, Option.map_some, NumberMap.ofPairs_entries]
  intro entry inMap
  change numberedMember decoder budget (⟨some (toString entry.1), false⟩, _) = some entry
  rw [numberedMember, numberKey?_toString (fits entry inMap), reads entry inMap]
  rfl

end Json.Decoder

namespace GridRequest

/-! ### Requests that can come about -/

/-- The requests that parameters write, and those put together from the default one. Columns,
starts and lengths have 64 bits, and values have no key twice in an object. -/
inductive Built : GridRequest → Prop where
  | initial : Built {}
  | ofParameters (parameters : GridParameters) : Built (.ofParameters parameters)
  | withFilter {request : GridRequest} (built : Built request) {column : Nat}
      (fits : column ≤ greatestWord) {value : Json} (distinct : value.Distinct) :
      Built (request.withFilter column value)
  | withSort {request : GridRequest} (built : Built request) {column : Nat}
      (fits : column ≤ greatestWord) (direction : SortDirection) :
      Built (request.withSort column direction)
  | withSearch {request : GridRequest} (built : Built request) (term : String) :
      Built (request.withSearch term)
  | withPage {request : GridRequest} (built : Built request) {start length : Nat}
      (startFits : start ≤ greatestWord) (lengthFits : length ≤ greatestWord) :
      Built (request.withPage start length)

/-- All numbers of a request have 64 bits, its length is not zero, and its filters are values
without a key twice in an object. -/
structure Sound (request : GridRequest) : Prop where
  start : request.start ≤ greatestWord
  length_pos : 0 < request.length
  length : request.length ≤ greatestWord
  sorts : ∀ sort ∈ request.sorts, sort.1 ≤ greatestWord
  filters : ∀ entry ∈ request.filters.entries, entry.1 ≤ greatestWord ∧ entry.2.Distinct
  sortable : ∀ entry ∈ request.sortable.entries, entry.1 ≤ greatestWord
  searchable : ∀ entry ∈ request.searchable.entries, entry.1 ≤ greatestWord

/-- No page length is zero. -/
theorem lengthOr_pos (asked : Option Nat) : 0 < lengthOr asked := by
  cases asked with
  | none => decide
  | some length =>
      rw [lengthOr]
      by_cases zero : length = 0
      · rw [if_pos zero]
        decide
      · rw [if_neg zero]
        exact Nat.pos_of_ne_zero zero

theorem lengthOr_some_of_pos {length : Nat} (positive : 0 < length) :
    lengthOr (some length) = length :=
  if_neg (Nat.ne_of_gt positive)

/-- A page length fits into 64 bits if the one asked for does. -/
theorem lengthOr_le {asked : Option Nat}
    (fits : ∀ length, asked = some length → length ≤ greatestWord) :
    lengthOr asked ≤ greatestWord := by
  cases asked with
  | none => decide
  | some length =>
      by_cases zero : length = 0
      · rw [zero]
        decide
      · rw [lengthOr_some_of_pos (Nat.pos_of_ne_zero zero)]
        exact fits length rfl

end GridRequest

/-! ### Requests of parameters -/

/-- What the parameters give for the columns stands below their number, which is a word. -/
theorem GridParameters.of_mem_below {parameters : GridParameters} {α : Type}
    {value? : Nat → Option α} {entry : Nat × α}
    (member : entry ∈ (NumberMap.below parameters.columnCount value?).entries) :
    entry.1 ≤ greatestWord ∧ value? entry.1 = some entry.2 := by
  have found : (NumberMap.below parameters.columnCount value?).find? entry.1 = some entry.2 :=
    NumberMap.find?_eq_some_iff.mpr member
  rw [NumberMap.find?_below, Option.ite_none_right_eq_some] at found
  obtain ⟨counted, isValue⟩ := found
  exact ⟨Nat.le_trans (Nat.le_of_lt counted) parameters.columnCount_le, isValue⟩

/-- A filter that was read has no key twice in an object. -/
theorem distinct_of_decodeFilter {column : Nat} {raw : String} {value : Json}
    (read : (decodeFilter column raw).toOption = some value) : value.Distinct := by
  rcases decodeFilter_eq_some_iff.mp read with ⟨-, rfl⟩ | ⟨-, parsed⟩
  · trivial
  · exact Json.distinct_of_parse? parsed

namespace GridRequest

/-- Parameters write sound requests: all numbers in them were read as words. -/
theorem sound_ofParameters (parameters : GridParameters) : (ofParameters parameters).Sound := by
  rw [ofParameters_eq]
  constructor
  case start => exact parameters.getD_number?_le "iDisplayStart" (Nat.zero_le _)
  case length_pos => exact lengthOr_pos (parameters.number? "iDisplayLength")
  case length => exact lengthOr_le fun _ read => GridParameters.number?_le read
  case sorts =>
    intro sort member
    obtain ⟨place, -, asked⟩ := List.mem_filterMap.mp member
    obtain ⟨column, read, rfl⟩ := Option.map_eq_some_iff.mp asked
    exact GridParameters.number?_le read
  case filters =>
    intro entry member
    obtain ⟨fits, isFilter⟩ := GridParameters.of_mem_below member
    obtain ⟨raw, -, read⟩ := Option.bind_eq_some_iff.mp isFilter
    exact ⟨fits, distinct_of_decodeFilter read⟩
  case sortable => exact fun _ member => (GridParameters.of_mem_below member).1
  case searchable => exact fun _ member => (GridParameters.of_mem_below member).1

/-- Every request that can come about is sound. -/
theorem Built.sound {request : GridRequest} (built : request.Built) : request.Sound := by
  induction built with
  | initial => exact ⟨by decide, by decide, by decide, by simp, nofun, nofun, nofun⟩
  | ofParameters parameters => exact sound_ofParameters parameters
  | withFilter _ fits distinct sound =>
      refine { sound with filters := fun entry member => ?_ }
      rcases NumberMap.mem_place member with rfl | known
      · exact ⟨fits, distinct⟩
      · exact sound.filters entry known
  | withSort _ fits direction sound =>
      refine { sound with sorts := fun sort member => ?_ }
      rcases List.mem_append.mp member with known | added
      · exact sound.sorts sort known
      · exact (List.mem_singleton.mp added) ▸ fits
  | withSearch _ term sound => exact { sound with }
  | withPage _ startFits lengthFits sound =>
      exact { sound with
        start := startFits
        length_pos := lengthOr_pos (some _)
        length := lengthOr_le fun _ asked => Option.some.inj asked ▸ lengthFits }

/-! ### Reading a request back -/

/-- An order as it is written. -/
def sortJson (sort : Nat × SortDirection) : Json :=
  .array [.ofNat sort.1, .text sort.2.name]

/-- The fields of a request as they are written. -/
def members (request : GridRequest) : Json.Members :=
  [("echo", .ofOption Json.text request.echo),
    ("displayStart", .ofNat request.start),
    ("displayLength", .ofNat request.length),
    ("sortColumns", .array (request.sorts.map sortJson)),
    ("columnFilters", .object (Json.Decoder.numberedMembers id request.filters)),
    ("globalFilter", .text request.search),
    ("sortable", .object (Json.Decoder.numberedMembers Json.bool request.sortable)),
    ("searchable", .object (Json.Decoder.numberedMembers Json.bool request.searchable))]

theorem toJson_eq_members (request : GridRequest) : request.toJson = .object request.members := rfl

/-- The fields of a request as they stand in its document. -/
def writtenFields (request : GridRequest) : List (String × Json.Document) :=
  request.members.map fun entry => (entry.1, .ofJson entry.2)

/-- The reader knows all members of a written request. -/
theorem knownFields_members (request : GridRequest) :
    Json.Decoder.knownFields fieldNames (Json.Document.ofMembers request.members) =
      some request.writtenFields := by
  have keys : Assoc.keys request.members = fieldNames := rfl
  refine Json.Decoder.knownFields_ofMembers ?_ ?_
  · rw [keys]
    exact fun _ known => known
  · rw [keys]
    decide

/-- A written length is read just if it is a signed integer of 64 bits. -/
theorem lengthDecoder_ofNat (length budget : Nat) :
    lengthDecoder budget (.ofJson (.ofNat length)) =
      if (length : Int) ≤ Json.Number.greatestSigned then some (lengthOr (some length))
      else none := by
  have least : Json.Number.leastInteger ≤ (length : Int) :=
    Int.le_trans (by decide) (Int.natCast_nonneg length)
  rw [lengthDecoder, Json.ofNat, Json.Document.ofJson, Json.Decoder.integer]
  by_cases signed : (length : Int) ≤ Json.Number.greatestSigned
  · rw [if_pos ⟨least, signed⟩, if_pos signed]
    rfl
  · rw [if_neg (fun both => signed both.2), if_neg signed]
    rfl

/-- An order is read back from its pair of column and direction. -/
theorem read_sort {sort : Nat × SortDirection} (fits : sort.1 ≤ greatestWord) {budget : Nat}
    (enough : (sortJson sort).depth ≤ budget) :
    Json.Decoder.pair .word (.word? SortDirection.ofName?) budget (.ofJson (sortJson sort)) =
      some sort := by
  obtain ⟨inner, rfl, -⟩ := Json.enter_items enough
  have column := Json.Decoder.word_ofNat fits inner
  have direction : Json.Decoder.word? SortDirection.ofName? inner
      (.ofJson (.text sort.2.name)) = some sort.2 := by
    cases sort.2 <;> rfl
  change (do some (← Json.Decoder.word inner (.ofJson (.ofNat sort.1)),
    ← Json.Decoder.word? SortDirection.ofName? inner (.ofJson (.text sort.2.name)))) = some sort
  rw [column, direction]
  rfl

section Reading

variable {request : GridRequest} (sound : request.Sound) {budget : Nat}

theorem read_echo :
    Json.Decoder.withDefault request.writtenFields "echo" none (.optional .text) budget =
      some request.echo := by
  change Json.Decoder.optional .text budget (.ofJson (.ofOption Json.text request.echo)) = _
  cases request.echo <;> rfl

theorem read_search :
    Json.Decoder.withDefault request.writtenFields "globalFilter" "" .text budget =
      some request.search := rfl

include sound

/-- The start comes back over the whole range of words. -/
theorem read_start :
    Json.Decoder.withDefault request.writtenFields "displayStart" 0 .word budget =
      some request.start :=
  Json.Decoder.word_ofNat sound.start budget

/-- The length comes back from the lower half of the words only. -/
theorem read_length :
    Json.Decoder.withDefault request.writtenFields "displayLength" defaultLength lengthDecoder
        budget =
      if (request.length : Int) ≤ Json.Number.greatestSigned then some request.length
      else none := by
  change lengthDecoder budget (.ofJson (.ofNat request.length)) = _
  rw [lengthDecoder_ofNat, lengthOr_some_of_pos sound.length_pos]

variable (fitting : ∀ entry ∈ request.members, entry.2.depth ≤ budget)

include fitting

/-- The orders come back one by one. -/
theorem read_sorts :
    Json.Decoder.withDefault request.writtenFields "sortColumns" []
        (.list (.pair .word (.word? SortDirection.ofName?))) budget =
      some request.sorts := by
  have enough : (Json.array (request.sorts.map sortJson)).depth ≤ budget :=
    fitting ("sortColumns", .array (request.sorts.map sortJson)) (by simp [members])
  obtain ⟨inner, rfl, items⟩ := Json.enter_items enough
  exact Json.Decoder.list_ofItems sortJson fun sort member =>
    read_sort (sound.sorts sort member) (items _ (List.mem_map_of_mem member))

/-- The filters come back under the columns that they are written for. -/
theorem read_filters :
    Json.Decoder.withDefault request.writtenFields "columnFilters" .empty (.numbered Json.value)
        budget =
      some request.filters := by
  have enough : (Json.object (Json.Decoder.numberedMembers id request.filters)).depth ≤ budget :=
    fitting ("columnFilters", .object (Json.Decoder.numberedMembers id request.filters))
      (by simp [members])
  obtain ⟨inner, rfl, values⟩ := Json.enter_members enough
  exact Json.Decoder.numbered_ofMembers id (fun entry member => (sound.filters entry member).1)
    fun entry member => Json.value_ofJson (sound.filters entry member).2
      (values (toString entry.1, entry.2) (List.mem_map_of_mem member))

theorem read_sortable :
    Json.Decoder.withDefault request.writtenFields "sortable" .empty (.numbered .bool) budget =
      some request.sortable := by
  have enough : (Json.object (Json.Decoder.numberedMembers Json.bool request.sortable)).depth ≤
      budget :=
    fitting ("sortable", .object (Json.Decoder.numberedMembers Json.bool request.sortable))
      (by simp [members])
  obtain ⟨inner, rfl, -⟩ := Json.enter_members enough
  exact Json.Decoder.numbered_ofMembers Json.bool sound.sortable fun _ _ => rfl

theorem read_searchable :
    Json.Decoder.withDefault request.writtenFields "searchable" .empty (.numbered .bool) budget =
      some request.searchable := by
  have enough : (Json.object (Json.Decoder.numberedMembers Json.bool request.searchable)).depth ≤
      budget :=
    fitting ("searchable", .object (Json.Decoder.numberedMembers Json.bool request.searchable))
      (by simp [members])
  obtain ⟨inner, rfl, -⟩ := Json.enter_members enough
  exact Json.Decoder.numbered_ofMembers Json.bool sound.searchable fun _ _ => rfl

end Reading

/-- A sound request is read back as it was, or not at all for its length. -/
theorem decoder_toJson {request : GridRequest} (sound : request.Sound) {budget : Nat}
    (fits : request.toJson.depth ≤ budget) :
    decoder budget (.ofJson request.toJson) =
      if (request.length : Int) ≤ Json.Number.greatestSigned then some request else none := by
  rw [toJson_eq_members] at fits ⊢
  obtain ⟨inner, rfl, fitting⟩ := Json.enter_members fits
  rw [Json.Document.ofJson, decoder, Json.Decoder.record, request.knownFields_members,
    Option.bind_some, read_echo, read_start sound, read_length sound, read_sorts sound fitting,
    read_filters sound fitting, read_search, read_sortable sound fitting,
    read_searchable sound fitting]
  by_cases signed : (request.length : Int) ≤ Json.Number.greatestSigned
  · rw [if_pos signed, if_pos signed]
    rfl
  · rw [if_neg signed, if_neg signed]
    rfl

end GridRequest

/-- A request that can come about is read back as it was written, all of its numbers, filters
and switches included, exactly when its page length is a signed integer of 64 bits; a longer
page is not read at all. -/
theorem request_read_back_iff_length_signed {request : GridRequest} (built : request.Built)
    {budget : Nat} (fits : request.toJson.depth ≤ budget) :
    ((request.length : Int) ≤ Json.Number.greatestSigned →
      GridRequest.decoder budget (.ofJson request.toJson) = some request) ∧
    (Json.Number.greatestSigned < (request.length : Int) →
      GridRequest.decoder budget (.ofJson request.toJson) = none) := by
  have read := GridRequest.decoder_toJson built.sound fits
  refine ⟨fun signed => ?_, fun long => ?_⟩
  · rw [read, if_pos signed]
  · rw [read, if_neg (Int.not_le.mpr long)]

/-- A request with a filter that is an object, at the greatest column, and a second page of the
greatest length that is read back. -/
def lastColumnRequest : GridRequest :=
  ((({} : GridRequest).withFilter greatestWord (.object [("from", .ofNat 1)])).withSort 0
    .descending).withPage 25 (Nat.pow 2 63 - 1)

theorem lastColumnRequest_read_back :
    lastColumnRequest.Built ∧ lastColumnRequest.toJson.depth ≤ 3 ∧
      GridRequest.decoder 3 (.ofJson lastColumnRequest.toJson) = some lastColumnRequest := by
  have distinct : (Json.object [("from", .ofNat 1)]).Distinct := by
    simp [Json.Distinct, Json.MembersDistinct, Assoc.keys, Json.ofNat]
  have built : lastColumnRequest.Built :=
    ((GridRequest.Built.initial.withFilter (Nat.le_refl _) distinct).withSort (Nat.zero_le _)
      .descending).withPage (by decide) (by decide)
  have fits : lastColumnRequest.toJson.depth ≤ 3 := by decide
  exact ⟨built, fits, (request_read_back_iff_length_signed built fits).1 (by decide)⟩

/-- A page of `2 ^ 63` rows can be asked for by a parameter and by a call, and the request that
asks for it is written but not read. -/
theorem long_page_not_read_back :
    let request := ({} : GridRequest).withPage 0 (Nat.pow 2 63)
    request.Built ∧ request.length = Nat.pow 2 63 ∧
      (GridRequest.ofParameters (.ofPairs [("iDisplayLength", "9223372036854775808")])).length =
        request.length ∧
      Json.decode? GridRequest.decoder request.toJson = none := by
  intro request
  have built : request.Built := GridRequest.Built.initial.withPage (by decide) (by decide)
  have fits : request.toJson.depth ≤ Json.greatestDepth := by decide
  refine ⟨built, rfl, by decide +kernel, ?_⟩
  rw [Json.decode?, GridRequest.decoder_toJson built.sound fits, if_neg (by decide)]

end Backoffice
