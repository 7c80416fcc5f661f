import Blueprint.Json.Token

/-!
# Reading JSON

A tree is read by one pass over the tokens that keeps the collections which are
still open, innermost first.  Collections nest at most 127 deep.  Of several
entries with one key the last wins, and keys end up ascending.
-/

namespace Blueprint.Json

/-- A collection that is still open. -/
inductive Frame where
  /-- A sequence with its items so far, last first. -/
  | sequence (items : List Tree)
  /-- A mapping with its entries so far and the key whose value is being read. -/
  | mapping (entries : Entries Tree) (key : String)

/-- What may come next. -/
inductive Expectation where
  /-- A value. -/
  | value
  /-- A value, or the end of the sequence just opened. -/
  | valueOrClose
  /-- A key of a mapping with these entries. -/
  | key (entries : Entries Tree)
  /-- A key, or the end of the mapping just opened. -/
  | keyOrClose
  /-- The colon after this key of a mapping with these entries. -/
  | colon (entries : Entries Tree) (key : String)
  /-- A comma or the end of the innermost sequence, with these items, last first. -/
  | sequenceMark (items : List Tree)
  /-- A comma or the end of the innermost mapping, with these entries. -/
  | mappingMark (entries : Entries Tree)
  /-- Nothing: the text is complete. -/
  | done (tree : Tree)

/-- How far a text has been read. -/
structure Reading where
  /-- The collections around the place that is being read, without those that
  the expectation holds. -/
  frames : List Frame
  /-- What may come next. -/
  expects : Expectation

namespace Reading

/-- The greatest number of open collections. -/
def depthLimit : Nat := 127

/-- The number of collections around the place. -/
def depth (reading : Reading) : Nat :=
  match reading.expects with
  | .value | .done _ => reading.frames.length
  | _ => reading.frames.length + 1

/-- Continue after a complete value. -/
def complete (frames : List Frame) (value : Tree) : Reading :=
  match frames with
  | [] => ⟨[], .done value⟩
  | .sequence items :: outer => ⟨outer, .sequenceMark (value :: items)⟩
  | .mapping entries key :: outer => ⟨outer, .mappingMark (entries.insert key value)⟩

/-- Begin a value in some frames: a scalar is complete, a collection is opened. -/
def begin (frames : List Frame) : Token → Option Reading
  | .null => some (complete frames .null)
  | .bool value => some (complete frames (.bool value))
  | .number value => some (complete frames (.number value))
  | .string value => some (complete frames (.string value))
  | .openSequence => if frames.length < depthLimit then some ⟨frames, .valueOrClose⟩ else none
  | .openMapping => if frames.length < depthLimit then some ⟨frames, .keyOrClose⟩ else none
  | _ => none

/-- Read one token. -/
def next (reading : Reading) (token : Token) : Option Reading :=
  match reading.expects, token with
  | .value, token => begin reading.frames token
  | .valueOrClose, .closeSequence => some (complete reading.frames (.sequence []))
  | .valueOrClose, token => begin (.sequence [] :: reading.frames) token
  | .key entries, .string key => some ⟨reading.frames, .colon entries key⟩
  | .keyOrClose, .string key => some ⟨reading.frames, .colon [] key⟩
  | .keyOrClose, .closeMapping => some (complete reading.frames (.mapping []))
  | .colon entries key, .colon => some ⟨.mapping entries key :: reading.frames, .value⟩
  | .sequenceMark items, .comma => some ⟨.sequence items :: reading.frames, .value⟩
  | .sequenceMark items, .closeSequence =>
      some (complete reading.frames (.sequence items.reverse))
  | .mappingMark entries, .comma => some ⟨reading.frames, .key entries⟩
  | .mappingMark entries, .closeMapping => some (complete reading.frames (.mapping entries))
  | _, _ => none

end Reading

/-- The tree of a text, if it is one JSON value. -/
def read? (text : String) : Option Tree := do
  let tokens ← tokens? text.toList
  let reading ← tokens.foldlM Reading.next ⟨[], .value⟩
  match reading.expects with
  | .done tree => some tree
  | _ => none

end Blueprint.Json
